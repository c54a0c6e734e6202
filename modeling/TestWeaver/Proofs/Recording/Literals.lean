import TestWeaver.Recording.Literal

/-! The ways to write a text as a string literal, against the reader of literals. Backslashes are
paired from the left and a written sign holds whole pairs, so the preferred end of a literal is
the mark that was written to close it; decoding gives the text back sign by sign. -/
namespace TestWeaver.Recording

structure Numeral (digits : Text) (n : Nat) : Prop where
  hex : ∀ d ∈ digits, isHex d
  value : Text.hexadecimalValue digits = n

def controlLetters : List (Char × Char) :=
  [('n','\n'),('t','\t'),('r','\r'),('b','\x08'),('f','\x0c'),('v','\x0b')]

def escapeLetters : List Char := ['n','t','r','b','f','v','u','x']

/- One sign of a text as it may stand between two quotation marks: as it is, behind a backslash,
or by a number. A number past sixteen bits is one in braces, or a pair of halves. -/
inductive Spells (quote : CodePoint) (c : Char) : Text → Prop where
  | raw : c ≠ '\\' → .char c ≠ quote → c ≠ '\n' → Spells quote c [.char c]
  | guarded : c ∉ escapeLetters → c ≠ '\n' → Spells quote c [.char '\\',.char c]
  | control {letter} : (letter,c) ∈ controlLetters → Spells quote c [.char '\\',.char letter]
  | byte {digits} : digits.length = 2 → Numeral digits c.toNat → Spells quote c ("\\x" ++ digits)
  | unit {digits} : digits.length = 4 → Numeral digits c.toNat → Spells quote c ("\\u" ++ digits)
  | halves {high low h l} : high.length = 4 → low.length = 4 → h < 0x400 → l < 0x400 →
      Numeral high (0xD800 + h) → Numeral low (0xDC00 + l) → c.toNat = 0x10000 + h * 0x400 + l →
      Spells quote c ("\\u" ++ high ++ "\\u" ++ low)
  | braced {digits} : 1 ≤ digits.length → digits.length ≤ 6 → Numeral digits c.toNat →
      Spells quote c ("\\u\x7b" ++ digits ++ "\x7d")

inductive Spelled (quote : CodePoint) : List Char → Text → Prop where
  | nil : Spelled quote [] []
  | cons {c s w v} (here : Spells quote c w) (next : Spelled quote s v) : Spelled quote (c :: s) (w ++ v)

def enclosed (quote : CodePoint) (w : Text) : Text := quote :: (w ++ [quote])

section signs
variable {quote d : CodePoint}

theorem quoteCases (mark : isQuote quote) : quote = .char '"' ∨ quote = .char '\'' ∨ quote = .char '`' := by
  unfold isQuote at mark
  split at mark <;> simp_all

theorem hexSigns (hex : isHex d) :
    isQuote d = false ∧ d ≠ .char '\\' ∧ d ≠ .char '\n' ∧ d ≠ .char '\x7b' ∧ d ≠ .char '\x7d' := by
  refine ⟨?_,?_,?_,?_,?_⟩
  · rw [Bool.eq_false_iff]
    intro mark
    rcases quoteCases mark with rfl | rfl | rfl <;> exact absurd hex (by decide)
  all_goals
    rintro rfl
    exact absurd hex (by decide)

theorem notQuote (mark : isQuote quote) (other : isQuote d = false) : quote ≠ d := by
  rintro rfl
  rw [mark] at other
  contradiction

theorem quoteNotBackslash (mark : isQuote quote) : quote ≠ .char '\\' := notQuote mark rfl

end signs

def runAfter (run : Nat) (c : CodePoint) : Nat := if c = .char '\\' then run + 1 else 0

structure Tidy (quote : CodePoint) (w : Text) : Prop where
  noMark : quote ∉ w
  oneLine : CodePoint.char '\n' ∉ w
  last : w.getLast? ≠ some (.char '\\')

section ends
variable {quote : CodePoint} {body w t : Text} {run : Nat}

theorem closingsInside (noMark : quote ∉ w) (oneLine : CodePoint.char '\n' ∉ w) :
    closingsFrom quote body run (w ++ t) = closingsFrom quote (w.reverse ++ body) (w.foldl runAfter run) t := by
  induction w generalizing body run with
  | nil => rfl
  | cons c w ih =>
    rw [List.mem_cons,not_or] at noMark oneLine
    rw [List.cons_append,closingsFrom,if_neg (Ne.symm oneLine.1),if_neg (Ne.symm noMark.1),ih noMark.2 oneLine.2]
    simp [runAfter]

theorem runEnds (last : w.getLast? ≠ some (.char '\\')) (full : w ≠ []) : w.foldl runAfter run = 0 := by
  obtain ⟨front,d,rfl⟩ := List.eq_nil_or_concat w |>.resolve_left full
  have other : d ≠ .char '\\' := by simpa using last
  simp [runAfter,other]

theorem tidyAppend {front : Text} (noMark : quote ∉ front) (oneLine : CodePoint.char '\n' ∉ front)
    (tidy : Tidy quote w) (full : w ≠ []) : Tidy quote (front ++ w) where
  noMark := by simp [noMark,tidy.noMark]
  oneLine := by simp [oneLine,tidy.oneLine]
  last := by
    rw [List.getLast?_append,List.getLast?_eq_some_getLast full,Option.some_or]
    rw [← List.getLast?_eq_some_getLast full]
    exact tidy.last

theorem numeralTidy {n : Nat} (mark : isQuote quote) (numeral : Numeral w n) : Tidy quote w where
  noMark inside := notQuote mark (hexSigns (numeral.hex _ inside)).1 rfl
  oneLine inside := (hexSigns (numeral.hex _ inside)).2.2.1 rfl
  last last := (hexSigns (numeral.hex _ (List.mem_of_getLast? last))).2.1 rfl

theorem spellsShape {c : Char} (mark : isQuote quote) (spells : Spells quote c w) :
    Tidy quote w ∧ w ≠ [] ∨ w = [.char '\\',.char '\\'] ∨ w = [.char '\\',quote] := by
  have fixed : ∀ t : Text, (∀ d ∈ t, isQuote d = false) → quote ∉ t :=
    fun t others inside => notQuote mark (others quote inside) rfl
  have digits : ∀ {t : Text} {k : Nat}, t.length = k + 1 → t ≠ [] :=
    fun long => List.ne_nil_of_length_eq_add_one long
  cases spells with
  | raw other differs feed =>
    exact .inl ⟨⟨by simpa using differs.symm,by simpa using feed.symm,by simpa using other⟩,by simp⟩
  | guarded free feed =>
    by_cases slash : c = '\\'
    · exact .inr (.inl (by rw [slash]))
    · by_cases same : .char c = quote
      · exact .inr (.inr (by rw [same]))
      · refine .inl ⟨⟨?_,by simp [feed.symm],by simpa using slash⟩,by simp⟩
        simp [quoteNotBackslash mark,Ne.symm same]
  | @control letter listed =>
    have plain : ∀ p ∈ controlLetters, isQuote (.char p.1) = false ∧ p.1 ≠ '\n' ∧ p.1 ≠ '\\' := by decide
    obtain ⟨other,feed,slash⟩ := plain _ listed
    refine .inl ⟨⟨?_,by simp [feed.symm],by simpa using slash⟩,by simp⟩
    simp [quoteNotBackslash mark,notQuote mark other]
  | byte long numeral =>
    refine .inl ⟨tidyAppend (fixed _ (by decide)) (by decide) (numeralTidy mark numeral) (digits long),?_⟩
    simp [Text.ofString]
  | unit long numeral =>
    refine .inl ⟨tidyAppend (fixed _ (by decide)) (by decide) (numeralTidy mark numeral) (digits long),?_⟩
    simp [Text.ofString]
  | @halves high _ _ _ highLong lowLong _ _ highNumeral lowNumeral _ =>
    have front := numeralTidy mark highNumeral
    have escape := fixed "\\u" (by decide)
    refine .inl ⟨tidyAppend ?_ ?_ (numeralTidy mark lowNumeral) (digits lowLong),?_⟩
    · simp [escape,front.noMark]
    · simpa [Text.ofString] using front.oneLine
    · simp [Text.ofString]
  | braced some few numeral =>
    have inside := numeralTidy mark numeral
    have escape := fixed "\\u\x7b" (by decide)
    have close : Tidy quote "\x7d" := ⟨fixed _ (by decide),by decide,by decide⟩
    refine .inl ⟨tidyAppend ?_ ?_ close (by decide),?_⟩
    · simp [escape,inside.noMark]
    · simpa [Text.ofString] using inside.oneLine
    · simp [Text.ofString]

/- The only mark that a written sign may hold is guarded: it comes after an odd number of
backslashes, and to end there is the last choice. -/
theorem closingsSpells (body t : Text) {c : Char} (mark : isQuote quote) (spells : Spells quote c w) (even : run % 2 = 0) :
    ∃ next less, next % 2 = 0 ∧
      closingsFrom quote body run (w ++ t) = closingsFrom quote (w.reverse ++ body) next t ++ less := by
  have back := quoteNotBackslash mark
  have feed : quote ≠ .char '\n' := notQuote mark rfl
  rcases spellsShape mark spells with ⟨tidy,full⟩ | rfl | rfl
  · refine ⟨0,[],rfl,?_⟩
    rw [closingsInside tidy.noMark tidy.oneLine,runEnds tidy.last full,List.append_nil]
  · refine ⟨run + 2,[],by omega,?_⟩
    rw [closingsInside (by simp [back]) (by decide),List.append_nil]
    rfl
  · have odd : ¬ (run + 1) % 2 = 0 := by omega
    have guarded : closingsFrom quote body run ([.char '\\',quote] ++ t) =
        closingsFrom quote (quote :: .char '\\' :: body) 0 t ++ [((.char '\\' :: body).reverse,t)] := by
      simp [closingsFrom,back.symm,feed,odd]
    exact ⟨0,_,rfl,guarded⟩

theorem closingsSpelled (body t : Text) {s : List Char} (mark : isQuote quote) (spelled : Spelled quote s w) (even : run % 2 = 0) :
    ∃ next less, next % 2 = 0 ∧
      closingsFrom quote body run (w ++ t) = closingsFrom quote (w.reverse ++ body) next t ++ less := by
  induction spelled generalizing body run with
  | nil => exact ⟨run,[],even,by simp⟩
  | @cons c s w v here _ ih =>
    obtain ⟨next,less,kept,first⟩ := closingsSpells body (v ++ t) mark here even
    obtain ⟨last,fewer,ends,rest⟩ := ih (w.reverse ++ body) kept
    refine ⟨last,fewer ++ less,ends,?_⟩
    rw [List.append_assoc,first,rest]
    simp

end ends

section literals
variable {quote : CodePoint} {s : List Char} {w t : Text}

theorem literalFirst (mark : isQuote quote) (spelled : Spelled quote s w) :
    (literals (enclosed quote w ++ t)).head? = some (w,t) := by
  obtain ⟨next,less,even,read⟩ := @closingsSpelled quote w 0 [] (quote :: t) _ mark spelled rfl
  have feed : quote ≠ .char '\n' := notQuote mark rfl
  have opened : literals (enclosed quote w ++ t) = closingsFrom quote [] 0 (w ++ quote :: t) := by
    simp [literals,enclosed,mark]
  rw [opened,read,List.append_nil,closingsFrom,if_neg feed,if_pos rfl,List.reverse_reverse]
  split
  · rfl
  · rfl

end literals

section decoding
variable {quote : CodePoint} {w t : Text}

theorem ofNatOfChar (c : Char) : CodePoint.ofNat? c.toNat = some (.char c) := by
  have valid : c.toNat < 0xD800 ∨ 0xDFFF < c.toNat ∧ c.toNat < 0x110000 := c.valid
  have scalar : ¬ (0xD800 ≤ c.toNat ∧ c.toNat < 0xE000) := by omega
  have low : c.toNat < 0x110000 := by omega
  rw [CodePoint.ofNat?,if_neg scalar,if_pos low,Char.ofNat_toNat]

theorem ofNatOfHalf {n : Nat} (low : n < 2048) : CodePoint.ofNat? (0xD800 + n) = some (.half ⟨n,low⟩) := by
  have half : 0xD800 ≤ 0xD800 + n ∧ 0xD800 + n < 0xE000 := by omega
  have same : Fin.ofNat 2048 (0xD800 + n - 0xD800) = ⟨n,low⟩ := by
    apply Fin.ext
    rw [Fin.val_ofNat,Nat.add_sub_cancel_left,Nat.mod_eq_of_lt low]
  rw [CodePoint.ofNat?,if_pos half,same]

theorem decodeSkips (passed t : Text) : decodeFrom passed.length (passed ++ t) = decodeFrom 0 t := by
  induction passed with
  | nil => rfl
  | cons c passed ih => simpa [decodeFrom] using ih

theorem decodeEscape {e : CodePoint} {u out : Text} (escape : escapeAfter e (u ++ t) = (out,u.length + 1)) :
    decodeFrom 0 (.char '\\' :: e :: (u ++ t)) = out ++ decodeFrom 0 t := by
  have covered : decodeFrom (u.length + 1) (e :: (u ++ t)) = decodeFrom 0 t := decodeSkips (e :: u) t
  simp only [decodeFrom,if_true,escape,covered]

theorem fixedOfNumeral {digits : Text} {n : Nat} {p : CodePoint} (numeral : Numeral digits n)
    (point : CodePoint.ofNat? n = some p) (t : Text) :
    fixedEscape? digits.length (digits ++ t) = some ([p],digits.length) := by
  have all : digits.all isHex := List.all_eq_true.mpr numeral.hex
  simp [fixedEscape?,all,numeral.value,point]

theorem decodeUnit {digits : Text} {n : Nat} {p : CodePoint} (long : digits.length = 4) (numeral : Numeral digits n)
    (point : CodePoint.ofNat? n = some p) (t : Text) :
    decodeFrom 0 ("\\u" ++ digits ++ t) = p :: decodeFrom 0 t := by
  have fixed := fixedOfNumeral numeral point t
  rw [long] at fixed
  have escape : escapeAfter (.char 'u') (digits ++ t) = ([p],digits.length + 1) := by
    obtain ⟨d,rest,rfl⟩ := List.exists_cons_of_length_eq_add_one long
    have brace := (hexSigns (numeral.hex d List.mem_cons_self)).2.2.2.1
    unfold escapeAfter
    simp only [if_true]
    split
    · rename_i opened
      exact absurd (List.cons.inj opened).1 brace
    · rw [fixed,long]
      rfl
  exact decodeEscape escape

theorem decodeByte {digits : Text} {c : Char} (long : digits.length = 2) (numeral : Numeral digits c.toNat)
    (t : Text) : decodeFrom 0 ("\\x" ++ digits ++ t) = .char c :: decodeFrom 0 t := by
  have fixed := fixedOfNumeral numeral (ofNatOfChar c) t
  rw [long] at fixed
  have escape : escapeAfter (.char 'x') (digits ++ t) = ([.char c],digits.length + 1) := by
    have other : CodePoint.char 'x' ≠ .char 'u' := by decide
    unfold escapeAfter
    simp only [if_neg other,if_true]
    rw [fixed,long]
    rfl
  exact decodeEscape escape

theorem takeNumeral {digits : Text} {n : Nat} (numeral : Numeral digits n) (t : Text) :
    (digits ++ .char '\x7d' :: t).takeWhile isHex = digits := by
  rw [List.takeWhile_append_of_pos numeral.hex,List.takeWhile_cons_of_neg (by decide),List.append_nil]

theorem decodeBraced {digits : Text} {c : Char} (some : 1 ≤ digits.length) (few : digits.length ≤ 6)
    (numeral : Numeral digits c.toNat) (t : Text) :
    decodeFrom 0 ("\\u\x7b" ++ digits ++ "\x7d" ++ t) = .char c :: decodeFrom 0 t := by
  have braced : bracedEscape? (digits ++ .char '\x7d' :: t) = .some ([.char c],digits.length + 1) := by
    have closes : (digits ++ .char '\x7d' :: t)[digits.length]? = .some (.char '\x7d') := by simp
    simp only [bracedEscape?,takeNumeral numeral t,numeral.value,ofNatOfChar]
    rw [if_pos ⟨some,few,closes⟩]
  have escape : escapeAfter (.char 'u') (.char '\x7b' :: (digits ++ [.char '\x7d']) ++ t) =
      ([.char c],(CodePoint.char '\x7b' :: (digits ++ [.char '\x7d'])).length + 1) := by
    unfold escapeAfter
    simp [braced]
  simpa [Text.ofString] using decodeEscape escape

theorem decodeLetter {e c : Char} (plain : e ≠ 'u' ∧ e ≠ 'x') (named : (controlEscape? (.char e)).getD (.char e) = .char c)
    (t : Text) : decodeFrom 0 ([.char '\\',.char e] ++ t) = .char c :: decodeFrom 0 t := by
  have escape : escapeAfter (.char e) ([] ++ t) = ([.char c],([] : Text).length + 1) := by
    simp [escapeAfter,plain,named]
  exact decodeEscape escape

theorem controlOfOther {c : Char} (free : c ∉ escapeLetters) : controlEscape? (.char c) = none := by
  simp only [escapeLetters,List.mem_cons,List.not_mem_nil,or_false,not_or] at free
  unfold controlEscape?
  split <;> simp_all

theorem pairOfHalves {c : Char} {h l : Nat} (high : h < 0x400) (low : l < 0x400)
    (paired : c.toNat = 0x10000 + h * 0x400 + l) (rest : Text) :
    Text.joinPairs (.half ⟨h,by omega⟩ :: .half ⟨0x400 + l,by omega⟩ :: rest) = .char c :: Text.joinPairs rest := by
  have both : (Text.isHigh ⟨h,by omega⟩ && !Text.isHigh ⟨0x400 + l,by omega⟩) = true := by
    simp [Text.isHigh,high]
  have pair : Text.pairOf ⟨h,by omega⟩ ⟨0x400 + l,by omega⟩ = .char c := by
    have number : 0x10000 + h * 0x400 + (0x400 + l - 0x400) = c.toNat := by omega
    simp only [Text.pairOf,number,ofNatOfChar,Option.getD_some]
  rw [Text.joinPairs,if_pos both,pair]

theorem decodeSpells {c : Char} (spells : Spells quote c w) : ∃ out,
    (∀ t, decodeFrom 0 (w ++ t) = out ++ decodeFrom 0 t) ∧
    ∀ rest, Text.joinPairs (out ++ rest) = .char c :: Text.joinPairs rest := by
  have alone : ∀ rest, Text.joinPairs ([.char c] ++ rest) = .char c :: Text.joinPairs rest := fun rest => by
    simp [Text.joinPairs]
  cases spells with
  | raw other _ _ => exact ⟨[.char c],fun t => by simp [decodeFrom,other],alone⟩
  | guarded free _ =>
    have plain : c ≠ 'u' ∧ c ≠ 'x' := by
      constructor <;> rintro rfl <;> exact free (by decide)
    exact ⟨[.char c],decodeLetter plain (by rw [controlOfOther free]; rfl),alone⟩
  | @control letter listed =>
    have known : ∀ p ∈ controlLetters, (p.1 ≠ 'u' ∧ p.1 ≠ 'x') ∧
      (controlEscape? (.char p.1)).getD (.char p.1) = .char p.2 := by decide
    obtain ⟨plain,named⟩ := known _ listed
    exact ⟨[.char c],decodeLetter plain named,alone⟩
  | byte long numeral => exact ⟨[.char c],decodeByte long numeral,alone⟩
  | unit long numeral => exact ⟨[.char c],decodeUnit long numeral (ofNatOfChar c),alone⟩
  | @halves high low h l highLong lowLong highSmall lowSmall highNumeral lowNumeral paired =>
    have upper := ofNatOfHalf (n := h) (by omega)
    have lower := ofNatOfHalf (n := 0x400 + l) (by omega)
    have second : Numeral low (0xD800 + (0x400 + l)) := ⟨lowNumeral.hex,by rw [lowNumeral.value]; omega⟩
    refine ⟨[.half ⟨h,by omega⟩,.half ⟨0x400 + l,by omega⟩],fun t => ?_,pairOfHalves highSmall lowSmall paired⟩
    have next := decodeUnit lowLong second lower t
    rw [List.append_assoc,List.append_assoc,decodeUnit highLong highNumeral upper,← List.append_assoc,next]
    rfl
  | braced some few numeral => exact ⟨[.char c],decodeBraced some few numeral,alone⟩

theorem unescapeSpelled {s : List Char} (spelled : Spelled quote s w) : unescape w = s.map .char := by
  have joined : Text.joinPairs (decodeFrom 0 w) = s.map .char := by
    induction spelled with
    | nil => rfl
    | @cons c s w v here _ ih =>
      obtain ⟨out,decoded,joins⟩ := decodeSpells here
      rw [decoded,joins,ih]
      rfl
  rw [unescape,joined,withoutHalves,List.map_map]
  rfl

end decoding
end TestWeaver.Recording
