import TestWeaver.Proofs.Story.Sections

/-! Lines that open a criterion: with a mark, or with a step word. A mark is taken off in one way only, as no mark
begins like another one or like a step word. -/
namespace TestWeaver.Criteria

/- The line, and what stands behind its mark. Behind a label and a box, what belongs to the mark is taken whole. -/
inductive Marked : Text → Text → Prop where
  | dot {rest} : Marked (.char '•' :: rest) rest
  | sign {mark c rest} : mark = .char '-' ∨ mark = .char '*' → c.isBlank → Marked (mark :: c :: rest) rest
  | number {digits c rest} : digits ≠ [] → (∀ d ∈ digits, d.isDecimal) → c.isBlank →
      Marked (digits ++ .char '.' :: c :: rest) rest
  | bareNumber {digits} : digits ≠ [] → (∀ d ∈ digits, d.isDecimal) → Marked (digits ++ [.char '.']) []
  | label {said gap digits ends rest} : Text.isCaselessly "ac" said → (∀ c ∈ gap, c.isBlank) → digits ≠ [] →
      (∀ d ∈ digits, d.isDecimal) → ends ≠ [] → (∀ c ∈ ends, isLabelEnd c) → (∀ c ∈ rest.head?, isLabelEnd c = false) →
      Marked (said ++ (gap ++ (digits ++ (ends ++ rest)))) rest
  | box {gap cross more after rest} : (∀ c ∈ gap, c.isBlank) → cross = [] ∨ cross = [.char 'x'] ∨ cross = [.char 'X'] →
      (∀ c ∈ more, c.isBlank) → (∀ c ∈ after, c.isBlank) → (∀ c ∈ rest.head?, c.isBlank = false) →
      Marked (.char '[' :: (gap ++ (cross ++ (more ++ .char ']' :: (after ++ rest))))) rest

def BeginsStep (line : Text) : Prop :=
  ∃ word ∈ openingWords, ∃ said c rest, line = said ++ c :: rest ∧ Text.isCaselessly word said ∧ c.isBlank

inductive Opening : Text → Text → Prop where
  | marked {line rest} : Marked line rest → Opening line rest.trim
  | step {line} : BeginsStep line → Opening line line

section signs
variable {c : CodePoint}

theorem decimalPlace (decimal : c.isDecimal) : c.isDigit ∨ 0x80 ≤ c.value ∧ c.isBlank = false := by
  cases c with
  | half u => exact absurd decimal Bool.false_ne_true
  | char c =>
    by_cases low : c.toNat < 0x80
    · rw [CodePoint.isDecimal,if_pos low] at decimal
      exact .inl decimal
    · rw [CodePoint.isDecimal,if_neg low] at decimal
      have apart : ∀ range ∈ decimalRanges, 0x660 ≤ range.1 ∧ range.2 < 0x1680 ∨
          0x1680 < range.1 ∧ range.2 < 0x2000 ∨ 0x3000 < range.1 := by decide
      obtain ⟨range,listed,inside⟩ := List.any_eq_true.mp decimal
      obtain ⟨least,most⟩ := Bool.and_eq_true_iff.mp inside
      have least := of_decide_eq_true least
      have most := of_decide_eq_true most
      have place := apart range listed
      refine .inr ⟨by simpa [CodePoint.value] using low,?_⟩
      simp only [CodePoint.isBlank,Bool.or_eq_false_iff,Bool.and_eq_false_iff,decide_eq_false_iff_not,
        beq_eq_false_iff_ne]
      omega

theorem decimalDark (decimal : c.isDecimal) : c.isBlank = false := by
  rcases decimalPlace decimal with digit | ⟨_,dark⟩
  · exact CodePoint.notBlankOfAlnum (by simp [CodePoint.isAlnum,digit])
  · exact dark

theorem decimalOther {d : Char} (low : d.toNat < 0x80) (sign : (CodePoint.char d).isDigit = false) (decimal : c.isDecimal) :
    c ≠ .char d := by
  rintro rfl
  rw [CodePoint.isDecimal,if_pos low,sign] at decimal
  contradiction

theorem decimalEnd (decimal : c.isDecimal) : isLabelEnd c = false := by
  have colon := decimalOther (d := ':') (by decide) (by decide) decimal
  have point := decimalOther (d := '.') (by decide) (by decide) decimal
  simp [isLabelEnd,colon,point,decimalDark decimal]

def firstLetters : List Char := ['a','g','w','t']

theorem caselesslySmall {letter : Char} (plain : letter ≠ 'k' ∧ letter ≠ 's' ∧ letter ≠ 'i') :
    c.isCaselessly letter = (c.small == .char letter) := by
  obtain ⟨k,s,i⟩ := plain
  simp [CodePoint.isCaselessly,beq_false_of_ne k,beq_false_of_ne s,beq_false_of_ne i]

theorem caselesslyCons {letter : Char} {w : List Char} {t rest : Text}
    (read : Text.afterCaselessly? (letter :: w) t = some rest) :
    ∃ a u, t = a :: u ∧ a.isCaselessly letter ∧ Text.afterCaselessly? w u = some rest := by
  cases t with
  | nil => contradiction
  | cons a u =>
    cases same : a.isCaselessly letter with
    | false => simp [Text.afterCaselessly?,same] at read
    | true => exact ⟨a,u,rfl,same,by simpa [Text.afterCaselessly?,same] using read⟩

theorem letterSign {letter : Char} (listed : letter ∈ firstLetters) (same : c.isCaselessly letter) :
    c ≠ .char '•' ∧ c ≠ .char '-' ∧ c ≠ .char '*' ∧ c ≠ .char '[' ∧ c.isDecimal = false := by
  obtain ⟨plain,ascii⟩ : (letter ≠ 'k' ∧ letter ≠ 's' ∧ letter ≠ 'i') ∧ letter.toNat < 0x80 := by
    simp only [firstLetters,List.mem_cons,List.not_mem_nil,or_false] at listed
    rcases listed with rfl | rfl | rfl | rfl <;> decide
  have small : c.small = .char letter := by rwa [caselesslySmall plain,beq_iff_eq] at same
  have low : c.value < 0x80 := by
    by_contra beyond
    rw [smallBeyond (by omega)] at small
    exact beyond (small ▸ ascii)
  have each : ∀ n < 128, (CodePoint.char (Char.ofNat n)).small ∈ firstLetters.map CodePoint.char →
      CodePoint.char (Char.ofNat n) ≠ .char '•' ∧ CodePoint.char (Char.ofNat n) ≠ .char '-' ∧
      CodePoint.char (Char.ofNat n) ≠ .char '*' ∧ CodePoint.char (Char.ofNat n) ≠ .char '[' ∧
      (CodePoint.char (Char.ofNat n)).isDecimal = false := by decide +kernel
  exact CodePoint.asciiForall (P := fun c => c.small ∈ firstLetters.map CodePoint.char → c ≠ .char '•' ∧ c ≠ .char '-' ∧
    c ≠ .char '*' ∧ c ≠ .char '[' ∧ c.isDecimal = false) each low (small ▸ List.mem_map_of_mem listed)

end signs
section marks
variable {c : CodePoint} {t rest line : Text}

theorem bulletMarked (found : afterBullet? line = some rest) : Marked line rest := by
  unfold afterBullet? at found
  split at found
  · cases found
    exact .dot
  · split at found
    · rename_i blank
      cases found
      exact .sign (.inl rfl) blank
    · contradiction
  · split at found
    · rename_i blank
      cases found
      exact .sign (.inr rfl) blank
    · contradiction
  · contradiction

theorem numberMarked (found : afterNumber? line = some rest) : Marked line rest := by
  obtain ⟨digits,whole,decimal,_⟩ := Text.takenParts CodePoint.isDecimal line
  unfold afterNumber? at found
  simp only at found
  split at found
  · rename_i shorter
    have full : digits ≠ [] := by
      rintro rfl
      rw [List.nil_append] at whole
      rw [← whole] at shorter
      omega
    split at found
    · rename_i same
      cases found
      rw [whole,same]
      exact .bareNumber full decimal
    · rename_i same
      split at found
      · rename_i blank
        cases found
        rw [whole,same]
        exact .number full decimal blank
      · contradiction
    · contradiction
  · contradiction

theorem labelMarked (found : afterLabel? line = some rest) : Marked line rest := by
  unfold afterLabel? at found
  simp only [Option.bind_eq_bind,Option.bind_eq_some_iff] at found
  obtain ⟨behind,read,found⟩ := found
  obtain ⟨said,rfl,spelled⟩ := Text.caselesslySome read
  obtain ⟨gap,gapped,blank,_⟩ := Text.takenParts CodePoint.isBlank behind
  obtain ⟨digits,numbered,decimal,_⟩ := Text.takenParts CodePoint.isDecimal behind.dropBlank
  obtain ⟨ends,ended,closes,stops⟩ := Text.takenParts isLabelEnd (behind.dropBlank.dropWhile CodePoint.isDecimal)
  split at found
  · rename_i given
    obtain ⟨shorter,first⟩ := Bool.and_eq_true_iff.mp given
    obtain rfl := Option.some.inj found
    have full : digits ≠ [] := by
      rintro rfl
      rw [List.nil_append] at numbered
      rw [← numbered] at shorter
      simp at shorter
    have point : ends ≠ [] := by
      rintro rfl
      obtain ⟨c,head,closing⟩ := (Option.any_eq_true _ _).mp first
      rw [List.nil_append] at ended
      rw [stops c (ended ▸ head)] at closing
      contradiction
    have label : Text.isCaselessly "ac" said := beq_iff_eq.mpr spelled
    have marked := Marked.label label blank full decimal point closes stops
    rwa [← ended,← numbered,Text.dropBlank,← gapped] at marked
  · contradiction

theorem crossParts (t : Text) : ∃ cross, t = cross ++ dropCross t ∧ (cross = [] ∨ cross = [.char 'x'] ∨ cross = [.char 'X']) := by
  unfold dropCross
  split
  · exact ⟨[.char 'x'],rfl,.inr (.inl rfl)⟩
  · exact ⟨[.char 'X'],rfl,.inr (.inr rfl)⟩
  · exact ⟨[],rfl,.inl rfl⟩

theorem boxMarked (found : afterBox? line = some rest) : Marked line rest := by
  obtain ⟨inner,opened,found⟩ := Option.bind_eq_some_iff.mp found
  obtain ⟨outer,closed,rfl⟩ := Option.map_eq_some_iff.mp found
  obtain ⟨gap,gapped,blank,_⟩ := Text.takenParts CodePoint.isBlank inner
  obtain ⟨cross,crossed,sign⟩ := crossParts inner.dropBlank
  obtain ⟨more,spaced,blank₁,_⟩ := Text.takenParts CodePoint.isBlank (dropCross inner.dropBlank)
  obtain ⟨after,behind,blank₂,dark⟩ := Text.takenParts CodePoint.isBlank outer
  have close : (dropCross inner.dropBlank).dropBlank = .char ']' :: outer := Text.afterLeadSome.mp closed
  have whole : line = .char '[' :: (gap ++ (cross ++ (more ++ .char ']' :: (after ++ outer.dropBlank)))) := by
    rw [Text.dropBlank,← behind,← close,Text.dropBlank,← spaced,← crossed,Text.dropBlank,← gapped]
    exact Text.afterLeadSome.mp opened
  rw [whole]
  exact .box blank sign blank₁ blank₂ dark

theorem markerOr (line : Text) : afterMarker? line =
    (afterBullet? line).or ((afterNumber? line).or ((afterLabel? line).or (afterBox? line))) := by
  simp only [afterMarker?,Option.orElse_eq_orElse,Option.orElse_eq_or]

theorem markerMarked (found : afterMarker? line = some rest) : Marked line rest := by
  rw [markerOr,Option.or_eq_some_iff] at found
  rcases found with bullet | ⟨_,found⟩
  · exact bulletMarked bullet
  rcases Option.or_eq_some_iff.mp found with number | ⟨_,found⟩
  · exact numberMarked number
  rcases Option.or_eq_some_iff.mp found with label | ⟨_,box⟩
  · exact labelMarked label
  · exact boxMarked box

theorem bulletPast (dot : c ≠ .char '•') (dash : c ≠ .char '-') (star : c ≠ .char '*') : afterBullet? (c :: t) = none := by
  simp [afterBullet?,dot,dash,star]

theorem numberPast (other : c.isDecimal = false) : afterNumber? (c :: t) = none := by
  rw [afterNumber?,List.dropWhile_cons_of_neg (by simp [other])]
  simp

theorem labelPast (past : Text.afterCaselessly? "ac".toList t = none) : afterLabel? t = none := by
  rw [afterLabel?,past]
  rfl

theorem boxPast (other : c ≠ .char '[') : afterBox? (c :: t) = none := by
  cases read : Text.afterLead? (c :: t) "[" with
  | none => rw [afterBox?,read,Option.bind_none]
  | some rest => exact absurd (List.cons.inj (Text.afterLeadSome.mp read)).1 other

section parts
variable {digits said gap ends cross more after : Text}

theorem digitsTaken (full : digits ≠ []) (decimal : ∀ d ∈ digits, d.isDecimal) (other : c.isDecimal = false) :
    (digits ++ c :: t).dropWhile CodePoint.isDecimal = c :: t ∧ (c :: t).length < (digits ++ c :: t).length := by
  refine ⟨Text.takenOff decimal (by simpa using other),?_⟩
  have := List.length_pos_iff.mpr full
  rw [List.length_append]
  omega

theorem digitsBullet (full : digits ≠ []) (decimal : ∀ d ∈ digits, d.isDecimal) : afterBullet? (digits ++ t) = none := by
  obtain ⟨d,digits,rfl⟩ := List.exists_cons_of_ne_nil full
  have here := decimal d List.mem_cons_self
  refine bulletPast ?_ (decimalOther (by decide) (by decide) here) (decimalOther (by decide) (by decide) here)
  rintro rfl
  exact absurd here (by decide +kernel)

theorem labelTaken (spelled : Text.isCaselessly "ac" said) (blank : ∀ c ∈ gap, c.isBlank) (full : digits ≠ [])
    (decimal : ∀ d ∈ digits, d.isDecimal) (some : ends ≠ []) (closes : ∀ c ∈ ends, isLabelEnd c)
    (stops : ∀ c ∈ rest.head?, isLabelEnd c = false) :
    afterLabel? (said ++ (gap ++ (digits ++ (ends ++ rest)))) = rest := by
  obtain ⟨e,more,rfl⟩ := List.exists_cons_of_ne_nil some
  have ending := closes e List.mem_cons_self
  have sign : e.isDecimal = false := by
    rw [Bool.eq_false_iff]
    intro digit
    rw [decimalEnd digit] at ending
    contradiction
  obtain ⟨taken,shorter⟩ := digitsTaken (t := more ++ rest) full decimal sign
  have gapped : Text.dropBlank (gap ++ (digits ++ (e :: more ++ rest))) = digits ++ (e :: more ++ rest) := by
    refine Text.takenOff blank ?_
    obtain ⟨d,others,rfl⟩ := List.exists_cons_of_ne_nil full
    simpa using decimalDark (decimal d List.mem_cons_self)
  have numbered : (digits ++ (e :: more ++ rest)).dropWhile CodePoint.isDecimal = e :: more ++ rest := taken
  rw [afterLabel?,Text.caselesslyAppend (beq_iff_eq.mp spelled)]
  show (if _ then Option.some (List.dropWhile isLabelEnd (List.dropWhile CodePoint.isDecimal (Text.dropBlank _))) else _) = _
  simp only [List.nil_append,gapped,numbered,Text.takenOff closes stops]
  exact if_pos (by simpa [ending] using shorter)

theorem boxTaken (blank : ∀ c ∈ gap, c.isBlank) (sign : cross = [] ∨ cross = [.char 'x'] ∨ cross = [.char 'X'])
    (blank₁ : ∀ c ∈ more, c.isBlank) (blank₂ : ∀ c ∈ after, c.isBlank) (dark : ∀ c ∈ rest.head?, c.isBlank = false) :
    afterBox? (.char '[' :: (gap ++ (cross ++ (more ++ .char ']' :: (after ++ rest))))) = rest := by
  generalize behind : CodePoint.char ']' :: (after ++ rest) = outer
  have head : ∀ c ∈ outer.head?, c.isBlank = false := by
    rw [← behind]
    simp
    decide
  have close : Text.dropBlank (more ++ outer) = outer := Text.takenOff blank₁ head
  have gapped : ∀ sign : CodePoint, sign.isBlank = false →
      Text.dropBlank (gap ++ ([sign] ++ (more ++ outer))) = sign :: (more ++ outer) :=
    fun _ dark => Text.takenOff blank (by simpa using dark)
  have crossed : Text.dropBlank (dropCross (Text.dropBlank (gap ++ (cross ++ (more ++ outer))))) = outer := by
    rcases sign with rfl | rfl | rfl
    · have bare : dropCross outer = outer := by rw [← behind,dropCross] <;> simp
      have gapped : Text.dropBlank (gap ++ (more ++ outer)) = Text.dropBlank (more ++ outer) :=
        List.dropWhile_append_of_pos blank
      rw [List.nil_append,gapped,close,bare]
      exact Text.dropWhileSelf head
    · rw [gapped _ (by decide)]
      exact close
    · rw [gapped _ (by decide)]
      exact close
  have opened : Text.afterLead? (.char '[' :: (gap ++ (cross ++ (more ++ outer)))) "[" = some (gap ++ (cross ++ (more ++ outer))) :=
    Text.afterLeadSome.mpr rfl
  have closed : Text.afterLead? outer "]" = some (after ++ rest) := Text.afterLeadSome.mpr behind.symm
  have last : Text.dropBlank (after ++ rest) = rest := Text.takenOff blank₂ dark
  rw [afterBox?,opened,Option.bind_some,crossed,closed,Option.map_some,last]

end parts

theorem markedMarker (marked : Marked line rest) : afterMarker? line = some rest := by
  rw [markerOr]
  cases marked with
  | dot => rfl
  | @sign mark c _ sign blank =>
    have bullet : afterBullet? (mark :: c :: rest) = some rest := by
      rcases sign with rfl | rfl <;> exact if_pos blank
    rw [bullet,Option.some_or]
  | @number digits c _ full decimal blank =>
    obtain ⟨taken,shorter⟩ := digitsTaken (t := c :: rest) full decimal (by decide : (CodePoint.char '.').isDecimal = false)
    rw [digitsBullet full decimal,Option.none_or,afterNumber?,taken]
    simp only [if_pos shorter,if_pos blank,Option.some_or]
  | bareNumber full decimal =>
    obtain ⟨taken,shorter⟩ := digitsTaken (t := []) full decimal (by decide : (CodePoint.char '.').isDecimal = false)
    rw [digitsBullet full decimal,Option.none_or,afterNumber?,taken]
    simp only [if_pos shorter,Option.some_or]
  | @label said gap digits ends _ spelled blank full decimal point closes stops =>
    have taken := labelTaken spelled blank full decimal point closes stops
    obtain ⟨a,said,rfl,letter,_⟩ := caselesslyCons (beq_iff_eq.mp spelled)
    obtain ⟨dot,dash,star,_,other⟩ := letterSign (by decide) letter
    rw [List.cons_append] at taken ⊢
    rw [bulletPast dot dash star,Option.none_or,numberPast other,Option.none_or,taken,Option.some_or]
  | box blank sign blank₁ blank₂ dark =>
    rw [bulletPast (by decide) (by decide) (by decide),Option.none_or,numberPast (by decide),Option.none_or,
      labelPast rfl,Option.none_or,boxTaken blank sign blank₁ blank₂ dark]

theorem markerIff : afterMarker? line = some rest ↔ Marked line rest := ⟨markerMarked,markedMarker⟩

theorem startsStepIff : startsStep line ↔ BeginsStep line := by
  rw [startsStep,List.any_eq_true]
  constructor
  · rintro ⟨word,listed,found⟩
    obtain ⟨c,taken,blank⟩ := (Option.any_eq_true _ _).mp found
    obtain ⟨behind,read,first⟩ := Option.bind_eq_some_iff.mp taken
    obtain ⟨said,rfl,spelled⟩ := Text.caselesslySome read
    obtain ⟨rest,rfl⟩ := List.head?_eq_some_iff.mp first
    exact ⟨word,listed,said,c,rest,rfl,beq_iff_eq.mpr spelled,blank⟩
  · rintro ⟨word,listed,said,c,rest,rfl,spelled,blank⟩
    refine ⟨word,listed,?_⟩
    rw [Text.caselesslyAppend (beq_iff_eq.mp spelled)]
    exact blank

end marks

section opening
variable {line opening rest : Text}

theorem stepLabel {word : String} (listed : word ∈ openingWords) (spelled : Text.afterCaselessly? word.toList line = some rest) :
    Text.afterCaselessly? "ac".toList line = none := by
  cases label : Text.afterCaselessly? "ac".toList line with
  | none => rfl
  | some behind =>
    obtain ⟨a,t,rfl,first,read⟩ := caselesslyCons label
    obtain ⟨b,u,rfl,second,_⟩ := caselesslyCons read
    rw [caselesslySmall (by decide),beq_iff_eq] at first second
    have unlike : ∀ {letter w}, letter ≠ 'k' ∧ letter ≠ 's' ∧ letter ≠ 'i' → letter ≠ 'a' →
        Text.afterCaselessly? (letter :: w) (a :: b :: u) ≠ some rest := by
      intro letter w plain other spelled
      obtain ⟨_,_,same,sign,_⟩ := caselesslyCons spelled
      obtain ⟨rfl,_⟩ := List.cons.inj same
      rw [caselesslySmall plain,first,beq_iff_eq] at sign
      exact other (CodePoint.char.inj sign).symm
    simp only [openingWords,List.mem_cons,List.not_mem_nil,or_false] at listed
    rcases listed with rfl | rfl | rfl | rfl
    · exact absurd spelled (unlike (by decide) (by decide))
    · exact absurd spelled (unlike (by decide) (by decide))
    · exact absurd spelled (unlike (by decide) (by decide))
    · obtain ⟨_,_,same,_,read⟩ := caselesslyCons spelled
      obtain ⟨_,rfl⟩ := List.cons.inj same
      obtain ⟨_,_,same,sign,_⟩ := caselesslyCons read
      obtain ⟨rfl,_⟩ := List.cons.inj same
      rw [caselesslySmall (by decide),second] at sign
      exact absurd sign (by decide)

theorem stepUnmarked (begins : BeginsStep line) : afterMarker? line = none := by
  obtain ⟨word,listed,said,c,rest,rfl,spelled,_⟩ := begins
  have read := Text.caselesslyAppend (beq_iff_eq.mp spelled) (c :: rest)
  have label := stepLabel listed read
  obtain ⟨letter,others,whole,first⟩ : ∃ letter others, word.toList = letter :: others ∧ letter ∈ firstLetters := by
    have each : ∀ word ∈ openingWords, word.toList.head?.any fun letter => letter ∈ firstLetters := by decide
    obtain ⟨letter,head,first⟩ := (Option.any_eq_true _ _).mp (each word listed)
    obtain ⟨others,whole⟩ := List.head?_eq_some_iff.mp head
    exact ⟨letter,others,whole,of_decide_eq_true first⟩
  rw [whole] at read
  obtain ⟨a,t,line,same,_⟩ := caselesslyCons read
  obtain ⟨dot,dash,star,box,other⟩ := letterSign first same
  rw [line] at label ⊢
  rw [markerOr,bulletPast dot dash star,Option.none_or,numberPast other,Option.none_or,labelPast label,Option.none_or,boxPast box]

theorem openedIff : opened? line = some opening ↔ Opening line opening := by
  constructor
  · intro found
    unfold opened? at found
    split at found
    · rename_i marked
      obtain rfl := Option.some.inj found
      exact .marked (markerIff.mp marked)
    · rename_i plain
      split at found
      · rename_i begins
        obtain rfl := Option.some.inj found
        exact .step (startsStepIff.mp begins)
      · contradiction
  · rintro (marked | begins)
    · rw [opened?,markerIff.mpr marked]
    · rw [opened?,stepUnmarked begins]
      exact if_pos (startsStepIff.mpr begins)

end opening

end TestWeaver.Criteria
