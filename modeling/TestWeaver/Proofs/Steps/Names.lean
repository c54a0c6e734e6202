import Mathlib.Data.List.Nodup
import Mathlib.Data.List.Perm.Subperm
import TestWeaver.Proofs.Text.Lines
import TestWeaver.Steps.Module

/-! The names of the functions for steps. A name is made of the words of a text in small letters, and
a number tells it from those that were taken before. A name of one word is that of a text that says
the word alone, since underscores stand between words and before numbers. -/
namespace TestWeaver

namespace Text
section runs
variable {p : CodePoint → Bool} {c : CodePoint} {t a : Text}

theorem runsBehind (ends : p c = false) (run a b : Text) : runs.go p run (a ++ c :: b) = runs.go p run a ++ runs p b := by
  induction a generalizing run with
  | nil =>
    rw [List.nil_append,runs.go,runs.go,if_neg (by simp [ends])]
    split <;> rfl
  | cons d a ih =>
    simp only [List.cons_append,runs.go,ih]
    split
    · rfl
    · split <;> rfl

theorem lowerBehind (ascii : ∀ p ∈ a, p.value < 0x80) (before b : Text) :
    lowerAfter before (a ++ b) = a.map CodePoint.small ++ lowerAfter (a.reverse ++ before) b := by
  induction a generalizing before with
  | nil => rfl
  | cons p a ih =>
    obtain ⟨low,later⟩ := List.forall_mem_cons.mp ascii
    have plain : (p == .char 'Σ') = false :=
      CodePoint.asciiForall (P := fun p => (p == .char 'Σ') = false) (by decide +kernel) low
    rw [List.cons_append,lowerAfter,plain,if_neg Bool.false_ne_true,CodePoint.lower,if_pos low,ih later]
    simp

theorem dropTailPrefix (p : CodePoint → Bool) (t : Text) : dropTail p t <+: t := by
  have behind := List.reverse_prefix.mpr (List.dropWhile_suffix p (l := t.reverse))
  rwa [List.reverse_reverse] at behind

theorem dropTailLast (last : (dropTail p t).getLast? = some c) : p c = false := by
  rw [dropTail,List.getLast?_reverse] at last
  cases kept : t.reverse.dropWhile p with
  | nil => simp [kept] at last
  | cons d rest =>
    rw [kept] at last
    obtain rfl : d = c := by simpa using last
    have stays := List.head_dropWhile_not p (l := t.reverse) (by rw [kept]; exact List.cons_ne_nil d rest)
    simpa [kept] using stays

theorem joinBegins (sep part : Text) (rest : List Text) : ∃ more, join sep (part :: rest) = part ++ more := by
  cases rest with
  | nil => exact ⟨[],by rw [joinSingle,List.append_nil]⟩
  | cons next rest => exact ⟨_,by rw [joinCons,List.append_assoc]⟩

end runs
end Text

namespace Steps

def underscore : CodePoint := .char '_'

def functionWords (text : Text) : List Text := Text.runs isSmallOrDigit text.lower

def isNameSign (c : CodePoint) : Bool := isSmallOrDigit c || c == underscore

/- A name in small letters, digits and underscores that begins with a letter, ends in no underscore, and
is not that of a test. -/
structure Spelled (name : Text) : Prop where
  first : ∃ c rest, name = c :: rest ∧ c.isSmall
  signs : ∀ c ∈ name, isNameSign c
  last : name.getLast? ≠ some underscore
  untested : ¬ Text.ofString "test" <+: name

section stems
variable {text w x y : Text} {c : CodePoint}

theorem wordsWithin {word : Text} (member : word ∈ functionWords text) :
    word ≠ [] ∧ (∀ c ∈ word, isSmallOrDigit c) ∧ underscore ∉ word := by
  obtain ⟨full,signs⟩ := Text.runsWithin member
  exact ⟨full,fun c inside => (signs c inside).1,fun mark => absurd (signs _ mark).1 (by decide)⟩

def wordsName (words : List Text) : Text := if (Text.join "_" words).isEmpty then "step" else Text.join "_" words

def safeName (words : List Text) : Text :=
  if (wordsName words).head?.any CodePoint.isDigit || (wordsName words).startsWith "test" then "step_" ++ wordsName words
  else wordsName words

def cutName (name : Text) : Text := Text.dropTail (· == underscore) (name.take 60)

theorem cutPast (kept : c ≠ underscore) (x y : Text) :
    Text.dropTail (· == underscore) (x ++ c :: y) = x ++ c :: Text.dropTail (· == underscore) y :=
  Text.dropTailPast (p := (· == underscore)) (beq_eq_false_iff_ne.mpr kept) x y

theorem stemCut (text : Text) : functionStem text = cutName (safeName (functionWords text)) := rfl

theorem wordsNameBegins (text : Text) : ∃ c rest, wordsName (functionWords text) = c :: rest ∧ isSmallOrDigit c := by
  unfold wordsName
  split
  · exact ⟨.char 's',"tep",rfl,by decide⟩
  · rename_i full
    cases words : functionWords text with
    | nil =>
      rw [words] at full
      exact absurd rfl full
    | cons word rest =>
      obtain ⟨filled,signs,_⟩ := wordsWithin (words ▸ List.mem_cons_self : word ∈ functionWords text)
      obtain ⟨c,front,rfl⟩ := List.exists_cons_of_ne_nil filled
      obtain ⟨more,begins⟩ := Text.joinBegins "_" (c :: front) rest
      exact ⟨c,front ++ more,begins,signs c List.mem_cons_self⟩

theorem wordsNameSigns (text : Text) : ∀ c ∈ wordsName (functionWords text), isNameSign c := by
  intro c member
  unfold wordsName at member
  split at member
  · revert c
    decide
  · rcases Text.memJoin member with mark | ⟨word,inside,here⟩
    · rw [List.mem_singleton.mp mark]
      decide
    · rw [isNameSign,(wordsWithin inside).2.1 c here]
      rfl

theorem safeSpelled (text : Text) : (∃ c rest, safeName (functionWords text) = c :: rest ∧ c.isSmall) ∧
    (∀ c ∈ safeName (functionWords text), isNameSign c) ∧ ¬ Text.ofString "test" <+: safeName (functionWords text) := by
  obtain ⟨c,rest,name,sign⟩ := wordsNameBegins text
  have signs := wordsNameSigns text
  unfold safeName
  split
  · refine ⟨⟨.char 's',_,rfl,by decide⟩,List.forall_mem_append.mpr ⟨by decide,signs⟩,fun begins => ?_⟩
    exact absurd (List.head_eq_of_cons_eq (begins.choose_spec)) (by decide)
  · rename_i plain
    obtain ⟨digit,test⟩ := Bool.or_eq_false_iff.mp (Bool.eq_false_iff.mpr plain)
    refine ⟨⟨c,rest,name,?_⟩,signs,fun begins => ?_⟩
    · rw [name] at digit
      exact (Bool.or_eq_true_iff.mp sign).resolve_right (by simpa using digit)
    · rw [Text.startsWith,List.isPrefixOf_iff_prefix.mpr begins] at test
      contradiction

theorem stemSpelled (text : Text) : Spelled (functionStem text) := by
  obtain ⟨⟨c,rest,name,small⟩,signs,untested⟩ := safeSpelled text
  have part : functionStem text <+: safeName (functionWords text) :=
    (Text.dropTailPrefix _ _).trans (List.take_prefix 60 _)
  have kept : c ≠ underscore := by
    rintro rfl
    exact absurd small (by decide)
  exact {
    first := by
      rw [stemCut,cutName,name,List.take_succ_cons]
      exact ⟨c,_,cutPast kept [] _,small⟩
    signs := fun c member => signs c (part.subset member)
    last := fun mark => absurd (Text.dropTailLast mark) (by decide)
    untested := fun begins => untested (begins.trans part) }

theorem cutParted (free : underscore ∉ x) (other : c ≠ underscore) :
    underscore ∈ cutName (x ++ underscore :: c :: y) ∨ 59 ≤ (cutName (x ++ underscore :: c :: y)).length := by
  unfold cutName
  by_cases short : x.length ≤ 58
  · have cut : (x ++ underscore :: c :: y).take 60 = (x ++ [underscore]) ++ c :: y.take (58 - x.length) := by
      have sizes : 60 - x.length = 58 - x.length + 1 + 1 := by omega
      rw [List.take_append,List.take_of_length_le (by omega),sizes,List.take_succ_cons,List.take_succ_cons]
      simp
    rw [cut,cutPast other]
    exact .inl (by simp)
  · obtain ⟨d,rest,drop⟩ := List.exists_cons_of_ne_nil (List.drop_eq_nil_iff.not.mpr short : x.drop 58 ≠ [])
    have parts : x = x.take 58 ++ d :: rest := by rw [← drop,List.take_append_drop]
    have sign : d ≠ underscore := by
      rintro rfl
      exact free (by rw [parts]; simp)
    have size : (x.take 58).length = 58 := List.length_take_of_le (by omega)
    have cut : (x ++ underscore :: c :: y).take 60 = x.take 58 ++ d :: (rest ++ underscore :: c :: y).take 1 := by
      conv_lhs => rw [parts]
      rw [List.append_assoc,List.take_append,List.take_of_length_le (by omega),size]
      rfl
    rw [cut,cutPast sign,List.length_append,List.length_cons,size]
    exact .inr (by omega)

structure Word (w : Text) : Prop where
  whole : underscore ∉ w
  short : w.length < 59
  other : w ≠ "step"
  digit : w.head?.any CodePoint.isDigit = false
  test : w.startsWith "test" = false
instance (w : Text) : Decidable (Word w) :=
  decidable_of_iff (underscore ∉ w ∧ w.length < 59 ∧ w ≠ "step" ∧ w.head?.any CodePoint.isDigit = false ∧
    w.startsWith "test" = false)
    ⟨fun ⟨whole,short,other,digit,test⟩ => ⟨whole,short,other,digit,test⟩,
      fun word => ⟨word.whole,word.short,word.other,word.digit,word.test⟩⟩

theorem wordUncut (word : Word w) (free : underscore ∉ x) (other : c ≠ underscore) :
    cutName (x ++ underscore :: c :: y) ≠ w := by
  rintro rfl
  rcases @cutParted _ _ _ free other with mark | long
  · exact word.whole mark
  · exact absurd word.short (by omega)

theorem cutSingle {name : Text} (full : name ≠ []) (free : underscore ∉ name) : cutName name = name.take 60 := by
  have part : underscore ∉ name.take 60 := fun member => free (List.mem_of_mem_take member)
  rcases List.eq_nil_or_concat' (name.take 60) with empty | ⟨front,last,whole⟩
  · rw [List.take_eq_nil_iff] at empty
    exact absurd (empty.resolve_left (by decide)) full
  · have kept : last ≠ underscore := by
      rintro rfl
      exact part (by rw [whole]; simp)
    rw [cutName,whole,cutPast kept]
    rfl

theorem wordsNameSingle (full : w ≠ []) : wordsName [w] = w := by
  rw [wordsName,Text.joinSingle,if_neg (by simpa using full)]

theorem wordsNameMore {first next : Text} {others : List Text} (words : functionWords text = first :: next :: others) :
    underscore ∉ first ∧ ∃ d more, wordsName (functionWords text) = first ++ underscore :: d :: more ∧ d ≠ underscore := by
  have inside : ∀ part ∈ first :: next :: others, part ≠ [] ∧ (∀ c ∈ part, isSmallOrDigit c) ∧ underscore ∉ part :=
    fun part member => wordsWithin (words ▸ member)
  obtain ⟨⟨_,_,free⟩,later⟩ := List.forall_mem_cons.mp inside
  obtain ⟨filled,_,marked⟩ := later next List.mem_cons_self
  obtain ⟨d,front,rfl⟩ := List.exists_cons_of_ne_nil filled
  obtain ⟨more,second⟩ := Text.joinBegins "_" (d :: front) others
  have joined : Text.join "_" (first :: (d :: front) :: others) = first ++ underscore :: d :: (front ++ more) := by
    rw [Text.joinCons,second]
    simp [underscore,Text.ofString]
  refine ⟨free,d,front ++ more,?_,fun mark => marked (mark ▸ List.mem_cons_self)⟩
  rw [words,wordsName,joined,if_neg (by simp)]

theorem stemWord (word : Word w) : functionStem text = w ↔ functionWords text = [w] := by
  rw [stemCut]
  constructor
  · intro same
    unfold safeName at same
    split at same
    · obtain ⟨c,rest,name,sign⟩ := wordsNameBegins text
      have other : c ≠ underscore := by
        rintro rfl
        exact absurd sign (by decide)
      rw [name] at same
      exact absurd same (wordUncut (x := "step") word (by decide) other)
    · cases words : functionWords text with
      | nil =>
        rw [words] at same
        exact absurd same.symm word.other
      | cons first others =>
        cases others with
        | nil =>
          obtain ⟨full,_,free⟩ := wordsWithin (words ▸ List.mem_singleton_self first : first ∈ functionWords text)
          rw [words,wordsNameSingle full,cutSingle full free] at same
          have sizes := congrArg List.length same
          have short := word.short
          rw [List.length_take] at sizes
          rw [← same,List.take_of_length_le (by omega)]
        | cons next others =>
          obtain ⟨free,d,more,name,other⟩ := wordsNameMore words
          rw [name] at same
          exact absurd same (wordUncut word free other)
  · intro words
    obtain ⟨full,_,free⟩ := wordsWithin (words ▸ List.mem_singleton_self w : w ∈ functionWords text)
    have short := word.short
    rw [words,safeName,wordsNameSingle full,word.digit,word.test,if_neg (by decide),cutSingle full free,
      List.take_of_length_le (by omega)]

end stems

section fresh
variable {stem text w : Text} {taken : List Text}

theorem candidateNumbered (stem : Text) (n : Nat) : candidate stem (n + 1) = stem ++ underscore :: Text.ofNat (n + 2) := by
  simp [candidate,underscore,Text.ofString]

theorem candidateInj {m n : Nat} (same : candidate stem m = candidate stem n) : m = n := by
  have longer : ∀ n, stem ≠ candidate stem (n + 1) := by
    intro n whole
    have sizes := congrArg List.length whole
    rw [candidateNumbered,List.length_append,List.length_cons] at sizes
    omega
  cases m with
  | zero =>
    cases n with
    | zero => rfl
    | succ n => exact absurd same (longer n)
  | succ m =>
    cases n with
    | zero => exact absurd same.symm (longer m)
    | succ n =>
      rw [candidateNumbered,candidateNumbered] at same
      have numbers := Text.ofNatInj (List.cons.inj (List.append_cancel_left same)).2
      omega

theorem candidateSpelled (spelled : Spelled stem) (n : Nat) : Spelled (candidate stem n) := by
  cases n with
  | zero => exact spelled
  | succ n =>
    obtain ⟨c,rest,name,small⟩ := spelled.first
    have digits : ∀ c ∈ Text.ofNat (n + 2), c.isDigit := fun c => Text.ofNatDigits
    rw [candidateNumbered]
    exact {
      first := ⟨c,_,by rw [name]; rfl,small⟩
      signs := by
        refine List.forall_mem_append.mpr ⟨spelled.signs,List.forall_mem_cons.mpr ⟨by decide,fun c member => ?_⟩⟩
        simp [isNameSign,isSmallOrDigit,digits c member]
      last := by
        have full : Text.ofNat (n + 2) ≠ [] := by
          rw [Text.ofNatChars]
          exact List.map_eq_nil_iff.not.mpr Nat.toDigits_ne_nil
        rw [List.getLast?_append,List.getLast?_cons,List.getLast?_eq_some_getLast full]
        intro mark
        have same : (Text.ofNat (n + 2)).getLast full = underscore := by simpa using mark
        exact absurd (same ▸ digits _ (List.getLast_mem full)) (by decide)
      untested := fun begins => spelled.untested (Text.prefixBefore (by decide) begins) }

theorem candidatesFit {n : Nat} (members : ∀ m < n, candidate stem m ∈ taken) : n ≤ taken.length := by
  have all : (List.range n).map (candidate stem) ⊆ taken := by
    intro name member
    obtain ⟨m,listed,rfl⟩ := List.mem_map.mp member
    exact members m (List.mem_range.mp listed)
  have apart : ((List.range n).map (candidate stem)).Nodup := List.Nodup.map (fun m n => candidateInj) List.nodup_range
  simpa using (apart.subperm all).length_le

theorem freshCandidate (taken : List Text) (text : Text) : ∃ n, freshName taken text = candidate (functionStem text) n ∧
    freshName taken text ∉ taken ∧ ∀ m < n, candidate (functionStem text) m ∈ taken := by
  cases found : (List.range (taken.length + 1)).find? fun n => !taken.contains (candidate (functionStem text) n) with
  | none =>
    have all : ∀ m < taken.length + 1, candidate (functionStem text) m ∈ taken := fun m less => by
      simpa using List.find?_eq_none.mp found m (List.mem_range.mpr less)
    exact absurd (candidatesFit all) (by omega)
  | some n =>
    have name : freshName taken text = candidate (functionStem text) n := by
      rw [freshName,List.find?_map]
      exact congrArg (fun found => (found.map (candidate (functionStem text))).getD (functionStem text)) found
    obtain ⟨free,_,before⟩ := List.find?_range_eq_some.mp found
    exact ⟨n,name,by simpa [name] using free,fun m less => by simpa using before m less⟩

theorem freshSpelled (taken : List Text) (text : Text) : Spelled (freshName taken text) := by
  obtain ⟨n,name,_⟩ := freshCandidate taken text
  exact name ▸ candidateSpelled (stemSpelled text) n

theorem freshStem (taken : List Text) (text : Text) : functionStem text ∈ taken ++ [freshName taken text] := by
  obtain ⟨n,name,_,before⟩ := freshCandidate taken text
  cases n with
  | zero => exact List.mem_append_right _ (List.mem_singleton.mpr name.symm)
  | succ n => exact List.mem_append_left _ (before 0 (Nat.succ_pos n))

theorem freshWord (word : Word w) (named : freshName taken text = w) : functionWords text = [w] := by
  obtain ⟨n,name,_⟩ := freshCandidate taken text
  rw [named] at name
  cases n with
  | zero => exact (stemWord word).mp name.symm
  | succ n =>
    rw [candidateNumbered] at name
    exact absurd (by rw [name]; simp) word.whole

end fresh
end Steps
end TestWeaver
