import TestWeaver.Text.Blank
import TestWeaver.Text.Case

/-! What the operations on texts make of texts in letters and digits of ASCII, where
small and capital letters are taken sign by sign. -/
namespace TestWeaver

namespace CodePoint

theorem asciiForall {P : CodePoint → Prop} (all : ∀ n < 128, P (.char (Char.ofNat n))) {p : CodePoint}
    (low : p.value < 0x80) : P p := by
  cases p with
  | half u => simp only [value] at low; omega
  | char c => simpa [value] using all c.toNat low

theorem alnumAscii {p : CodePoint} (alnum : p.isAlnum) : p.value < 0x80 := by
  cases p with
  | half u => simp [isAlnum,isLetter,isSmall,isCapital,isDigit] at alnum
  | char c =>
    simp only [isAlnum,isLetter,isSmall,isCapital,isDigit,Bool.or_eq_true,Bool.and_eq_true,
      decide_eq_true_eq,Char.le_def,UInt32.le_iff_toNat_le] at alnum
    change c.val.toNat < 0x80
    have bound : ∀ d : Char, d.val.toNat < 0x80 → c.val.toNat ≤ d.val.toNat → c.val.toNat < 0x80 :=
      fun _ small le => Nat.lt_of_le_of_lt le small
    rcases alnum with (⟨_,z⟩ | ⟨_,z⟩) | ⟨_,nine⟩
    · exact bound 'z' (by decide) z
    · exact bound 'Z' (by decide) z
    · exact bound '9' (by decide) nine

theorem smallOfAlnum {p : CodePoint} (alnum : p.isAlnum) : p.small.isSmall ∨ p.small.isDigit :=
  asciiForall (P := fun p => p.isAlnum → p.small.isSmall ∨ p.small.isDigit) (by decide +kernel)
    (alnumAscii alnum) alnum

theorem capitalOfAlnum {p : CodePoint} (alnum : p.isAlnum) : p.capital.isCapital ∨ p.capital.isDigit :=
  asciiForall (P := fun p => p.isAlnum → p.capital.isCapital ∨ p.capital.isDigit) (by decide +kernel)
    (alnumAscii alnum) alnum

theorem notBlankOfAlnum {p : CodePoint} (alnum : p.isAlnum) : p.isBlank = false :=
  asciiForall (P := fun p => p.isAlnum → p.isBlank = false) (by decide +kernel) (alnumAscii alnum) alnum

end CodePoint

namespace Text

theorem lowerAscii {t : Text} (ascii : ∀ p ∈ t, p.value < 0x80) : t.lower = t.map CodePoint.small := by
  have after : ∀ before : Text, lowerAfter before t = t.map CodePoint.small := by
    induction t with
    | nil => intro before; rfl
    | cons p t ih =>
      intro before
      have low := ascii p List.mem_cons_self
      have plain : (p == .char 'Σ') = false :=
        CodePoint.asciiForall (P := fun p => (p == .char 'Σ') = false) (by decide +kernel) low
      have tail := ih (fun q hq => ascii q (List.mem_cons_of_mem _ hq)) (p :: before)
      simp only [lowerAfter,plain,Bool.false_eq_true,if_false,CodePoint.lower,if_pos low,tail]
      rfl
  exact after []

theorem dropTailSublist (p : CodePoint → Bool) (t : Text) : (dropTail p t).Sublist t := by
  have kept := (List.dropWhile_sublist p (l := t.reverse)).reverse
  rwa [List.reverse_reverse] at kept

theorem trimSublist (t : Text) : (trim t).Sublist t :=
  (dropTailSublist _ _).trans (List.dropWhile_sublist _)

theorem memDropWhile {p : CodePoint → Bool} {t : Text} {c : CodePoint} (member : c ∈ t)
    (kept : p c = false) : c ∈ t.dropWhile p := by
  rw [← List.takeWhile_append_dropWhile (p := p) (l := t)] at member
  rcases List.mem_append.mp member with front | back
  · rw [List.all_eq_true.mp List.all_takeWhile c front] at kept
    contradiction
  · exact back

theorem memTrim {t : Text} {c : CodePoint} (member : c ∈ t) (kept : c.isBlank = false) : c ∈ trim t := by
  have front := memDropWhile (p := CodePoint.isBlank) member kept
  exact List.mem_reverse.mpr (memDropWhile (List.mem_reverse.mpr front) kept)

theorem runsOfRun {p : CodePoint → Bool} {Q : CodePoint → Prop} {t run : Text} (started : ∀ c ∈ run, Q c)
    (taken : ∀ c ∈ t, p c → Q c) : ∀ part ∈ runs.go p run t, part ≠ [] ∧ ∀ c ∈ part, Q c := by
  -- the run at hand carries the induction
  induction t generalizing run with
  | nil =>
    intro part member
    cases run with
    | nil => simp [runs.go] at member
    | cons d run =>
      simp only [runs.go,List.isEmpty_cons,Bool.false_eq_true,if_false,List.mem_singleton] at member
      subst member
      exact ⟨by simp,fun c hc => started c (List.mem_reverse.mp hc)⟩
  | cons c t ih =>
    have rest : ∀ c ∈ t, p c → Q c := fun d hd => taken d (List.mem_cons_of_mem _ hd)
    intro part member
    by_cases inside : p c
    · simp only [runs.go,inside,if_true] at member
      refine @ih (c :: run) ?_ rest part member
      intro d hd
      rcases List.mem_cons.mp hd with rfl | hd
      · exact taken d List.mem_cons_self inside
      · exact started d hd
    · simp only [runs.go,inside,Bool.false_eq_true,if_false] at member
      cases run with
      | nil => exact ih (by simp) rest part member
      | cons d run =>
        simp only [List.isEmpty_cons,Bool.false_eq_true,if_false] at member
        rcases List.mem_cons.mp member with rfl | member
        · exact ⟨by simp,fun c hc => started c (List.mem_reverse.mp hc)⟩
        · exact ih (by simp) rest part member

theorem runsWithin {p : CodePoint → Bool} {t part : Text} (member : part ∈ runs p t) :
    part ≠ [] ∧ ∀ c ∈ part, p c ∧ c ∈ t :=
  runsOfRun (Q := fun c => p c ∧ c ∈ t) (by simp) (fun _ inside accepted => ⟨accepted,inside⟩) part member

theorem memRunsOfRun {p : CodePoint → Bool} {t run : Text} {c : CodePoint}
    (found : c ∈ run ∨ c ∈ t ∧ p c) : ∃ part ∈ runs.go p run t, c ∈ part := by
  induction t generalizing run with
  | nil =>
    have inside : c ∈ run := by simpa using found
    cases run with
    | nil => contradiction
    | cons d run => exact ⟨(d :: run).reverse,by simp [runs.go],List.mem_reverse.mpr inside⟩
  | cons d t ih =>
    by_cases inside : p d
    · simp only [runs.go,inside,if_true]
      apply ih
      rcases found with here | ⟨there,accepted⟩
      · exact .inl (List.mem_cons_of_mem _ here)
      · rcases List.mem_cons.mp there with rfl | there
        · exact .inl List.mem_cons_self
        · exact .inr ⟨there,accepted⟩
    · have later : c ∈ run ∨ c ∈ t ∧ p c := by
        rcases found with here | ⟨there,accepted⟩
        · exact .inl here
        · rcases List.mem_cons.mp there with rfl | there
          · contradiction
          · exact .inr ⟨there,accepted⟩
      simp only [runs.go,inside,Bool.false_eq_true,if_false]
      cases run with
      | nil => exact ih later
      | cons e run =>
        simp only [List.isEmpty_cons,Bool.false_eq_true,if_false]
        rcases later with here | there
        · exact ⟨_,List.mem_cons_self,List.mem_reverse.mpr here⟩
        · obtain ⟨part,member,inside⟩ := @ih [] (.inr there)
          exact ⟨part,List.mem_cons_of_mem _ member,inside⟩

theorem memRuns {p : CodePoint → Bool} {t : Text} {c : CodePoint} (member : c ∈ t) (accepted : p c) :
    ∃ part ∈ runs p t, c ∈ part :=
  memRunsOfRun (.inr ⟨member,accepted⟩)

theorem joinCons (sep part next : Text) (rest : List Text) :
    join sep (part :: next :: rest) = part ++ sep ++ join sep (next :: rest) := by
  simp [join,List.intercalate,List.intersperse]

theorem joinSingle (sep part : Text) : join sep [part] = part := by
  simp [join,List.intercalate]

theorem memJoin {sep : Text} {parts : List Text} {c : CodePoint} (member : c ∈ join sep parts) :
    c ∈ sep ∨ ∃ part ∈ parts, c ∈ part := by
  induction parts with
  | nil => simp [join,List.intercalate] at member
  | cons part rest ih =>
    cases rest with
    | nil =>
      rw [joinSingle] at member
      exact .inr ⟨part,by simp,member⟩
    | cons next rest =>
      rw [joinCons] at member
      rcases List.mem_append.mp member with front | later
      · rcases List.mem_append.mp front with here | between
        · exact .inr ⟨part,by simp,here⟩
        · exact .inl between
      · rcases ih later with between | ⟨found,mem,inside⟩
        · exact .inl between
        · exact .inr ⟨found,List.mem_cons_of_mem _ mem,inside⟩

theorem memJoinOfPart {sep : Text} {parts : List Text} {part : Text} {c : CodePoint}
    (member : part ∈ parts) (inside : c ∈ part) : c ∈ join sep parts := by
  induction parts with
  | nil => contradiction
  | cons first rest ih =>
    cases rest with
    | nil =>
      rw [List.mem_singleton.mp member] at inside
      rwa [joinSingle]
    | cons next rest =>
      rw [joinCons]
      rcases List.mem_cons.mp member with rfl | later
      · simp [inside]
      · simp [ih later]

theorem lastPartUnique {a b x y : Text} {mark : CodePoint} (left : mark ∉ x) (right : mark ∉ y)
    (same : a ++ mark :: x = b ++ mark :: y) : a = b ∧ x = y := by
  rcases List.append_eq_append_iff.mp same with ⟨c,rfl,rest⟩ | ⟨c,rfl,rest⟩
  · cases c with
    | nil => exact ⟨by simp,by simpa using rest⟩
    | cons d c =>
      have inside : mark ∈ x := by
        rw [(List.cons.inj rest).2]
        simp
      exact absurd inside left
  · cases c with
    | nil => exact ⟨by simp,by simpa using rest.symm⟩
    | cons d c =>
      have inside : mark ∈ y := by
        rw [(List.cons.inj rest).2]
        simp
      exact absurd inside right

/- A text that is written out has the signs that it is written with, and its bytes need not be read for them. -/
theorem ofStringChars (cs : List Char) : ofString (String.ofList cs) = cs.map .char := by
  rw [ofString,String.toList_ofList]

theorem ofNatChars (n : Nat) : ofNat n = (Nat.toDigits 10 n).map .char := by
  rw [ofNat,Nat.toString_eq_repr,Nat.repr_eq_ofList_toDigits,ofStringChars]

theorem ofNatDigits {n : Nat} {c : CodePoint} (member : c ∈ ofNat n) : c.isDigit := by
  rw [ofNatChars] at member
  obtain ⟨d,inside,rfl⟩ := List.mem_map.mp member
  have digit := Nat.isDigit_of_mem_toDigits (by decide) (by decide) inside
  simpa [CodePoint.isDigit,Char.isDigit,Char.le_def] using digit

theorem ofNatInj {m n : Nat} (same : ofNat m = ofNat n) : m = n := by
  rw [ofNatChars,ofNatChars,List.map_inj_right fun _ _ => CodePoint.char.inj] at same
  have values := congrArg (fun digits => Nat.ofDigitChars 10 digits 0) same
  simpa only [Nat.ofDigitChars_ten_toDigits] using values

section words
variable {t rest : Text}

theorem caselesslySome {w : List Char} (read : afterCaselessly? w t = some rest) :
    ∃ a, t = a ++ rest ∧ afterCaselessly? w a = some [] := by
  induction w generalizing t with
  | nil => exact ⟨[],Option.some.inj read,rfl⟩
  | cons letter w ih =>
    cases t with
    | nil => contradiction
    | cons c t =>
      cases same : c.isCaselessly letter with
      | false => simp [afterCaselessly?,same] at read
      | true =>
        simp only [afterCaselessly?,same,if_true] at read
        obtain ⟨a,rfl,taken⟩ := ih read
        exact ⟨c :: a,rfl,by simpa only [afterCaselessly?,same,if_true] using taken⟩

theorem caselesslyAppend {w : List Char} (read : afterCaselessly? w t = some rest) (x : Text) :
    afterCaselessly? w (t ++ x) = some (rest ++ x) := by
  induction w generalizing t with
  | nil => exact congrArg (some <| · ++ x) (Option.some.inj read)
  | cons letter w ih =>
    cases t with
    | nil => contradiction
    | cons c t =>
      cases same : c.isCaselessly letter with
      | false => simp [afterCaselessly?,same] at read
      | true =>
        simp only [List.cons_append,afterCaselessly?,same,if_true] at read ⊢
        exact ih read

end words

end Text

end TestWeaver
