import TestWeaver.Proofs.Text.Alphabet

/-! A part of a text that begins with a sign the rest of the text does not have: it stands in
one place, and replacing it changes nothing else. A single sign is replaced wherever it stands. -/
namespace TestWeaver.Text

section once
variable {mark : CodePoint} {before after : Text}

theorem markOnce {a b : Text} (front : mark ∉ before) (back : mark ∉ after)
    (same : before ++ mark :: after = a ++ mark :: b) : a = before ∧ b = after := by
  induction before generalizing a with
  | nil =>
    cases a with
    | nil => exact ⟨rfl,((List.cons.inj same).2).symm⟩
    | cons d a =>
      have inside : mark ∈ after := by
        rw [(List.cons.inj same).2]
        simp
      exact absurd inside back
  | cons p before ih =>
    cases a with
    | nil =>
      have head : p = mark := (List.cons.inj same).1
      exact absurd (head ▸ List.mem_cons_self) front
    | cons d a =>
      obtain ⟨head,tail⟩ := List.cons.inj same
      obtain ⟨rfl,rfl⟩ := ih (fun inside => front (List.mem_cons_of_mem _ inside)) tail
      exact ⟨by rw [head],rfl⟩

theorem containsSplit {t part : Text} (stands : t.contains part) : ∃ a b, t = a ++ part ++ b := by
  induction t with
  | nil =>
    have empty : part = [] := by simpa [contains] using stands
    exact ⟨[],[],by simp [empty]⟩
  | cons c t ih =>
    simp only [contains,Bool.or_eq_true] at stands
    rcases stands with here | later
    · obtain ⟨b,same⟩ := List.isPrefixOf_iff_prefix.mp here
      exact ⟨[],b,same.symm⟩
    · obtain ⟨a,b,same⟩ := ih later
      exact ⟨c :: a,b,by simp [same]⟩

theorem containsOf (a part b : Text) : (a ++ part ++ b).contains part := by
  induction a with
  | nil =>
    cases part with
    | nil => cases b <;> rfl
    | cons c part => simp [contains]
  | cons c a ih =>
    rw [List.cons_append,List.cons_append,contains,ih]
    simp

variable {rest new : Text}

theorem replaceBehind (front : mark ∉ before) (t : Text) :
    replaceFrom (mark :: rest) new 0 (before ++ t) = before ++ replaceFrom (mark :: rest) new 0 t := by
  induction before with
  | nil => rfl
  | cons p before ih =>
    have other : mark ≠ p := fun same => front (same ▸ List.mem_cons_self)
    have no : List.isPrefixOf (mark :: rest) (p :: (before ++ t)) = false := by simp [List.isPrefixOf,other]
    rw [List.cons_append,replaceFrom,no,if_neg (by simp),ih fun inside => front (List.mem_cons_of_mem _ inside)]
    rfl

theorem replaceSkipped {old : Text} (passed t : Text) :
    replaceFrom old new passed.length (passed ++ t) = replaceFrom old new 0 t := by
  induction passed with
  | nil => rfl
  | cons p passed ih => simpa [replaceFrom] using ih

theorem replaceNowhere (none : mark ∉ after) : replaceFrom (mark :: rest) new 0 after = after := by
  simpa [replaceFrom] using @replaceBehind mark after rest new none []

theorem replaceOnce (front : mark ∉ before) (back : mark ∉ after) :
    (before ++ (mark :: rest) ++ after).replace (mark :: rest) new = before ++ new ++ after := by
  have here : List.isPrefixOf (mark :: rest) (mark :: (rest ++ after)) := by simp [List.isPrefixOf]
  rw [replace,List.append_assoc,replaceBehind front,List.cons_append,replaceFrom,if_pos here,List.length_cons,
    Nat.add_sub_cancel,replaceSkipped,replaceNowhere back,List.append_assoc]

end once

theorem replaceSign (mark : CodePoint) (new t : Text) :
    t.replace [mark] new = t.flatMap fun c => if c = mark then new else [c] := by
  unfold replace
  induction t with
  | nil => rfl
  | cons c t ih =>
    rw [replaceFrom,List.flatMap_cons]
    by_cases same : c = mark
    · simpa [same,List.isPrefixOf] using ih
    · simpa [same,Ne.symm same,List.isPrefixOf] using ih

end TestWeaver.Text
