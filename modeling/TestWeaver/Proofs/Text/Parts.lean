import TestWeaver.Text.Blank

/-! Parts of texts: what a text begins with, what it holds on one side of a sign, where a reader finds
something in it, and texts that are one line or have no blanks around them. -/
namespace TestWeaver.Text

section leads
variable {t lead rest : Text}

theorem afterLeadSome : t.afterLead? lead = some rest ↔ t = lead ++ rest := by
  induction lead generalizing t with
  | nil => simp [afterLead?]
  | cons a lead ih =>
    cases t with
    | nil => simp [afterLead?]
    | cons b t =>
      rw [afterLead?,List.cons_append,List.cons.injEq]
      split
      · rename_i same
        simp [same,ih]
      · rename_i other
        simp [Ne.symm other]

theorem afterLeadSelf (lead t : Text) : (lead ++ t).afterLead? lead = some t := afterLeadSome.mpr rfl

def Apart (a b : Text) : Prop := ¬ a <+: b ∧ ¬ b <+: a
instance (a b : Text) : Decidable (Apart a b) := by unfold Apart; infer_instance

theorem apartNoPrefix {a : Text} (apart : Apart a lead) (t : Text) : ¬ lead <+: a ++ t := by
  intro starts
  rcases List.prefix_or_prefix_of_prefix starts (List.prefix_append a t) with inside | outside
  · exact apart.2 inside
  · exact apart.1 outside

theorem apartNone {a : Text} (apart : Apart a lead) (t : Text) : (a ++ t).afterLead? lead = none := by
  cases found : (a ++ t).afterLead? lead with
  | none => rfl
  | some rest => exact absurd ⟨rest,(afterLeadSome.mp found).symm⟩ (apartNoPrefix apart t)

theorem startsWithApart {a : Text} (apart : Apart a lead) (t : Text) : (a ++ t).startsWith lead = false := by
  rw [Bool.eq_false_iff]
  exact fun starts => apartNoPrefix apart t (List.isPrefixOf_iff_prefix.mp starts)

end leads

section marks
variable {mark : CodePoint} {part a b : Text}

theorem prefixBefore (free : mark ∉ part) (starts : part <+: a ++ mark :: b) : part <+: a := by
  have marked : a ++ [mark] <+: a ++ mark :: b := ⟨b,by simp⟩
  rcases List.prefix_or_prefix_of_prefix starts marked with short | long
  · rcases List.prefix_concat_iff.mp short with rfl | inside
    · simp at free
    · exact inside
  · exact absurd (long.subset (by simp)) free

theorem behindPart {x : Text} (free : mark ∉ part) (same : part ++ x = a ++ mark :: b) :
    ∃ z, a = part ++ z ∧ x = z ++ mark :: b := by
  rcases List.append_eq_append_iff.mp same with ⟨z,rfl,rest⟩ | ⟨z,rfl,rest⟩
  · exact ⟨z,rfl,rest⟩
  · cases z with
    | nil => exact ⟨[],by simp,by simpa using rest.symm⟩
    | cons c z =>
      rw [(List.cons.inj rest).1] at free
      simp at free

theorem partSide {x y : Text} (free : mark ∉ part) (same : a ++ mark :: b = x ++ (part ++ y)) :
    (∃ z, a = x ++ (part ++ z) ∧ y = z ++ mark :: b) ∨ ∃ z, x = a ++ mark :: z ∧ b = z ++ (part ++ y) := by
  rcases List.append_eq_append_iff.mp same with ⟨c,rfl,rest⟩ | ⟨c,rfl,rest⟩
  · cases c with
    | nil =>
      obtain ⟨z,empty,behind⟩ := behindPart (a := []) free rest.symm
      obtain ⟨rfl,rfl⟩ := List.nil_eq_append_iff.mp empty
      exact .inl ⟨[],by simp,behind⟩
    | cons d c =>
      obtain ⟨rfl,behind⟩ := List.cons.inj rest
      exact .inr ⟨c,rfl,behind⟩
  · obtain ⟨z,rfl,behind⟩ := behindPart free rest
    exact .inl ⟨z,rfl,behind⟩

theorem infixSide (free : mark ∉ part) (inside : part <:+: a ++ mark :: b) : part <:+: a ∨ part <:+: b := by
  obtain ⟨x,y,same⟩ := inside
  rw [List.append_assoc] at same
  rcases partSide free same.symm with ⟨z,left,_⟩ | ⟨z,_,right⟩
  · exact .inl ⟨x,z,by rw [left,List.append_assoc]⟩
  · exact .inr ⟨z,y,by rw [right,List.append_assoc]⟩

theorem firstPartUnique {x y : Text} (left : mark ∉ a) (right : mark ∉ b) (same : a ++ mark :: x = b ++ mark :: y) :
    a = b ∧ x = y := by
  induction a generalizing b with
  | nil =>
    cases b with
    | nil => exact ⟨rfl,(List.cons.inj same).2⟩
    | cons d b => exact absurd ((List.cons.inj same).1 ▸ List.mem_cons_self) right
  | cons c a ih =>
    cases b with
    | nil => exact absurd ((List.cons.inj same).1 ▸ List.mem_cons_self) left
    | cons d b =>
      obtain ⟨rfl,rest⟩ := List.cons.inj same
      obtain ⟨rfl,tails⟩ := ih (fun inside => left (List.mem_cons_of_mem _ inside))
        (fun inside => right (List.mem_cons_of_mem _ inside)) rest
      exact ⟨rfl,tails⟩

end marks

section lines
variable {t : Text}

theorem linesOf {line : Text} (full : line ≠ [] ∨ t ≠ []) (unbroken : ∀ c ∈ t, c.isBreak = false) :
    lines.go line t = [line.reverse ++ t] := by
  induction t generalizing line with
  | nil =>
    have given : line ≠ [] := by simpa using full
    simp [lines.go,given]
  | cons c t ih =>
    have here := unbroken c List.mem_cons_self
    have rest : ∀ d ∈ t, d.isBreak = false := fun d member => unbroken d (List.mem_cons_of_mem _ member)
    have tail := @ih (c :: line) (.inl (by simp)) rest
    have step : lines.go line (c :: t) = lines.go (c :: line) t := by
      rw [lines.go.eq_def]
      split
      · rename_i empty
        simp at empty
      · rename_i feed
        obtain ⟨rfl,_⟩ := List.cons.inj feed
        exact absurd here (by decide)
      · rename_i same
        obtain ⟨rfl,rfl⟩ := List.cons.inj same
        rw [here]
        simp
    rw [step,tail]
    simp

theorem linesSingle (full : t ≠ []) (unbroken : ∀ c ∈ t, c.isBreak = false) : t.lines = [t] := by
  rw [lines,linesOf (.inr full) unbroken]
  rfl

theorem dropWhileSelf {p : CodePoint → Bool} (head : ∀ c ∈ t.head?, p c = false) : t.dropWhile p = t := by
  cases t with
  | nil => rfl
  | cons c t => rw [List.dropWhile_cons_of_neg (by simpa using head c rfl)]

theorem takenOff {p : CodePoint → Bool} {a t : Text} (accepted : ∀ c ∈ a, p c) (stops : ∀ c ∈ t.head?, p c = false) :
    (a ++ t).dropWhile p = t := by
  rw [List.dropWhile_append_of_pos accepted,dropWhileSelf stops]

theorem takenStops (p : CodePoint → Bool) (t : Text) :
    (∀ c ∈ t.takeWhile p, p c) ∧ ∀ c ∈ (t.dropWhile p).head?, p c = false := by
  refine ⟨List.all_eq_true.mp List.all_takeWhile,fun c first => ?_⟩
  have kept := List.head?_dropWhile_not p t
  rw [first] at kept
  simpa using kept

theorem takenParts (p : CodePoint → Bool) (t : Text) :
    ∃ a, t = a ++ t.dropWhile p ∧ (∀ c ∈ a, p c) ∧ ∀ c ∈ (t.dropWhile p).head?, p c = false :=
  ⟨t.takeWhile p,List.takeWhile_append_dropWhile.symm,takenStops p t⟩

theorem dropBlankSelf {c : CodePoint} (dark : c.isBlank = false) (t : Text) : dropBlank (c :: t) = c :: t :=
  dropWhileSelf (by simpa using dark)

theorem trimSelf (head : ∀ c ∈ t.head?, c.isBlank = false) (last : ∀ c ∈ t.getLast?, c.isBlank = false) :
    t.trim = t := by
  rw [trim,dropBoth,dropWhileSelf head,dropTail,dropWhileSelf (by rwa [List.head?_reverse]),List.reverse_reverse]

end lines

section search
variable {α : Type} {read : Option CodePoint → Text → Option α} {before : Option CodePoint} {part t : Text}

theorem searchNone (nothing : ∀ b u, u <:+ t → read b u = none) : search read before t = none := by
  induction t generalizing before with
  | nil => exact nothing before [] List.suffix_rfl
  | cons c t ih =>
    rw [search,nothing before (c :: t) List.suffix_rfl]
    exact ih fun b u ends => nothing b u (ends.trans (List.suffix_cons c t))

theorem searchFound {a : α} (found : search read before t = some a) : ∃ b u, u <:+ t ∧ read b u = some a := by
  induction t generalizing before with
  | nil => exact ⟨before,[],List.suffix_rfl,found⟩
  | cons c t ih =>
    rw [search] at found
    split at found
    · rename_i here
      exact ⟨before,c :: t,List.suffix_rfl,here.trans found⟩
    · obtain ⟨b,u,ends,here⟩ := ih found
      exact ⟨b,u,ends.trans (List.suffix_cons c t),here⟩

theorem searchPast (nothing : ∀ b u, u ≠ [] → u <:+ part → read b (u ++ t) = none) :
    search read before (part ++ t) = search read (part.getLast?.or before) t := by
  induction part generalizing before with
  | nil => rfl
  | cons c part ih =>
    have here := nothing before (c :: part) (by simp) List.suffix_rfl
    rw [List.cons_append] at here ⊢
    rw [search,here]
    simp only
    rw [ih fun b u full ends => nothing b u full (ends.trans (List.suffix_cons c part))]
    cases part with
    | nil => rfl
    | cons d part => rw [List.getLast?_cons_cons,List.getLast?_eq_some_getLast (by simp)]; rfl

theorem searchHere {c : CodePoint} {b : α} (found : read before (c :: t) = some b) :
    search read before (c :: t) = some b := by
  rw [search,found]

end search

end TestWeaver.Text
