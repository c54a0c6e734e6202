import TestWeaver.Proofs.Text.Reading

/-! Lines by any break, as they are shown: without blanks around them, and without those that show
nothing. A line feed always ends a line, whatever breaks stand before it. -/
namespace TestWeaver.Text

def Unbroken (t : Text) : Prop := ∀ c ∈ t, c.isBreak = false
instance (t : Text) : Decidable (Unbroken t) := by unfold Unbroken; infer_instance

def shownLines (t : Text) : List Text := tidy (lines t)

section breaks
variable {t a b : Text} {c : CodePoint}

theorem breakBlank (breaks : c.isBreak) : c.isBlank := by
  cases c with
  | half u => simp [CodePoint.isBreak] at breaks
  | char c =>
    simp only [CodePoint.isBreak,CodePoint.isBlank,Bool.or_eq_true,Bool.and_eq_true,decide_eq_true_eq,beq_iff_eq] at *
    omega

theorem unbrokenAppend (left : Unbroken a) (right : Unbroken b) : Unbroken (a ++ b) := List.forall_mem_append.mpr ⟨left,right⟩

theorem unbrokenSublist (part : a.Sublist b) (unbroken : Unbroken b) : Unbroken a := fun c member => unbroken c (part.subset member)

theorem unbrokenSqueeze (t : Text) : Unbroken t.squeeze := by
  intro c member
  rcases memJoin member with space | ⟨word,inside,here⟩
  · rw [List.mem_singleton.mp space]
    decide
  · have dark := ((runsWithin inside).2 c here).1
    cases breaks : c.isBreak with
    | false => rfl
    | true => simp [breakBlank breaks] at dark

theorem shownUnbroken (unbroken : Unbroken t) : shownLines t = tidy [t] := by
  cases t with
  | nil => rfl
  | cons c t => rw [shownLines,linesSingle (by simp) unbroken]

theorem goBreak {line : Text} (breaks : c.isBreak) (single : ∀ u, c = .char '\r' → t = .char '\n' :: u → False) :
    lines.go line (c :: t) = line.reverse :: lines.go [] t := by
  rw [lines.go,if_pos breaks]
  exact single

theorem goPlain {line : Text} (plain : ¬ c.isBreak) : lines.go line (c :: t) = lines.go (c :: line) t := by
  rw [lines.go,if_neg plain]
  rintro u rfl _
  exact plain (by decide)

theorem goPast (unbroken : Unbroken a) (line t : Text) : lines.go line (a ++ t) = lines.go (a.reverse ++ line) t := by
  induction a generalizing line with
  | nil => rfl
  | cons c a ih =>
    obtain ⟨plain,later⟩ := List.forall_mem_cons.mp unbroken
    rw [List.cons_append,goPlain (by simp [plain]),ih later,List.reverse_cons,List.append_assoc]
    rfl

theorem goFirst {line : Text} (full : line ≠ []) (t : Text) :
    ∃ first rest, lines.go line t = first :: rest ∧ line.reverse <+: first := by
  induction line, t using lines.go.induct with
  | case1 line empty => exact absurd (List.isEmpty_iff.mp empty) full
  | case2 line filled => exact ⟨line.reverse,[],by rw [lines.go,if_neg filled],List.prefix_refl _⟩
  | case3 line t ih => exact ⟨line.reverse,lines.go [] t,by rw [lines.go],List.prefix_refl _⟩
  | case4 line c t single breaks ih => exact ⟨line.reverse,lines.go [] t,goBreak breaks single,List.prefix_refl _⟩
  | case5 line c t single plain ih =>
    obtain ⟨first,rest,read,⟨x,whole⟩⟩ := ih (by simp)
    exact ⟨first,rest,by rw [goPlain plain,read],c :: x,by rw [← whole]; simp⟩

theorem goUnbroken {line : Text} (started : Unbroken line) : ∀ l ∈ lines.go line t, Unbroken l := by
  have reversed : ∀ line : Text, Unbroken line → Unbroken line.reverse := fun line unbroken c member =>
    unbroken c (List.mem_reverse.mp member)
  have nothing : Unbroken [] := by simp [Unbroken]
  induction line, t using lines.go.induct with
  | case1 line empty => simp [lines.go,empty]
  | case2 line full => simpa [lines.go,full] using reversed line started
  | case3 line t ih =>
    rw [lines.go]
    exact List.forall_mem_cons.mpr ⟨reversed line started,ih nothing⟩
  | case4 line c t single breaks ih =>
    rw [goBreak breaks single]
    exact List.forall_mem_cons.mpr ⟨reversed line started,ih nothing⟩
  | case5 line c t single plain ih =>
    rw [goPlain plain]
    exact ih (List.forall_mem_cons.mpr ⟨by simpa using plain,started⟩)

theorem linesUnbroken : ∀ line ∈ lines t, Unbroken line := goUnbroken (by simp [Unbroken])

theorem goFeed (line a b : Text) : tidy (lines.go line (a ++ .char '\n' :: b)) = tidy (lines.go line a) ++ shownLines b := by
  have first : ∀ line rest, tidy (line :: rest) = tidy [line] ++ tidy rest := fun line rest => tidyAppend [line] rest
  have feed : ∀ line : Text, lines.go line (.char '\n' :: b) = line.reverse :: lines.go [] b := fun line =>
    goBreak (by decide) (by simp)
  induction line, a using lines.go.induct with
  | case1 line empty =>
    rw [List.nil_append,feed,first,List.isEmpty_iff.mp empty]
    rfl
  | case2 line full =>
    rw [List.nil_append,feed,first,lines.go,if_neg full]
    rfl
  | case3 line t ih =>
    rw [List.cons_append,List.cons_append,lines.go,lines.go,first,first _ (lines.go [] t),ih,List.append_assoc]
  | case4 line c t single breaks ih =>
    rw [List.cons_append,goBreak breaks single,first _ (lines.go [] t)]
    by_cases pair : c = .char '\r' ∧ t = []
    · -- the line feed goes with a carriage return before it
      obtain ⟨rfl,rfl⟩ := pair
      have together : lines.go line (.char '\r' :: .char '\n' :: b) = line.reverse :: lines.go [] b := by rw [lines.go]
      rw [List.nil_append,together,first,show lines.go [] [] = [] by simp [lines.go],show tidy [] = [] from rfl,List.append_nil]
      rfl
    · rw [goBreak breaks,first,ih,List.append_assoc]
      intro u back more
      cases t with
      | nil => exact pair ⟨back,rfl⟩
      | cons d t => exact single t back (by rw [(List.cons.inj more).1])
  | case5 line c t single plain ih => rw [List.cons_append,goPlain plain,goPlain plain,ih]

theorem shownFeed (a b : Text) : shownLines (a ++ .char '\n' :: b) = shownLines a ++ shownLines b := goFeed [] a b

theorem shownUnlines (ls : List Text) : shownLines (unlines ls) = ls.flatMap shownLines := by
  induction ls with
  | nil => rfl
  | cons line rest ih =>
    cases rest with
    | nil => rw [unlinesSingle,List.flatMap_singleton]
    | cons next rest => rw [unlinesCons,shownFeed,ih]; rfl

end breaks
end TestWeaver.Text
