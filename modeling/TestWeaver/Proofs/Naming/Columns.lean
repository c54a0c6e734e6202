import TestWeaver.Proofs.Naming.Names
import TestWeaver.Proofs.Text.Parts

/-! The names of columns. A name is taken apart before its capitals alone, so behind an underscore
of the name of a column stands a letter; a number behind an underscore was added. -/
namespace TestWeaver.Naming

def Risen (t : Text) : Prop := ∀ x y, t = x ++ .char ' ' :: y → ∃ c z, y = c :: z ∧ c.isSmall

def isSpokenBreak (a : CodePoint) (t : Text) : Bool := risesAfter a t || acronymEndsAfter a t

def underscored (c : CodePoint) : CodePoint := if c = .char ' ' then .char '_' else c

section separated
variable {name t : Text} {a : CodePoint}

theorem breakCapital (breaks : isSpokenBreak a t) : ∃ c z, t = c :: z ∧ c.isCapital := by
  unfold isSpokenBreak risesAfter acronymEndsAfter at breaks
  cases t with
  | nil => simp at breaks
  | cons c z =>
    refine ⟨c,z,rfl,?_⟩
    cases z <;> simp at breaks
    · exact breaks.2
    · rcases breaks with rises | ends
      · exact rises.2
      · exact ends.1.2

theorem separateHead (test : CodePoint → Text → Bool) (mark c : CodePoint) (z : Text) :
    ∃ y, separate mark test (c :: z) = c :: y := by
  unfold separate
  split
  · exact ⟨_,rfl⟩
  · exact ⟨_,rfl⟩

theorem separateCapital {mark : CodePoint} (free : mark ∉ t) {x y : Text}
    (parted : separate mark isSpokenBreak t = x ++ mark :: y) : ∃ c z, y = c :: z ∧ c.isCapital := by
  induction t generalizing x with
  | nil => simp [separate] at parted
  | cons a t ih =>
    rw [List.mem_cons,not_or] at free
    unfold separate at parted
    cases x with
    | nil =>
      have head : a = mark := by split at parted <;> exact (List.cons.inj parted).1
      exact absurd head.symm free.1
    | cons d x =>
      split at parted
      · rename_i breaks
        have tail := (List.cons.inj parted).2
        cases x with
        | nil =>
          obtain ⟨c,z,rfl,capital⟩ := breakCapital breaks
          obtain ⟨rest,head⟩ := separateHead isSpokenBreak mark c z
          rw [head] at tail
          exact ⟨c,rest,(List.cons.inj tail).2.symm,capital⟩
        | cons e x => exact ih free.2 (List.cons.inj tail).2
      · exact ih free.2 (List.cons.inj parted).2

end separated

section spoken
variable {name : Text}

theorem smallOfCapital {c : CodePoint} (capital : c.isCapital) : c.small.isSmall := by
  have alnum : c.isAlnum := by simp [CodePoint.isAlnum,CodePoint.isLetter,capital]
  exact CodePoint.asciiForall (P := fun p => p.isCapital → p.small.isSmall) (by decide +kernel)
    (CodePoint.alnumAscii alnum) capital

theorem smallSpace {c : CodePoint} (given : c.isAlnum ∨ c = .char ' ') (space : c.small = .char ' ') :
    c = .char ' ' := by
  rcases given with alnum | same
  · rcases CodePoint.smallOfAlnum alnum with h | h <;> exact absurd (space ▸ h) (by decide)
  · exact same

theorem separatedSigns (alnum : Alnum name) {c : CodePoint} (member : c ∈ (separate (.char ' ') isSpokenBreak name).map CodePoint.small) :
    c.isAlnum ∨ c = .char ' ' := by
  obtain ⟨d,inside,rfl⟩ := List.mem_map.mp member
  rcases memSeparate inside with rfl | named
  · exact .inr rfl
  · refine .inl ?_
    rcases CodePoint.smallOfAlnum (alnum d named) with h | h <;> simp [CodePoint.isAlnum,CodePoint.isLetter,h]

theorem separatedRisen (alnum : Alnum name) : Risen ((separate (.char ' ') isSpokenBreak name).map CodePoint.small) := by
  intro x y parted
  obtain ⟨front,back,whole,_,behind⟩ := List.map_eq_append_iff.mp parted
  obtain ⟨space,rest,rfl,small,tail⟩ := List.map_eq_cons_iff.mp behind
  have sign : space.isAlnum ∨ space = .char ' ' :=
    (memSeparate (by rw [whole]; simp)).symm.imp_left (alnum space)
  have free : CodePoint.char ' ' ∉ name := fun inside => absurd (alnum _ inside) (by decide)
  rw [smallSpace sign small] at whole
  obtain ⟨c,z,rfl,capital⟩ := separateCapital free whole
  exact ⟨c.small,z.map CodePoint.small,tail.symm,smallOfCapital capital⟩

theorem separatedHead (alnum : Alnum name) {c : CodePoint}
    (first : ((separate (.char ' ') isSpokenBreak name).map CodePoint.small).head? = some c) : c.isAlnum := by
  cases name with
  | nil => simp [separate] at first
  | cons a t =>
    obtain ⟨rest,head⟩ := separateHead isSpokenBreak (.char ' ') a t
    rw [head] at first
    cases Option.some.inj first
    rcases CodePoint.smallOfAlnum (alnum a List.mem_cons_self) with h | h <;>
      simp [CodePoint.isAlnum,CodePoint.isLetter,h]

theorem spokenSeparated (alnum : Alnum name) :
    spoken name = (separate (.char ' ') isSpokenBreak name).map CodePoint.small := by
  refine (spokenLowered alnum).trans (Text.trimSelf ?_ ?_)
  · exact fun c first => CodePoint.notBlankOfAlnum (separatedHead alnum first)
  · intro c last
    obtain ⟨front,whole⟩ := List.getLast?_eq_some_iff.mp last
    rcases separatedSigns alnum (List.mem_of_getLast? last) with isAlnum | rfl
    · exact CodePoint.notBlankOfAlnum isAlnum
    · obtain ⟨_,_,empty,_⟩ := separatedRisen alnum front [] whole
      contradiction

theorem runsFull {t run : Text} {d : CodePoint} (accepted : d.isAlnum) :
    Text.runs.go CodePoint.isAlnum run (d :: t) ≠ [] := by
  intro empty
  obtain ⟨part,member,_⟩ := @Text.memRunsOfRun CodePoint.isAlnum (d :: t) run d (.inr ⟨List.mem_cons_self,accepted⟩)
  rw [empty] at member
  contradiction

theorem joinRuns {t run : Text} (signs : ∀ c ∈ t, c.isAlnum ∨ c = .char ' ') (risen : Risen t)
    (starts : run ≠ [] ∨ t = [] ∨ ∃ c z, t = c :: z ∧ c.isAlnum) :
    Text.join "_" (Text.runs.go CodePoint.isAlnum run t) = run.reverse ++ t.map underscored := by
  induction t generalizing run with
  | nil =>
    unfold Text.runs.go
    split
    · rename_i empty
      simp [List.isEmpty_iff.mp empty,Text.join]
    · rw [Text.joinSingle]
      simp
  | cons c t ih =>
    have rest : ∀ d ∈ t, d.isAlnum ∨ d = .char ' ' := fun d member => signs d (List.mem_cons_of_mem _ member)
    have later : Risen t := fun x y whole => risen (c :: x) y (by rw [whole]; rfl)
    unfold Text.runs.go
    rcases signs c List.mem_cons_self with alnum | rfl
    · have other : c ≠ .char ' ' := by
        rintro rfl
        exact absurd alnum (by decide)
      rw [if_pos alnum,ih rest later (.inl (by simp))]
      simp [underscored,other]
    · obtain ⟨d,z,rfl,small⟩ := risen [] t rfl
      have alnum : d.isAlnum := by simp [CodePoint.isAlnum,CodePoint.isLetter,small]
      -- no space comes first, so there is a run that ends at it
      have full : run ≠ [] := by
        rcases starts with full | empty | ⟨c,_,same,isAlnum⟩
        · exact full
        · contradiction
        · rw [← (List.cons.inj same).1] at isAlnum
          exact absurd isAlnum (by decide)
      rw [if_neg (by decide),if_neg (by simp [full])]
      obtain ⟨next,parts,words⟩ := List.exists_cons_of_ne_nil (@runsFull z [] d alnum)
      have tail := @ih [] rest later (.inr (.inr ⟨d,z,rfl,alnum⟩))
      rw [words] at tail ⊢
      rw [Text.joinCons,tail]
      simp [underscored,Text.ofString]

theorem snakeSpoken (alnum : Alnum name) : snake name = (spoken name).map underscored := by
  have same := spokenSeparated alnum
  rw [snake,alnumWords,Text.runs,same]
  refine joinRuns (fun _ => separatedSigns alnum) (separatedRisen alnum) (.inr ?_)
  cases whole : (separate (.char ' ') isSpokenBreak name).map CodePoint.small with
  | nil => exact .inl rfl
  | cons c z => exact .inr ⟨c,z,rfl,separatedHead alnum (by rw [whole]; rfl)⟩

theorem snakeUnnumbered {t id : Text} (alnum : Alnum name) (number : id.head?.any CodePoint.isSmall = false) :
    snake name ≠ t ++ .char '_' :: id := by
  intro same
  rw [snakeSpoken alnum] at same
  obtain ⟨front,back,whole,_,behind⟩ := List.map_eq_append_iff.mp same
  obtain ⟨mark,rest,rfl,under,tail⟩ := List.map_eq_cons_iff.mp behind
  have space : mark = .char ' ' := by
    rcases @separatedSigns name alnum mark (by rw [← spokenSeparated alnum,whole]; simp) with isAlnum | space
    · unfold underscored at under
      split at under
      · assumption
      · rw [under] at isAlnum
        exact absurd isAlnum (by decide)
    · exact space
  rw [space] at whole
  obtain ⟨c,z,rfl,small⟩ := separatedRisen alnum front rest ((spokenSeparated alnum).symm.trans whole)
  have letter : underscored c = c := by
    unfold underscored
    split
    · rename_i wrong
      rw [wrong] at small
      exact absurd small (by decide)
    · rfl
  rw [List.map_cons,letter] at tail
  rw [← tail] at number
  simp [small] at number

end spoken
end TestWeaver.Naming
