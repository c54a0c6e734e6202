import Mathlib.Algebra.GroupWithZero.Nat
import Mathlib.Algebra.Order.BigOperators.Group.List
import Mathlib.Algebra.Order.Group.Nat
import TestWeaver.Proofs.Story.Marks

/-! Criteria as groups of lines. A marked line opens a criterion and the unmarked lines up to the next mark go on with
it. A mark that stands alone leaves nothing behind, so the criterion is not there until a longer line opens it. -/
namespace TestWeaver.Criteria

structure Group where
  line : Text
  opening : Text
  rest : List Text
  deriving DecidableEq

def Group.lines (g : Group) : List Text := g.line :: g.rest

structure Parted (lines leading : List Text) (groups : List Group) : Prop where
  whole : lines = leading ++ groups.flatMap Group.lines
  before : ∀ line ∈ leading, ∀ opening, ¬ Opening line opening
  opens : ∀ g ∈ groups, Opening g.line g.opening
  below : ∀ g ∈ groups, ∀ line ∈ g.rest, ∀ opening, ¬ Opening line opening

def late (lines : List Text) : List Text := lines.dropWhile fun line => line.length ≤ plainLength

def Group.told (g : Group) : List Text := if g.opening.isEmpty then late g.rest else g.opening :: g.rest

def Group.parts (g : Group) : List Text := (g.opening :: g.rest).filter fun part => !part.isEmpty

def Group.Whole (g : Group) : Prop :=
  g.opening = [] → (∀ line ∈ g.rest.head?, plainLength < line.length) ∨ (joined g.rest).length < minimalLength

section parting
variable {lines leading plain more : List Text} {groups : List Group}

def parting : List Text → List Text × List Group
  | [] => ([],[])
  | line :: lines =>
    match opened? line with
    | some opening => ([],⟨line,opening,(parting lines).1⟩ :: (parting lines).2)
    | none => (line :: (parting lines).1,(parting lines).2)

theorem partingParted (lines : List Text) : Parted lines (parting lines).1 (parting lines).2 := by
  induction lines with
  | nil => exact ⟨rfl,nofun,nofun,nofun⟩
  | cons line lines ih =>
    rw [parting]
    split
    · rename_i opening found
      refine ⟨?_,nofun,List.forall_mem_cons.mpr ⟨openedIff.mp found,ih.opens⟩,List.forall_mem_cons.mpr ⟨ih.before,ih.below⟩⟩
      rw [List.nil_append,List.flatMap_cons,Group.lines,List.cons_append,← ih.whole]
    · rename_i plain
      refine ⟨?_,List.forall_mem_cons.mpr ⟨fun opening opens => ?_,ih.before⟩,ih.opens,ih.below⟩
      · rw [List.cons_append,← ih.whole]
      · rw [openedIff.mpr opens] at plain
        contradiction

theorem unmarkedNone (unmarked : ∀ line ∈ plain, ∀ opening, ¬ Opening line opening) : ∀ line ∈ plain, opened? line = none := by
  intro line member
  cases found : opened? line with
  | none => rfl
  | some opening => exact absurd (openedIff.mp found) (unmarked line member opening)

theorem partingPlain (unmarked : ∀ line ∈ plain, opened? line = none) :
    parting (plain ++ more) = (plain ++ (parting more).1,(parting more).2) := by
  induction plain with
  | nil => rfl
  | cons line plain ih =>
    obtain ⟨here,later⟩ := List.forall_mem_cons.mp unmarked
    rw [List.cons_append,parting,here,ih later]
    rfl

theorem partedParting (parted : Parted lines leading groups) : parting lines = (leading,groups) := by
  have marked : parting (groups.flatMap Group.lines) = ([],groups) := by
    obtain ⟨_,_,opens,below⟩ := parted
    clear * - opens below
    induction groups with
    | nil => rfl
    | cons g groups ih =>
      obtain ⟨here,opens⟩ := List.forall_mem_cons.mp opens
      obtain ⟨unmarked,below⟩ := List.forall_mem_cons.mp below
      rw [List.flatMap_cons,Group.lines,List.cons_append,parting,openedIff.mpr here,
        partingPlain (unmarkedNone unmarked),ih opens below,List.append_nil]
  rw [parted.whole,partingPlain (unmarkedNone parted.before),marked,List.append_nil]

end parting

section reading
variable {lines leading plain more parts : List Text} {groups : List Group}

theorem groupPlain (unmarked : ∀ line ∈ plain, opened? line = none) :
    group parts (plain ++ more) = group (if parts.isEmpty then late plain else parts ++ plain) more := by
  induction plain generalizing parts with
  | nil =>
    cases parts with
    | nil => rfl
    | cons part parts => simp
  | cons line plain ih =>
    obtain ⟨here,later⟩ := List.forall_mem_cons.mp unmarked
    rw [List.cons_append,group,here]
    simp only
    rw [ih later]
    cases parts with
    | nil =>
      by_cases long : plainLength < line.length
      · simp [late,long]
      · have short : line.length ≤ plainLength := not_lt.mp long
        simp [late,long,short]
    | cons part parts => simp

theorem groupGroup {g : Group} (opens : Opening g.line g.opening) (unmarked : ∀ line ∈ g.rest, ∀ opening, ¬ Opening line opening) :
    group parts (g.lines ++ more) = closed parts ++ group g.told more := by
  rw [Group.lines,List.cons_append,group,openedIff.mpr opens]
  simp only
  rw [groupPlain (unmarkedNone unmarked),Group.told]
  cases g.opening with
  | nil => rfl
  | cons c t => rfl

theorem groupGroups (opens : ∀ g ∈ groups, Opening g.line g.opening)
    (below : ∀ g ∈ groups, ∀ line ∈ g.rest, ∀ opening, ¬ Opening line opening) :
    group parts (groups.flatMap Group.lines) = closed parts ++ groups.flatMap fun g => closed g.told := by
  induction groups generalizing parts with
  | nil => exact (List.append_nil _).symm
  | cons g groups ih =>
    obtain ⟨here,opens⟩ := List.forall_mem_cons.mp opens
    obtain ⟨unmarked,below⟩ := List.forall_mem_cons.mp below
    rw [List.flatMap_cons,groupGroup here unmarked,ih opens below,List.flatMap_cons]

theorem groupParted (parted : Parted lines leading groups) :
    group [] lines = closed (late leading) ++ groups.flatMap fun g => closed g.told := by
  rw [parted.whole,groupPlain (unmarkedNone parted.before),groupGroups parted.opens parted.below]
  rfl

end reading

section whole
variable {line : Text} {lines few : List Text} {groups : List Group}

theorem joinedTail (line : Text) (lines : List Text) : (joined lines).length + line.length ≤ (joined (line :: lines)).length := by
  cases lines with
  | nil => simp [joined,Text.join]
  | cons next rest =>
    rw [joined,joined,Text.joinCons]
    simp only [List.length_append]
    omega

theorem joinedSuffix (ends : few <:+ lines) : (joined few).length ≤ (joined lines).length := by
  induction lines with
  | nil => rw [List.suffix_nil.mp ends]
  | cons line lines ih =>
    rcases List.suffix_cons_iff.mp ends with rfl | ends
    · exact le_rfl
    · have := joinedTail line lines
      have := ih ends
      omega

theorem joinedShorter (full : line ≠ []) (ends : few <:+ lines) : (joined few).length < (joined (line :: lines)).length := by
  have := joinedTail line lines
  have := joinedSuffix ends
  have := List.length_pos_iff.mpr full
  omega

def extent (texts : List Text) : Nat := (texts.map fun t => t.length + 1).sum

theorem extentClosed (parts : List Text) :
    extent (closed parts) = if minimalLength ≤ (joined parts).length then (joined parts).length + 1 else 0 := by
  rw [closed]
  split <;> simp [extent]

theorem extentFlat (f : Group → List Text) (groups : List Group) :
    extent (groups.flatMap f) = (groups.map fun g => extent (f g)).sum := by
  induction groups with
  | nil => rfl
  | cons g groups ih =>
    rw [List.flatMap_cons,extent,List.map_append,List.sum_append,List.map_cons,List.sum_cons,← ih]
    rfl

theorem toldExtent {g : Group} (full : ∀ line ∈ g.rest, line ≠ []) :
    g.Whole ∧ closed g.told = closed g.parts ∨ ¬ g.Whole ∧ extent (closed g.told) < extent (closed g.parts) := by
  have kept : (g.rest.filter fun part => !part.isEmpty) = g.rest :=
    List.filter_eq_self.mpr fun line member => by simpa using full line member
  unfold Group.Whole Group.told Group.parts
  cases g.opening with
  | cons c t =>
    refine .inl ⟨nofun,?_⟩
    rw [List.filter_cons_of_pos rfl,kept]
    rfl
  | nil =>
    rw [List.filter_cons_of_neg (by simp),kept,List.isEmpty_nil,if_pos rfl]
    cases below : g.rest with
    | nil => exact .inl ⟨fun _ => .inl nofun,rfl⟩
    | cons line lines =>
      by_cases long : plainLength < line.length
      · exact .inl ⟨fun _ => .inl (by simpa using long),by simp [late,long]⟩
      · have ends : late (line :: lines) <:+ lines := by
          rw [late,List.dropWhile_cons_of_pos (by simpa using long)]
          exact List.dropWhile_suffix _
        have shorter := joinedShorter (full line (below ▸ List.mem_cons_self)) ends
        by_cases terse : (joined (line :: lines)).length < minimalLength
        · refine .inl ⟨fun _ => .inr terse,?_⟩
          rw [closed,closed,if_neg (by omega),if_neg (by omega)]
        · refine .inr ⟨?_,?_⟩
          · simpa [long] using terse
          · rw [extentClosed,extentClosed]
            split <;> split <;> omega

theorem wholeIff (full : ∀ g ∈ groups, ∀ line ∈ g.rest, line ≠ []) :
    (groups.flatMap fun g => closed g.told) = (groups.flatMap fun g => closed g.parts) ↔ ∀ g ∈ groups, g.Whole := by
  constructor
  · intro same
    by_contra lost
    push Not at lost
    obtain ⟨g,member,lost⟩ := lost
    have less : extent (groups.flatMap fun g => closed g.told) < extent (groups.flatMap fun g => closed g.parts) := by
      rw [extentFlat,extentFlat]
      refine List.sum_lt_sum _ _ (fun g member => ?_) ⟨g,member,?_⟩
      · rcases toldExtent (full g member) with ⟨_,told⟩ | ⟨_,less⟩
        · rw [told]
        · exact less.le
      · rcases toldExtent (full g member) with ⟨whole,_⟩ | ⟨_,less⟩
        · exact absurd whole lost
        · exact less
    rw [same] at less
    exact less.false
  · intro whole
    refine List.flatMap_congr fun g member => ?_
    rcases toldExtent (full g member) with ⟨_,told⟩ | ⟨lost,_⟩
    · exact told
    · exact absurd (whole g member) lost

end whole

/- The criteria of a text are those of its lines as they are parted: in order, the unmarked ones at the start from
the first long one on, then every group with what stands behind its mark and all lines below, unless the mark stands
alone. Then the lines up to the first long one are passed over, so that all groups are read with all of their parts
just when such lines are missing or say too little in any case. -/
theorem criteriaGrouped (t : Text) : ∃ leading groups, Parted (Text.linesIn t) leading groups ∧
    (∀ first others, Parted (Text.linesIn t) first others → first = leading ∧ others = groups) ∧
    ofText t = closed (late leading) ++ groups.flatMap (fun g => closed g.told) ∧
    (ofText t = closed (late leading) ++ groups.flatMap (fun g => closed g.parts) ↔ ∀ g ∈ groups, g.Whole) := by
  have parted := partingParted (Text.linesIn t)
  refine ⟨_,_,parted,fun first others other => ?_,?_,?_⟩
  · rw [partedParting other]
    exact ⟨rfl,rfl⟩
  · rw [ofTextLinesIn,groupParted parted]
  · rw [ofTextLinesIn,groupParted parted,List.append_cancel_left_eq]
    refine wholeIff fun g member line below => ?_
    have inside : line ∈ Text.linesIn t := by
      rw [parted.whole]
      exact List.mem_append_right _ (List.mem_flatMap.mpr ⟨g,member,List.mem_cons_of_mem _ below⟩)
    simpa using (List.mem_filter.mp inside).2

theorem loneLabelLost : ∃ leading groups,
    Parted (Text.linesIn "AC 1:\nUser can log in\nAC 2:\nUser can log out") leading groups ∧
    closed (late leading) ++ groups.flatMap (fun g => closed g.parts) = ["User can log in","User can log out"] ∧
    ofText "AC 1:\nUser can log in\nAC 2:\nUser can log out" = ["User can log out"] :=
  ⟨_,_,partingParted _,by decide +kernel,by decide +kernel⟩

end TestWeaver.Criteria
