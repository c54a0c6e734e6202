import Mathlib.Data.List.DropRight
import TestWeaver.Proofs.Text.Lines

/-! Texts as they are read: by lines, without the blanks around them and without those that show
nothing, and by words. -/
namespace TestWeaver.Text

def tidy (lines : List Text) : List Text := (lines.map trim).filter fun line => !line.isEmpty

theorem tidyAppend (lines rest : List Text) : tidy (lines ++ rest) = tidy lines ++ tidy rest := by
  rw [tidy,List.map_append,List.filter_append]
  rfl

theorem tidyLines {lines : List Text} (each : ∀ line ∈ lines, IsLine line) : tidy lines = lines := by
  have trimmed := List.map_congr_left (f := trim) (g := id) fun t member => trimOfBare (each t member).bare
  rw [List.map_id] at trimmed
  rw [tidy,trimmed]
  exact List.filter_eq_self.mpr fun t member => by simpa using (each t member).full

def linesIn (t : Text) : List Text := tidy (splitOn t (.char '\n'))

theorem linesOfLines {lines : List Text} (each : ∀ line ∈ lines, IsLine line) : linesIn (unlines lines) = lines := by
  cases lines with
  | nil => rfl
  | cons line rest => rw [linesIn,splitUnlines (by simp) fun t member => (each t member).single,tidyLines each]

section lines
variable {t : Text} {c : CodePoint} {lines : List Text} {line : Text}

theorem tidyTrims {other : Text} (same : line.trim = other.trim) (lines : List Text) :
    tidy (line :: lines) = tidy (other :: lines) := by
  rw [tidy,List.map_cons,same]
  rfl

theorem tidyUpTo {other : Text} (same : line.trim = other.trim) :
    tidy (upToEmpty (lines ++ [line])) = tidy (upToEmpty (lines ++ [other])) := by
  have last : ∀ line : Text, tidy ([line].takeWhile fun line => !line.isEmpty) = tidy [line] := by
    intro line
    cases line <;> rfl
  cases lines with
  | nil => exact tidyTrims same []
  | cons first lines =>
    rw [List.cons_append,List.cons_append,upToEmpty,upToEmpty,List.takeWhile_append,List.takeWhile_append]
    split
    · rw [← List.singleton_append,← List.singleton_append (l := _ ++ _),tidyAppend,tidyAppend,tidyAppend,tidyAppend,last,last,
        tidyTrims same]
    · rfl

theorem upToFeed (full : lines ≠ []) : upToEmpty (lines ++ [[]]) = upToEmpty lines := by
  obtain ⟨first,rest,rfl⟩ := List.exists_cons_of_ne_nil full
  rw [List.cons_append,upToEmpty,upToEmpty,List.takeWhile_append]
  split
  · rename_i all
    rw [(List.takeWhile_prefix _).eq_of_length all]
    simp
  · rfl

theorem linesConcat (blank : c.isBlank) : linesIn (t ++ [c]) = linesIn t := by
  by_cases feed : c = .char '\n'
  · rw [feed,linesIn,splitAppend,tidyAppend]
    exact List.append_nil _
  · obtain ⟨lines,line,before,after⟩ := splitConcat feed t
    rw [linesIn,linesIn,before,after,tidyAppend,tidyAppend,tidyTrims (trimConcat blank)]

theorem linesCons (blank : c.isBlank) : linesIn (c :: t) = linesIn t := by
  rw [linesIn,linesIn,splitOn]
  by_cases feed : c = .char '\n'
  · rw [if_pos feed]
    rfl
  · obtain ⟨line,lines,parted⟩ := splitCons t (.char '\n')
    rw [if_neg feed,parted]
    exact tidyTrims (trimCons blank) lines

theorem linesTrim (t : Text) : linesIn t.trim = linesIn t := by
  have front : ∀ t : Text, linesIn (t.dropWhile CodePoint.isBlank) = linesIn t := by
    intro t
    induction t with
    | nil => rfl
    | cons c t ih =>
      cases blank : c.isBlank with
      | true => rw [List.dropWhile_cons_of_pos blank,ih,linesCons blank]
      | false => rw [List.dropWhile_cons_of_neg (by simp [blank])]
  rw [trim,dropBoth,dropTailSame (fun _ _ => linesConcat),front]

theorem linesBlock (t : Text) : linesIn t.firstBlock = tidy (upToEmpty (splitOn t (.char '\n'))) := by
  obtain ⟨rest,none,split⟩ := splitBlock t
  rw [linesIn,split,tidyAppend]
  rcases none with rfl | rfl <;> exact List.append_nil _

theorem blockConcat (blank : c.isBlank) : linesIn (t ++ [c]).firstBlock = linesIn t.firstBlock := by
  rw [linesBlock,linesBlock]
  by_cases feed : c = .char '\n'
  · obtain ⟨line,lines,parted⟩ := splitCons t (.char '\n')
    rw [feed,splitAppend]
    exact congrArg tidy (upToFeed (by simp [parted]))
  · obtain ⟨lines,line,before,after⟩ := splitConcat feed t
    rw [before,after,tidyUpTo (trimConcat blank)]

theorem tidyFull (lines : List Text) : tidy (lines.filter fun line => !line.isEmpty) = tidy lines := by
  induction lines with
  | nil => rfl
  | cons line lines ih =>
    cases line with
    | nil => exact ih
    | cons c t =>
      rw [List.filter_cons_of_pos rfl,← List.singleton_append,← List.singleton_append (l := lines),tidyAppend,tidyAppend,ih]

theorem tidyFlat {α : Type} (f : α → List Text) (items : List α) :
    tidy (items.flatMap fun a => (f a).filter fun line => !line.isEmpty) = items.flatMap fun a => tidy (f a) := by
  induction items with
  | nil => rfl
  | cons a items ih => rw [List.flatMap_cons,List.flatMap_cons,tidyAppend,tidyFull,ih]

theorem tidyEach (single : ∀ line ∈ lines, .char '\n' ∉ line) : ∀ line ∈ tidy lines, IsLine line := by
  intro line member
  obtain ⟨trimmed,full⟩ := List.mem_filter.mp member
  obtain ⟨t,inside,rfl⟩ := List.mem_map.mp trimmed
  exact ⟨by simpa using full,fun feed => single t inside ((trimSublist t).subset feed),trimBare t⟩

theorem linesUnlines (single : ∀ line ∈ lines, .char '\n' ∉ line) : linesIn (unlines lines) = tidy lines := by
  cases lines with
  | nil => rfl
  | cons line rest => rw [linesIn,splitUnlines (by simp) single]

end lines

section words
variable {t a b : Text} {lines : List Text} {line : Text}

theorem runsBlank {p : CodePoint → Bool} (blank : ∀ c ∈ b, p c = false) (run t : Text) :
    runs.go p run (t ++ b) = runs.go p run t := by
  induction t generalizing run with
  | nil =>
    have none : ∀ b : Text, (∀ c ∈ b, p c = false) → runs.go p [] b = [] := by
      intro b blank
      induction b with
      | nil => rfl
      | cons c b ih =>
        obtain ⟨here,later⟩ := List.forall_mem_cons.mp blank
        simp only [runs.go,here,Bool.false_eq_true,if_false,List.isEmpty_nil,if_true,ih later]
    cases b with
    | nil => rfl
    | cons c b =>
      obtain ⟨here,later⟩ := List.forall_mem_cons.mp blank
      simp only [List.nil_append,runs.go,here,Bool.false_eq_true,if_false,none b later]
  | cons c t ih =>
    simp only [List.cons_append,runs.go,ih]

theorem wordsPadded (front : ∀ c ∈ a, c.isBlank) (back : ∀ c ∈ b, c.isBlank) : words (a ++ t ++ b) = words t := by
  rw [words,runs,runsBlank fun c member => by simp [back c member]]
  induction a with
  | nil => rfl
  | cons c a ih =>
    obtain ⟨here,later⟩ := List.forall_mem_cons.mp front
    simp only [List.cons_append,runs.go,here,Bool.not_true,Bool.false_eq_true,if_false,List.isEmpty_nil,if_true]
    exact ih later

theorem trimParts (t : Text) : ∃ a b : Text, t = a ++ t.trim ++ b ∧ (∀ c ∈ a, c.isBlank) ∧ ∀ c ∈ b, c.isBlank := by
  refine ⟨t.takeWhile CodePoint.isBlank,((t.dropWhile CodePoint.isBlank).reverse.takeWhile CodePoint.isBlank).reverse,?_,
    fun c member => List.all_eq_true.mp List.all_takeWhile c member,
    fun c member => List.all_eq_true.mp List.all_takeWhile c (List.mem_reverse.mp member)⟩
  rw [List.append_assoc,trim,dropBoth,dropTail,← List.reverse_append,List.takeWhile_append_dropWhile,List.reverse_reverse,
    List.takeWhile_append_dropWhile]

theorem squeezeTrim (t : Text) : squeeze t.trim = squeeze t := by
  obtain ⟨a,b,whole,front,back⟩ := trimParts t
  have same := wordsPadded (t := t.trim) front back
  rw [← whole] at same
  rw [squeeze,squeeze,same]

theorem blankTrim (none : t.trim = []) : ∀ c ∈ t, c.isBlank := by
  intro c member
  cases blank : c.isBlank with
  | true => rfl
  | false =>
    have kept := memTrim member blank
    rw [none] at kept
    contradiction

theorem tidyNone (none : tidy lines = []) : ∀ c ∈ lines.flatten, c.isBlank := by
  intro c member
  obtain ⟨line,inside,here⟩ := List.mem_flatten.mp member
  refine blankTrim ?_ c here
  by_contra full
  have kept : trim line ∈ tidy lines := List.mem_filter.mpr ⟨List.mem_map.mpr ⟨line,inside,rfl⟩,by simpa using full⟩
  rw [none] at kept
  contradiction

theorem tidySole {texts : List Text} (sole : tidy texts = [line]) : squeeze texts.flatten = squeeze line := by
  induction texts with
  | nil => contradiction
  | cons t texts ih =>
    rw [← List.singleton_append,tidyAppend] at sole
    by_cases none : t.trim = []
    · have empty : tidy [t] = [] := by rw [tidy,List.map_singleton,none]; rfl
      rw [empty,List.nil_append] at sole
      have same := wordsPadded (t := texts.flatten) (b := []) (blankTrim none) (by simp)
      rw [List.append_nil] at same
      rw [List.flatten_cons,squeeze,same]
      exact ih sole
    · have full : tidy [t] = [t.trim] := by rw [tidy,List.map_singleton,List.filter_cons_of_pos (by simpa using none)]; rfl
      rw [full] at sole
      obtain ⟨rfl,rest⟩ := List.cons.inj sole
      have same := wordsPadded (t := t) (a := []) (by simp) (tidyNone rest)
      rw [List.nil_append] at same
      rw [List.flatten_cons,squeezeTrim,squeeze,same,squeeze]

theorem squeezeConcat {c : CodePoint} (blank : c.isBlank) (t : Text) : squeeze (t ++ [c]) = squeeze t := by
  have same := wordsPadded (t := t) (a := []) (b := [c]) (by simp) (by simpa using blank)
  rw [List.nil_append] at same
  rw [squeeze,same,squeeze]

theorem squeezeFront (t : Text) : squeeze (t.dropWhile CodePoint.isBlank) = squeeze t := by
  have front : ∀ c ∈ t.takeWhile CodePoint.isBlank, c.isBlank := fun c member => List.all_eq_true.mp List.all_takeWhile c member
  have same := wordsPadded (t := t.dropWhile CodePoint.isBlank) (b := []) front (by simp)
  rw [List.append_nil,List.takeWhile_append_dropWhile] at same
  rw [squeeze,squeeze,same]

theorem squeezeBare (t : Text) : Bare t.squeeze := by
  refine joinBare fun word member => ?_
  obtain ⟨full,dark⟩ := runsWithin member
  have each : ∀ c ∈ word, c.isBlank = false := fun c inside => by simpa using (dark c inside).1
  exact ⟨full,fun c first => each c (List.mem_of_head? first),fun c last => each c (List.mem_of_getLast? last)⟩

theorem squeezeFull (shows : t.isBlank = false) : t.squeeze ≠ [] := by
  obtain ⟨c,member,dark⟩ := List.all_eq_false.mp shows
  obtain ⟨word,inside,_⟩ := memRuns (p := fun c => !c.isBlank) member (by simpa using dark)
  exact joinFull (List.ne_nil_of_mem inside) fun word member => (runsWithin member).1

theorem darkOf (full : t.trim ≠ []) : ∃ a c x, t = a ++ c :: x ∧ c.isBlank = false := by
  by_contra none
  refine full (trimBlank fun c member => ?_)
  cases blank : c.isBlank with
  | true => rfl
  | false =>
    obtain ⟨a,x,parts⟩ := List.append_of_mem member
    exact absurd ⟨a,c,x,parts,blank⟩ none

theorem dropEnded (full : trim line ≠ []) :
    (ended (line :: lines)).dropWhile CodePoint.isBlank = ended (line.dropWhile CodePoint.isBlank :: lines) := by
  obtain ⟨a,c,x,rfl,dark⟩ := darkOf full
  have step : ended ((a ++ c :: x) :: lines) = a ++ c :: (x ++ .char '\n' :: ended lines) := by simp [ended]
  rw [step,dropWhilePast dark,dropWhilePast dark]
  simp [ended]

theorem dropTailEnded (full : trim line ≠ []) :
    dropTail CodePoint.isBlank (ended (lines ++ [line])) = ended lines ++ dropTail CodePoint.isBlank line := by
  obtain ⟨a,c,x,rfl,dark⟩ := darkOf full
  have step : ended (lines ++ [a ++ c :: x]) = (ended lines ++ a) ++ c :: (x ++ [.char '\n']) := by simp [ended]
  have feed : dropTail CodePoint.isBlank (x ++ [.char '\n']) = dropTail CodePoint.isBlank x := by
    rw [dropTail,List.reverse_append,List.reverse_singleton,List.singleton_append,List.dropWhile_cons_of_pos (by decide)]
    rfl
  rw [step,dropTailPast dark,dropTailPast dark,feed,List.append_assoc]

theorem trimLines (full : lines ≠ []) (each : ∀ line ∈ lines, trim line ≠ [])
    (single : ∀ line ∈ lines, .char '\n' ∉ line) :
    (splitOn (ended lines).trim (.char '\n')).map squeeze = lines.map squeeze := by
  obtain ⟨first,rest,rfl⟩ := List.exists_cons_of_ne_nil full
  obtain ⟨here,later⟩ := List.forall_mem_cons.mp each
  obtain ⟨free,others⟩ := List.forall_mem_cons.mp single
  have same : (first.dropWhile CodePoint.isBlank :: rest).map squeeze = (first :: rest).map squeeze := by
    rw [List.map_cons,squeezeFront]
    rfl
  have kept : trim (first.dropWhile CodePoint.isBlank) = trim first := by
    rw [trim,dropBoth,List.dropWhile_idempotent]
    rfl
  have shows : ∀ line ∈ first.dropWhile CodePoint.isBlank :: rest, trim line ≠ [] :=
    List.forall_mem_cons.mpr ⟨kept ▸ here,later⟩
  have free : ∀ line ∈ first.dropWhile CodePoint.isBlank :: rest, .char '\n' ∉ line :=
    List.forall_mem_cons.mpr ⟨fun feed => free ((List.dropWhile_sublist _).subset feed),others⟩
  rw [trim,dropBoth,dropEnded here,← same]
  rcases List.eq_nil_or_concat (first.dropWhile CodePoint.isBlank :: rest) with none | ⟨front,last,whole⟩
  · contradiction
  · rw [List.concat_eq_append] at whole
    rw [whole] at shows free ⊢
    have tail : .char '\n' ∉ dropTail CodePoint.isBlank last := fun feed =>
      free last (by simp) ((dropTailSublist _ last).subset feed)
    rw [dropTailEnded (shows last (by simp)),splitEnded fun line member => free line (List.mem_append_left _ member),
      splitFree tail,List.map_append,List.map_append,List.map_singleton,dropTailSame fun t c blank => squeezeConcat blank t]
    rfl

end words
end TestWeaver.Text
