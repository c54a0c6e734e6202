import Mathlib.Data.List.Induction
import Mathlib.Data.List.TakeWhile
import TestWeaver.Proofs.Text.Alphabet
import TestWeaver.Proofs.Text.Parts

/-! Texts taken apart at a sign and put together from lines. Lines that show something and are
trimmed come back as they were, whatever blanks the whole is trimmed of. -/
namespace TestWeaver.Text

section split
variable {t : Text} {mark : CodePoint}

theorem splitCons (t : Text) (mark : CodePoint) : ∃ part parts, splitOn t mark = part :: parts := by
  cases t with
  | nil => exact ⟨[],[],rfl⟩
  | cons c t =>
    unfold splitOn
    split
    · exact ⟨[],_,rfl⟩
    · split
      · exact ⟨[c],[],rfl⟩
      · exact ⟨_,_,rfl⟩

theorem splitAppend (t u : Text) (mark : CodePoint) : splitOn (t ++ mark :: u) mark = splitOn t mark ++ splitOn u mark := by
  induction t with
  | nil => simp [splitOn]
  | cons c t ih =>
    obtain ⟨part,parts,parted⟩ := splitCons t mark
    rw [List.cons_append,splitOn,splitOn,ih,parted]
    split <;> rfl

theorem splitFree (free : mark ∉ t) : splitOn t mark = [t] := by
  induction t with
  | nil => rfl
  | cons c t ih =>
    rw [List.mem_cons,not_or] at free
    rw [splitOn,if_neg (Ne.symm free.1),ih free.2]

theorem splitWithin (t : Text) (mark : CodePoint) : ∀ part ∈ splitOn t mark, mark ∉ part ∧ part ⊆ t := by
  induction t with
  | nil => simp [splitOn]
  | cons c t ih =>
    obtain ⟨first,parts,parted⟩ := splitCons t mark
    have wider : ∀ part ∈ splitOn t mark, mark ∉ part ∧ part ⊆ c :: t := fun part member =>
      ⟨(ih part member).1,List.subset_cons_of_subset c (ih part member).2⟩
    rw [splitOn]
    split
    · exact List.forall_mem_cons.mpr ⟨⟨List.not_mem_nil,List.nil_subset _⟩,wider⟩
    · rename_i other
      rw [parted,List.forall_mem_cons] at wider
      rw [parted]
      refine List.forall_mem_cons.mpr ⟨⟨?_,List.cons_subset.mpr ⟨List.mem_cons_self,wider.1.2⟩⟩,wider.2⟩
      rw [List.mem_cons,not_or]
      exact ⟨Ne.symm other,wider.1.1⟩

theorem cutFirst (free : mark ∉ t) (u : Text) : cut? (t ++ mark :: u) [mark] = some (t,u) := by
  induction t with
  | nil =>
    have leads : afterLead? (mark :: u) [mark] = some u := afterLeadSelf [mark] u
    rw [List.nil_append,cut?,leads]
  | cons c t ih =>
    rw [List.mem_cons,not_or] at free
    have past : afterLead? (c :: (t ++ mark :: u)) [mark] = none := by
      rw [afterLead?,if_neg free.1]
    rw [List.cons_append,cut?,past,ih free.2]
    rfl

end split

section ends
variable {t a b : Text}

def Bare (t : Text) : Prop := (∀ c ∈ t.head?, c.isBlank = false) ∧ ∀ c ∈ t.getLast?, c.isBlank = false

theorem trimPrefix (t : Text) : t.trim <+: t.dropWhile CodePoint.isBlank := by
  have ends := List.dropWhile_suffix CodePoint.isBlank (l := (t.dropWhile CodePoint.isBlank).reverse)
  have starts := List.reverse_prefix.mpr ends
  rwa [List.reverse_reverse] at starts

theorem trimBare (t : Text) : Bare t.trim := by
  have front : ∀ c ∈ (t.dropWhile CodePoint.isBlank).head?, c.isBlank = false := by
    intro c member
    have kept := List.head?_dropWhile_not CodePoint.isBlank t
    rw [member] at kept
    simpa using kept
  have back : ∀ c ∈ t.trim.getLast?, c.isBlank = false := by
    intro c member
    rw [trim,dropBoth,dropTail,List.getLast?_reverse] at member
    have kept := List.head?_dropWhile_not CodePoint.isBlank (t.dropWhile CodePoint.isBlank).reverse
    rw [member] at kept
    simpa using kept
  refine ⟨?_,back⟩
  intro c member
  obtain ⟨tail,whole⟩ := trimPrefix t
  refine front c ?_
  rw [← whole,List.head?_append,member]
  rfl

theorem trimOfBare (bare : Bare t) : t.trim = t := trimSelf bare.1 bare.2

theorem bareOfTrim (same : t.trim = t) : Bare t := same ▸ trimBare t

theorem trimBlank (blank : ∀ c ∈ t, c.isBlank) : t.trim = [] := by
  have gone : t.dropWhile CodePoint.isBlank = [] := List.dropWhile_eq_nil_iff.mpr blank
  rw [trim,dropBoth,gone]
  rfl

theorem trimPadded (front : ∀ c ∈ a, c.isBlank) (back : ∀ c ∈ b, c.isBlank) (bare : Bare t) :
    (a ++ t ++ b).trim = t := by
  cases t with
  | nil => exact trimBlank fun c member => (List.mem_append.mp member).elim (fun inside => front c (by simpa using inside)) (back c)
  | cons c t =>
    rw [trim,dropBoth,List.append_assoc,List.dropWhile_append_of_pos front,List.cons_append,
      List.dropWhile_cons_of_neg (by simpa using bare.1 c rfl),dropTail,← List.cons_append,List.reverse_append,
      List.dropWhile_append_of_pos (fun d member => back d (List.mem_reverse.mp member)),
      dropWhileSelf (by rw [List.head?_reverse]; exact bare.2),List.reverse_reverse]

theorem trimConcat {c : CodePoint} (blank : c.isBlank) : (t ++ [c]).trim = t.trim := by
  rw [trim,dropBoth,List.dropWhile_append]
  cases gone : t.dropWhile CodePoint.isBlank with
  | nil =>
    rw [List.isEmpty_nil,if_pos rfl,List.dropWhile_cons_of_pos blank,trim,dropBoth,gone]
    rfl
  | cons d u =>
    rw [List.isEmpty_cons,if_neg Bool.false_ne_true,dropTail,List.reverse_append,List.reverse_singleton,
      List.singleton_append,List.dropWhile_cons_of_pos blank,trim,dropBoth,gone,dropTail]

theorem trimCons {c : CodePoint} (blank : c.isBlank) : trim (c :: t) = t.trim := by
  rw [trim,dropBoth,List.dropWhile_cons_of_pos blank,trim,dropBoth]

theorem dropWhilePast {p : CodePoint → Bool} {c : CodePoint} (kept : p c = false) (a x : Text) :
    (a ++ c :: x).dropWhile p = a.dropWhile p ++ c :: x := by
  rw [List.dropWhile_append,List.dropWhile_cons_of_neg (by simp [kept])]
  split
  · rename_i gone
    rw [List.isEmpty_iff.mp gone]
    rfl
  · rfl

theorem dropTailPast {p : CodePoint → Bool} {c : CodePoint} (kept : p c = false) (a x : Text) :
    dropTail p (a ++ c :: x) = a ++ c :: dropTail p x := by
  rw [dropTail,List.reverse_append,List.reverse_cons,List.append_assoc,List.singleton_append,dropWhilePast kept,
    List.reverse_append,List.reverse_cons,List.reverse_reverse,List.append_assoc,List.singleton_append]
  rfl

theorem trimBetween {c d : CodePoint} (first : c.isBlank = false) (last : d.isBlank = false) (a x b : Text) :
    trim (a ++ c :: (x ++ d :: b)) = a.dropWhile CodePoint.isBlank ++ c :: (x ++ d :: dropTail CodePoint.isBlank b) := by
  have kept := dropTailPast last (a.dropWhile CodePoint.isBlank ++ c :: x) b
  rw [trim,dropBoth,dropWhilePast first]
  simpa using kept

theorem joinFull {sep : Text} {parts : List Text} (some : parts ≠ []) (each : ∀ part ∈ parts, part ≠ []) :
    join sep parts ≠ [] := by
  obtain ⟨part,rest,rfl⟩ := List.exists_cons_of_ne_nil some
  have here := each part List.mem_cons_self
  cases rest with
  | nil => rwa [joinSingle]
  | cons next rest => rw [joinCons]; simp [here]

theorem joinBare {sep : Text} {parts : List Text} (each : ∀ part ∈ parts, part ≠ [] ∧ Bare part) :
    Bare (join sep parts) := by
  induction parts with
  | nil => exact ⟨by simp [join],by simp [join]⟩
  | cons part rest ih =>
    obtain ⟨⟨here,bare⟩,later⟩ := List.forall_mem_cons.mp each
    cases rest with
    | nil => rw [joinSingle]; exact bare
    | cons next rest =>
      have last := (ih later).2
      have full : join sep (next :: rest) ≠ [] := joinFull (by simp) fun part member => (later part member).1
      rw [joinCons]
      obtain ⟨c,tail,rfl⟩ := List.exists_cons_of_ne_nil here
      refine ⟨bare.1,?_⟩
      rw [List.getLast?_append]
      intro d member
      refine last d ?_
      rw [List.getLast?_eq_some_getLast full] at member ⊢
      simpa using member

theorem dropTailSame {α : Type} {f : Text → α} (same : ∀ t c, c.isBlank → f (t ++ [c]) = f t) (t : Text) :
    f (dropTail CodePoint.isBlank t) = f t := by
  induction t using List.reverseRecOn with
  | nil => rfl
  | append_singleton t c ih =>
    rw [dropTail,List.reverse_append,List.reverse_singleton,List.singleton_append]
    cases blank : c.isBlank with
    | true => rw [List.dropWhile_cons_of_pos blank,same t c blank]; exact ih
    | false => rw [List.dropWhile_cons_of_neg (by simp [blank]),List.reverse_cons,List.reverse_reverse]

end ends

section lines
variable {t line next : Text} {ls rest : List Text}

structure IsLine (t : Text) : Prop where
  full : t ≠ []
  single : .char '\n' ∉ t
  bare : Bare t

def ended (ls : List Text) : Text := ls.flatMap (· ++ [.char '\n'])

theorem endedAppend (ls rest : List Text) : ended (ls ++ rest) = ended ls ++ ended rest := List.flatMap_append

theorem unlinesCons (line next : Text) (rest : List Text) :
    unlines (line :: next :: rest) = line ++ .char '\n' :: unlines (next :: rest) := by
  rw [unlines,joinCons,List.append_assoc]
  rfl

theorem unlinesSingle (line : Text) : unlines [line] = line := joinSingle _ line

theorem unlinesEnded (full : ls ≠ []) : unlines ls ++ [.char '\n'] = ended ls := by
  induction ls with
  | nil => contradiction
  | cons line rest ih =>
    cases rest with
    | nil => rw [unlinesSingle,ended,List.flatMap_singleton]
    | cons next rest =>
      have step : ended (line :: next :: rest) = line ++ [.char '\n'] ++ ended (next :: rest) := List.flatMap_cons
      rw [unlinesCons,List.append_assoc,List.cons_append,ih (by simp),step,List.append_assoc]
      rfl

theorem splitUnlines (full : ls ≠ []) (single : ∀ line ∈ ls, .char '\n' ∉ line) :
    splitOn (unlines ls) (.char '\n') = ls := by
  induction ls with
  | nil => contradiction
  | cons line rest ih =>
    obtain ⟨here,later⟩ := List.forall_mem_cons.mp single
    cases rest with
    | nil => rw [unlinesSingle,splitFree here]
    | cons next rest => rw [unlinesCons,splitAppend,splitFree here,ih (by simp) later]; rfl

theorem splitEnded (single : ∀ line ∈ ls, .char '\n' ∉ line) (t : Text) :
    splitOn (ended ls ++ t) (.char '\n') = ls ++ splitOn t (.char '\n') := by
  induction ls with
  | nil => rfl
  | cons line ls ih =>
    obtain ⟨here,later⟩ := List.forall_mem_cons.mp single
    have parted := splitAppend line (ended ls ++ t) (.char '\n')
    rw [ih later,splitFree here] at parted
    have step : ended (line :: ls) ++ t = line ++ .char '\n' :: (ended ls ++ t) := by simp [ended]
    rw [step,parted]
    rfl

theorem unlinesAppend (full : ls ≠ []) (more : rest ≠ []) :
    unlines (ls ++ rest) = unlines ls ++ .char '\n' :: unlines rest := by
  induction ls with
  | nil => contradiction
  | cons line ls ih =>
    obtain ⟨next,others,rfl⟩ := List.exists_cons_of_ne_nil more
    cases ls with
    | nil => rw [List.singleton_append,unlinesCons,unlinesSingle]
    | cons second ls =>
      rw [List.cons_append,List.cons_append,unlinesCons,unlinesCons,← List.cons_append,ih (by simp)]
      simp

theorem unlinesFlatten {groups : List (List Text)} (full : ∀ g ∈ groups, g ≠ []) :
    unlines (groups.map unlines) = unlines groups.flatten := by
  induction groups with
  | nil => rfl
  | cons g groups ih =>
    obtain ⟨here,later⟩ := List.forall_mem_cons.mp full
    cases groups with
    | nil => simp [unlinesSingle]
    | cons h groups =>
      have more : (h :: groups).flatten ≠ [] := by simp [later h List.mem_cons_self]
      rw [List.map_cons,List.map_cons,unlinesCons,← List.map_cons,ih later,List.flatten_cons (l := g),unlinesAppend here more]

theorem unlinesFull (full : ls ≠ []) (lines : ∀ line ∈ ls, IsLine line) : unlines ls ≠ [] :=
  joinFull full fun line member => (lines line member).full

theorem unlinesBare (lines : ∀ line ∈ ls, IsLine line) : Bare (unlines ls) :=
  joinBare fun line member => ⟨(lines line member).full,(lines line member).bare⟩

theorem trimEnded (lines : ∀ line ∈ ls, IsLine line) : (ended ls).trim = unlines ls := by
  cases ls with
  | nil => rfl
  | cons line rest =>
    have padded := trimPadded (a := []) (b := [.char '\n']) (by simp) (by decide) (unlinesBare lines)
    rwa [List.nil_append,unlinesEnded (by simp)] at padded

end lines

section blocks
variable {t u : Text} {c : CodePoint}

def firstBlock (t : Text) : Text := ((t.cut? "\n\n").map (·.1)).getD t

def upToEmpty : List Text → List Text
  | [] => []
  | line :: rest => line :: rest.takeWhile fun line => !line.isEmpty

theorem cutFeeds (t : Text) : cut? (.char '\n' :: .char '\n' :: t) "\n\n" = some ([],t) := by
  have leads : afterLead? (.char '\n' :: .char '\n' :: t) "\n\n" = some t := afterLeadSelf "\n\n" t
  rw [cut?,leads]

theorem blockCons (other : c ≠ .char '\n' ∨ t.head? ≠ some (.char '\n')) : firstBlock (c :: t) = c :: firstBlock t := by
  have past : afterLead? (c :: t) "\n\n" = none := by
    cases found : afterLead? (c :: t) "\n\n" with
    | none => rfl
    | some rest =>
      obtain ⟨same,more⟩ := List.cons.inj (afterLeadSome.mp found)
      rcases other with other | other
      · exact absurd same other
      · rw [more] at other
        exact absurd rfl other
  rw [firstBlock,cut?,past]
  cases cut : cut? t "\n\n" <;> simp [firstBlock,cut]

theorem splitBlock (t : Text) : ∃ rest : List Text, (rest = [] ∨ rest = [[]]) ∧
    splitOn (firstBlock t) (.char '\n') = upToEmpty (splitOn t (.char '\n')) ++ rest := by
  induction t with
  | nil => exact ⟨[],.inl rfl,rfl⟩
  | cons c t ih =>
    obtain ⟨rest,none,split⟩ := ih
    obtain ⟨line,lines,parted⟩ := splitCons t (.char '\n')
    rw [parted,upToEmpty,List.cons_append] at split
    by_cases feed : c = .char '\n'
    · subst feed
      cases t with
      | nil => exact ⟨[[]],.inr rfl,rfl⟩
      | cons d t =>
        -- two line feeds in a row end the block
        by_cases again : d = .char '\n'
        · subst again
          refine ⟨[],.inl rfl,?_⟩
          rw [firstBlock,cutFeeds,splitOn,if_pos rfl,splitOn,if_pos rfl]
          rfl
        · refine ⟨rest,none,?_⟩
          have full : line ≠ [] := by
            rw [splitOn,if_neg again] at parted
            split at parted <;> simp [← (List.cons.inj parted).1]
          rw [blockCons (.inr (by simpa using again)),splitOn,if_pos rfl,split,splitOn,if_pos rfl,parted,upToEmpty]
          simp [full]
    · refine ⟨rest,none,?_⟩
      rw [blockCons (.inl feed),splitOn,if_neg feed,split,splitOn,if_neg feed,parted]
      rfl

theorem splitConcat (other : c ≠ .char '\n') (t : Text) : ∃ lines line,
    splitOn t (.char '\n') = lines ++ [line] ∧ splitOn (t ++ [c]) (.char '\n') = lines ++ [line ++ [c]] := by
  induction t with
  | nil => exact ⟨[],[],rfl,splitFree (by simpa using Ne.symm other)⟩
  | cons d t ih =>
    obtain ⟨lines,line,before,after⟩ := ih
    rw [List.cons_append,splitOn,splitOn,before,after]
    by_cases feed : d = .char '\n'
    · exact ⟨[] :: lines,line,by rw [if_pos feed]; rfl,by rw [if_pos feed]; rfl⟩
    · cases lines with
      | nil => exact ⟨[],d :: line,by rw [if_neg feed]; rfl,by rw [if_neg feed]; rfl⟩
      | cons first lines => exact ⟨(d :: first) :: lines,line,by rw [if_neg feed]; rfl,by rw [if_neg feed]; rfl⟩

end blocks

end TestWeaver.Text
