import TestWeaver.Proofs.Steps.Functions

/-! Names that are given in turn. A name that is taken is tried again with the next number, and the
trials end since the names taken are finitely many and no two trials are the same. Whatever texts come
in whatever order, no two of them are given one name. -/
namespace TestWeaver.Steps

/- The trials for a stem from one name on, with the number that comes next: how many names are tried
in vain, and the one that is free. -/
inductive Tried (taken : List Text) (stem : Text) : Text → Nat → Nat → Text → Prop where
  | free {name number} (fresh : name ∉ taken) : Tried taken stem name number 0 name
  | again {name number count result} (seen : name ∈ taken)
      (next : Tried taken stem (stem ++ underscore :: Text.ofNat number) (number + 1) count result) :
      Tried taken stem name number (count + 1) result

section trials
variable {taken : List Text} {stem name : Text} {number : Nat}

theorem triedOnce {m n : Nat} {x y : Text} (left : Tried taken stem name number m x)
    (right : Tried taken stem name number n y) : m = n ∧ x = y := by
  induction left generalizing n y with
  | free fresh =>
    cases right with
    | free _ => exact ⟨rfl,rfl⟩
    | again seen _ => exact absurd seen fresh
  | again seen _ ih =>
    cases right with
    | free fresh => exact absurd seen fresh
    | again _ next =>
      obtain ⟨rfl,same⟩ := ih next
      exact ⟨rfl,same⟩

theorem triedCandidate (first count : Nat) (seen : ∀ m < count, candidate stem (first + m) ∈ taken)
    (fresh : candidate stem (first + count) ∉ taken) :
    Tried taken stem (candidate stem first) (first + 2) count (candidate stem (first + count)) := by
  induction count generalizing first with
  | zero => exact .free fresh
  | succ count ih =>
    refine .again (seen 0 (Nat.succ_pos count)) ?_
    rw [← candidateNumbered,show first + (count + 1) = first + 1 + count by omega]
    refine ih (first + 1) (fun m less => ?_) ?_
    · have later := seen (m + 1) (by omega)
      rwa [show first + (m + 1) = first + 1 + m by omega] at later
    · rwa [show first + 1 + count = first + (count + 1) by omega]

theorem freshTried (taken : List Text) (text : Text) : ∃ count ≤ taken.length, ∀ tries result,
    Tried taken (functionStem text) (functionStem text) 2 tries result ↔ tries = count ∧ result = freshName taken text := by
  obtain ⟨n,name,free,before⟩ := freshCandidate taken text
  have trials : Tried taken (functionStem text) (candidate (functionStem text) 0) (0 + 2) n
      (candidate (functionStem text) (0 + n)) := triedCandidate 0 n (by simpa using before) (by simpa [← name] using free)
  rw [Nat.zero_add,Nat.zero_add,← name] at trials
  refine ⟨n,candidatesFit before,fun tries result => ⟨fun tried => triedOnce tried trials,?_⟩⟩
  rintro ⟨rfl,rfl⟩
  exact trials

end trials

section turns
variable {taken texts : List Text} {text : Text}

theorem turnNext (taken : List Text) (text : Text) (rest : List Text) : freshNames taken (text :: rest) =
    (freshName taken text :: (freshNames (taken ++ [freshName taken text]) rest).1,
      (freshNames (taken ++ [freshName taken text]) rest).2) := rfl

theorem turnsTaken (taken texts : List Text) : (freshNames taken texts).2 = taken ++ (freshNames taken texts).1 := by
  induction texts generalizing taken with
  | nil => exact (List.append_nil taken).symm
  | cons text rest ih => simp [turnNext,ih]

theorem turnsLength (taken texts : List Text) : (freshNames taken texts).1.length = texts.length := by
  induction texts generalizing taken with
  | nil => rfl
  | cons text rest ih => simp [turnNext,ih]

theorem turnsAppend (taken before after : List Text) : freshNames taken (before ++ after) =
    ((freshNames taken before).1 ++ (freshNames (freshNames taken before).2 after).1,
      (freshNames (freshNames taken before).2 after).2) := by
  induction before generalizing taken with
  | nil => rfl
  | cons text rest ih => simp [turnNext,ih]

theorem turnsTake (taken texts : List Text) (n : Nat) :
    (freshNames taken (texts.take n)).1 = (freshNames taken texts).1.take n := by
  induction texts generalizing taken n with
  | nil => simp [freshNames]
  | cons text rest ih =>
    cases n with
    | zero => rfl
    | succ n => simp [turnNext,ih]

theorem turnsOutside : ∀ name ∈ (freshNames taken texts).1, name ∉ taken := by
  induction texts generalizing taken with
  | nil => nofun
  | cons text rest ih =>
    obtain ⟨_,_,fresh,_⟩ := freshCandidate taken text
    rw [turnNext]
    refine List.forall_mem_cons.mpr ⟨fresh,fun name member old => ?_⟩
    exact ih name member (List.mem_append_left _ old)

theorem turnsApart (taken texts : List Text) : (freshNames taken texts).1.Nodup := by
  induction texts generalizing taken with
  | nil => exact List.nodup_nil
  | cons text rest ih =>
    rw [turnNext]
    refine List.nodup_cons.mpr ⟨fun again => ?_,ih _⟩
    exact turnsOutside _ again (List.mem_append_right taken (List.mem_singleton_self _))

theorem turnsSpelled : ∀ name ∈ (freshNames taken texts).1, Spelled name := by
  induction texts generalizing taken with
  | nil => nofun
  | cons text rest ih => exact List.forall_mem_cons.mpr ⟨freshSpelled taken text,ih⟩

theorem turnTried {n : Nat} (found : texts[n]? = some text) : ∃ name, (freshNames taken texts).1[n]? = some name ∧
    ∃ count ≤ taken.length + n, ∀ tries result, Tried (taken ++ (freshNames taken texts).1.take n) (functionStem text)
      (functionStem text) 2 tries result ↔ tries = count ∧ result = name := by
  obtain ⟨within,rfl⟩ := List.getElem?_eq_some_iff.mp found
  have earlier : (freshNames taken (texts.take n)).2 = taken ++ (freshNames taken texts).1.take n := by
    rw [turnsTaken,turnsTake]
  have size : (freshNames taken (texts.take n)).1.length = n := by
    rw [turnsLength,List.length_take_of_le within.le]
  refine ⟨freshName (taken ++ (freshNames taken texts).1.take n) texts[n],?_,?_⟩
  · conv_lhs => rw [← List.take_append_drop n texts,turnsAppend,List.drop_eq_getElem_cons within,turnNext,earlier]
    rw [List.getElem?_append_right size.le,size,Nat.sub_self]
    rfl
  · obtain ⟨count,few,tried⟩ := freshTried (taken ++ (freshNames taken texts).1.take n) texts[n]
    rw [← turnsTake,List.length_append,size] at few
    exact ⟨count,few,tried⟩

/- The names that texts are given in turn. Every turn ends, with one name that is then taken as well;
no name is given twice or was taken before, and each can be called and is no test's. -/
structure Turns (taken texts names : List Text) : Prop where
  length : names.length = texts.length
  turn : ∀ n text, texts[n]? = some text → ∃ name, names[n]? = some name ∧ ∃ count ≤ taken.length + n, ∀ tries result,
    Tried (taken ++ names.take n) (functionStem text) (functionStem text) 2 tries result ↔ tries = count ∧ result = name
  added : ∀ n, freshNames taken (texts.take n) = (names.take n,taken ++ names.take n)
  outside : ∀ name ∈ names, name ∉ taken
  apart : names.Nodup
  spelled : ∀ name ∈ names, Spelled name

theorem textsNamed (taken texts : List Text) : ∃ names,
    freshNames taken texts = (names,taken ++ names) ∧ Turns taken texts names :=
  ⟨(freshNames taken texts).1,Prod.ext rfl (turnsTaken taken texts),{
    length := turnsLength taken texts
    turn := fun n text => turnTried
    added := fun n => Prod.ext (turnsTake taken texts n) (by rw [turnsTaken,turnsTake])
    outside := turnsOutside
    apart := turnsApart taken texts
    spelled := turnsSpelled }⟩

example : (freshNames ["page"] ["Page","page 2","page","test: page"]).1 =
    ["page_2","page_2_2","page_3","step_test_page"] := by decide

end turns

section modules
variable {m : Module} {c : Context} {a : Action}

structure Grown (m n : Module) (texts : List Text) : Prop where
  named : ∃ used, used.Sublist texts ∧ n.taken = (freshNames m.taken used).2

theorem grownSelf (m : Module) (text : Text) : Grown m m [text] := ⟨[],by simp,rfl⟩

theorem grownAdd {text : Text} {h : Handler} (function : h.function = freshName m.taken text) : Grown m (m.add h) [text] :=
  ⟨[text],.refl _,by rw [takenAdd,function]; rfl⟩

theorem grownThen {n k : Module} {first next : List Text} (before : Grown m n first) (after : Grown n k next) :
    Grown m k (first ++ next) := by
  obtain ⟨used,within,taken⟩ := before.named
  obtain ⟨more,inside,grown⟩ := after.named
  exact ⟨used ++ more,within.append inside,by rw [grown,taken,turnsAppend]⟩

theorem addActionGrown (m : Module) (c : Context) (a : Action) : Grown m (m.addAction c a).1 [a.names.phrase] := by
  unfold Module.addAction
  dsimp only
  split
  · exact grownAdd rfl
  · exact grownSelf m _

theorem addActionsGrown (m : Module) (c : Context) (actions : List Action) :
    Grown m (m.addActions c actions).1 (actions.map (·.names.phrase)) := by
  induction actions generalizing m c with
  | nil => exact ⟨[],.refl _,rfl⟩
  | cons a rest ih =>
    unfold Module.addActions
    split
    · exact grownThen (grownSelf m _) (ih m c)
    · exact grownThen (addActionGrown m c a) (ih _ _)

theorem addUsesGrown (m : Module) (c : Context) (named : List (Text × Action)) (uses : StepUses) :
    Grown m (m.addUses c named uses).1 (uses.map (·.1)) := by
  induction uses generalizing m c with
  | nil => exact ⟨[],.refl _,rfl⟩
  | cons use rest ih =>
    obtain ⟨text,types⟩ := use
    rcases addUsesStep m c named text types rest with ⟨_,d,same,_⟩ | ⟨d,h,same,function,_⟩
    · rw [same]
      exact grownThen (grownSelf m text) (ih m d)
    · rw [same]
      exact grownThen (grownAdd function) (ih (m.add h) d)

theorem startGrown (c : Context) (l : Layout) :
    Grown (Module.ofLayout l) (Module.start c l).1 [arrivalText l.className] :=
  grownAdd (by simp [arrivalText])

theorem grownFunctions {l : Layout} {texts : List Text} (grown : Grown (Module.ofLayout l) m texts) :
    ∃ used, used.Sublist texts ∧ m.handlers.map (·.function) = (freshNames [l.pageModule] used).1 := by
  obtain ⟨used,within,taken⟩ := grown.named
  rw [turnsTaken] at taken
  exact ⟨used,within,(List.cons.inj taken).2⟩

theorem functionsInTurn (c : Context) (actions : List Action) (r : Requirement) (l : Layout) :
    (∃ used, used.Sublist (arrivalText l.className :: (Action.inOrder actions).map (·.names.phrase) ++
        [Text.ofString "verify page updated"]) ∧
      (Module.ofActions c actions l).1.handlers.map (·.function) = (freshNames [l.pageModule] used).1) ∧
    ∃ used, used.Sublist (arrivalText l.className :: (usesOf r).map (·.1)) ∧
      (Module.ofRequirement c r actions l).1.handlers.map (·.function) = (freshNames [l.pageModule] used).1 := by
  constructor
  · exact grownFunctions (grownThen (grownThen (startGrown c l) (addActionsGrown _ _ _)) (grownAdd rfl))
  · exact grownFunctions (grownThen (startGrown c l) (addUsesGrown _ _ _ _))

end modules

end TestWeaver.Steps
