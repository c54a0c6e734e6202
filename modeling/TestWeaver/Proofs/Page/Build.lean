import TestWeaver.Page.Module
import TestWeaver.Proofs.Context.Gate
import TestWeaver.Proofs.Naming.Names

/-! What the page has after some actions in order: a constant for the first action on every
selector, a method for the first action of every method name, and a registry that agrees
with both. The actions have the names derived for them, and numbers that are distinct integers. -/
namespace TestWeaver

namespace Action

abbrev methodName (a : Action) : Text := a.names.method

abbrev constantName (a : Action) : Text := a.names.constant

def onElements (actions : List Action) : List Action := actions.filter fun a => !a.isNavigation

def Named (a : Action) : Prop := a.names = Naming.names a

theorem namedResolve (a : Action) : a.resolve.Named := rfl

theorem namedMethod {a : Action} (named : a.Named) : a.methodName = Naming.navigationMethod ↔ a.isNavigation := by
  unfold methodName Named at *
  rw [named]
  simp only [Naming.names]
  constructor
  · intro same
    by_cases nav : a.kind = .navigate
    · simp [isNavigation,nav]
    · exact absurd same (Naming.methodNotNavigation nav _ _)
  · intro nav
    have kind : a.kind = .navigate := by simpa [isNavigation] using nav
    rw [kind]
    rfl

theorem namedConstants {a b : Action} (left : a.Named) (right : b.Named) (first : a.id.IsInteger)
    (next : b.id.IsInteger) (other : a.id.isSame b.id = false) : a.constantName ≠ b.constantName := by
  unfold constantName Named at *
  rw [left,right]
  exact Naming.constantsDiffer first next other

theorem namedAlnum {a : Action} (named : a.Named) : Naming.Alnum a.names.readable := by
  rw [named]
  simp only [Naming.names,Naming.readableOf]
  split
  · decide
  · exact Naming.readableAlnum _

theorem namedFull {a : Action} (named : a.Named) : a.names.readable ≠ [] := by
  rw [named]
  simp only [Naming.names,Naming.readableOf]
  split
  · decide
  · exact Naming.readableFull _

theorem memOnElements {actions : List Action} {a : Action} :
    a ∈ onElements actions ↔ a ∈ actions ∧ a.isNavigation = false := by
  simp [onElements]

end Action

namespace Page
open TestWeaver.Action

def ownConstant (a : Action) : Constant := ⟨a.constantName,a.target⟩

def constantNamed (constants : List Constant) (selector : Text) : Text :=
  ((constants.find? fun k => k.selector == selector).map (·.name)).getD []

/- What a page and its context have when the constants of some actions and the methods of
some actions, all on elements but for navigations, have been looked at in order. -/
structure Built (bare : Module) (selected done : List Action) (m : Module) (c : Context) : Prop where
  constants : m.constants = (firstsBy target selected).map ownConstant
  selectors : c.seen .page .selector = (firstsBy target selected).map target
  names : c.seen .page .constant = (firstsBy target selected).map constantName
  registry : ∀ s, c.constants.lookup s = (m.constants.find? fun k => k.selector == s).map (·.name)
  within : ∀ a ∈ onElements done, a.target ∈ selected.map target
  methods : m.methods = bare.methods ++ (firstsBy methodName (onElements done)).map fun a =>
    methodOf a (constantNamed m.constants a.target)
  taken : c.seen .page .method = Naming.navigationMethod :: (firstsBy methodName (onElements done)).map methodName
  declared : c.declared = firstsBy methodName done
  owners : ∀ name, c.owners.lookup name = ((firstsBy methodName done).find? fun a => a.methodName == name).map (·.id)
  notes : ∀ n ∈ c.notes, ∃ value, n = .duplicate .page .selector value ∨ n = .duplicate .page .method value
  others : ∀ artifact part, artifact ≠ .page → c.seen artifact part = []
  head : { m with constants := [], methods := [] } = { bare with constants := [], methods := [] }

section steps
variable {bare : Module} {selected done : List Action} {m : Module} {c : Context} {a : Action}

theorem constantNamedAppend {constants : List Constant} {k : Constant} {s : Text}
    (known : s ∈ constants.map (·.selector)) : constantNamed (constants ++ [k]) s = constantNamed constants s := by
  obtain ⟨old,member,same⟩ := List.mem_map.mp known
  unfold constantNamed
  rw [List.find?_append]
  cases found : constants.find? (fun k => k.selector == s) with
  | none => exact absurd (List.find?_eq_none.mp found old member) (by simp [same])
  | some first => rfl

theorem selectorsOfConstants (built : Built bare selected done m c) :
    m.constants.map (·.selector) = (firstsBy target selected).map target := by
  rw [built.constants,List.map_map]
  rfl

theorem notedBuilt (built : Built bare selected done m c) {n : Note}
    (note : ∃ value, n = .duplicate .page .selector value ∨ n = .duplicate .page .method value) :
    Built bare selected done m { c with notes := c.notes ++ [n] } :=
  { built with
    notes := by
      intro old member
      rcases List.mem_append.mp member with before | last
      · exact built.notes old before
      · rwa [List.mem_singleton.mp last] }

theorem selectedAgain (built : Built bare selected done m c) (seen : a.target ∈ selected.map target) :
    Built bare (selected ++ [a]) done m c :=
  { built with
    constants := by rw [firstsSeen seen]; exact built.constants
    selectors := by rw [firstsSeen seen]; exact built.selectors
    names := by rw [firstsSeen seen]; exact built.names
    within := by
      intro b member
      rw [List.map_append]
      exact List.mem_append_left _ (built.within b member) }

theorem doneAgain (built : Built bare selected done m c) (seen : a.methodName ∈ done.map methodName)
    (same : firstsBy methodName (onElements (done ++ [a])) = firstsBy methodName (onElements done))
    (within : ∀ b ∈ onElements (done ++ [a]), b.target ∈ selected.map target) :
    Built bare selected (done ++ [a]) m c :=
  { built with
    within
    methods := by rw [same]; exact built.methods
    taken := by rw [same]; exact built.taken
    declared := by rw [firstsSeen seen]; exact built.declared
    owners := by rw [firstsSeen seen]; exact built.owners }

theorem addConstantSeen (built : Built bare selected done m c) (seen : a.target ∈ selected.map target) :
    m.addConstant c a = (m,{ c with notes := c.notes ++ [.duplicate .page .selector a.target] }) := by
  have refused : a.target ∈ c.seen .page .selector := by
    rw [built.selectors]
    exact keysOfFirsts.mpr seen
  simp [Module.addConstant,Context.emitSeen refused]

/- The second gate never refuses: the number in the name of a constant is its own. -/
theorem addConstantFresh (built : Built bare selected done m c) (new : a.target ∉ selected.map target)
    (fresh : ∀ b ∈ selected, b.constantName ≠ a.constantName) :
    m.addConstant c a = ({ m with constants := m.constants ++ [ownConstant a] },
      { c with
        accepted := c.accepted ++ [(.page,.selector,a.target),(.page,.constant,a.constantName)]
        constants := (a.target,a.constantName) :: c.constants }) := by
  have selector : a.target ∉ c.seen .page .selector := by
    rw [built.selectors]
    exact fun seen => new (keysOfFirsts.mp seen)
  have name : a.constantName ∉
      Context.seen { c with accepted := c.accepted ++ [(.page,.selector,a.target)] } .page .constant := by
    rw [Context.seenGrown rfl,built.names]
    intro member
    obtain ⟨b,inside,same⟩ : ∃ b ∈ firstsBy target selected, b.constantName = a.constantName := by
      simpa [Context.seen] using member
    exact fresh b ((firstsSublist _ _).subset inside) same
  simp [Module.addConstant,Context.emitFresh selector,Context.emitFresh name,Context.declareConstant,ownConstant]

theorem constantBuilt (built : Built bare selected done m c) (new : a.target ∉ selected.map target) :
    Built bare (selected ++ [a]) done { m with constants := m.constants ++ [ownConstant a] }
      { c with
        accepted := c.accepted ++ [(.page,.selector,a.target),(.page,.constant,a.constantName)]
        constants := (a.target,a.constantName) :: c.constants } := by
  have known : ∀ b ∈ firstsBy methodName (onElements done), b.target ∈ m.constants.map (·.selector) := by
    intro b member
    rw [selectorsOfConstants built]
    exact keysOfFirsts.mpr (built.within b ((firstsSublist _ _).subset member))
  have grown := fun artifact part => Context.seenGrown (c := c)
    (d := { c with
      accepted := c.accepted ++ [(.page,.selector,a.target),(.page,.constant,a.constantName)]
      constants := (a.target,a.constantName) :: c.constants }) rfl artifact part
  exact { built with
    within := by
      intro b member
      rw [List.map_append]
      exact List.mem_append_left _ (built.within b member)
    constants := by rw [firstsFresh new,List.map_append,built.constants]; rfl
    selectors := by rw [firstsFresh new,List.map_append,grown,built.selectors]; rfl
    names := by rw [firstsFresh new,List.map_append,grown,built.names]; rfl
    registry := by
      refine lookupGrown (a := ownConstant a) built.registry ?_
      rw [selectorsOfConstants built]
      exact fun known => new (keysOfFirsts.mp known)
    methods := by
      rw [built.methods]
      congr 1
      apply List.map_congr_left
      intro b member
      rw [constantNamedAppend (known b member)]
    taken := by rw [grown,built.taken]; simp [Context.seen]
    others := by
      intro artifact part other
      rw [grown,built.others artifact part other]
      simp [Context.seen,other.symm] }

theorem addConstantBuilt (built : Built bare selected done m c)
    (fresh : ∀ b ∈ selected, b.constantName ≠ a.constantName) :
    Built bare (selected ++ [a]) done (m.addConstant c a).1 (m.addConstant c a).2 := by
  by_cases seen : a.target ∈ selected.map target
  · rw [addConstantSeen built seen]
    exact notedBuilt (selectedAgain built seen) ⟨a.target,.inl rfl⟩
  · rw [addConstantFresh built seen fresh]
    exact constantBuilt built seen

theorem constantRegistered (built : Built bare selected done m c) (known : a.target ∈ selected.map target) :
    c.constantFor? (some a.target) = some (constantNamed m.constants a.target) := by
  have inside : a.target ∈ m.constants.map (·.selector) := by
    rw [selectorsOfConstants built]
    exact keysOfFirsts.mpr known
  obtain ⟨k,member,same⟩ := List.mem_map.mp inside
  rw [Context.constantFor?,Option.bind_some,built.registry,constantNamed]
  cases found : m.constants.find? (fun k => k.selector == a.target) with
  | none => exact absurd (List.find?_eq_none.mp found k member) (by simp [same])
  | some first => rfl

theorem declareFresh {d : Context} (declared : d.declared = firstsBy methodName done)
    (others : ∀ b ∈ done, b.id.isSame a.id = false) :
    d.declare a = { d with
      declared := d.declared ++ [a]
      owners := (a.methodName,a.id) :: d.owners } := by
  have kept : d.declared.filter (fun b => !b.id.isSame a.id) = d.declared := by
    rw [List.filter_eq_self,declared]
    intro b member
    simp [others b ((firstsSublist _ _).subset member)]
  simp only [Context.declare,kept]

theorem ownersGrown (built : Built bare selected done m c) (fresh : a.methodName ∉ done.map methodName)
    (name : Text) : List.lookup name ((a.methodName,a.id) :: c.owners) =
      ((firstsBy methodName (done ++ [a])).find? fun b => b.methodName == name).map (·.id) := by
  rw [firstsFresh fresh]
  have agree : ∀ k, c.owners.lookup k =
      ((firstsBy methodName done).find? fun b => b.methodName == k).map fun b => b.id := built.owners
  exact lookupGrown agree (fun seen => fresh (keysOfFirsts.mp seen)) name

theorem elementAppend (element : a.isNavigation = false) : onElements (done ++ [a]) = onElements done ++ [a] := by
  simp [onElements,List.filter_append,element]

theorem elementWithin (built : Built bare selected done m c) (element : a.isNavigation = false)
    (known : a.target ∈ selected.map target) : ∀ b ∈ onElements (done ++ [a]), b.target ∈ selected.map target := by
  intro b member
  rw [elementAppend element,List.mem_append,List.mem_singleton] at member
  rcases member with old | rfl
  · exact built.within b old
  · exact known

theorem elementMethodSeen (named : ∀ b ∈ done, b.Named) (here : a.Named) (element : a.isNavigation = false) :
    a.methodName ∈ done.map methodName ↔ a.methodName ∈ (onElements done).map methodName := by
  constructor
  · intro seen
    obtain ⟨b,member,same⟩ := List.mem_map.mp seen
    refine List.mem_map.mpr ⟨b,memOnElements.mpr ⟨member,?_⟩,same⟩
    rw [Bool.eq_false_iff]
    intro nav
    rw [(namedMethod (named b member)).mpr nav] at same
    rw [(namedMethod here).mp same.symm] at element
    contradiction
  · intro seen
    obtain ⟨b,member,same⟩ := List.mem_map.mp seen
    exact List.mem_map.mpr ⟨b,(memOnElements.mp member).1,same⟩

theorem methodBuilt (built : Built bare selected done m c) (element : a.isNavigation = false)
    (known : a.target ∈ selected.map target) (new : a.methodName ∉ done.map methodName) :
    Built bare selected (done ++ [a])
      { m with methods := m.methods ++ [methodOf a (constantNamed m.constants a.target)] }
      { c with
        accepted := c.accepted ++ [(.page,.method,a.methodName)]
        declared := c.declared ++ [a]
        owners := (a.methodName,a.id) :: c.owners } := by
  have fresh : a.methodName ∉ (onElements done).map methodName := by
    intro seen
    obtain ⟨b,member,same⟩ := List.mem_map.mp seen
    exact new (List.mem_map.mpr ⟨b,(memOnElements.mp member).1,same⟩)
  have grown := fun artifact part => Context.seenGrown (c := c)
    (d := { c with
      accepted := c.accepted ++ [(.page,.method,a.methodName)]
      declared := c.declared ++ [a]
      owners := (a.methodName,a.id) :: c.owners }) rfl artifact part
  exact { built with
    within := elementWithin built element known
    methods := by
      rw [elementAppend element,firstsFresh fresh,List.map_append,← List.append_assoc,built.methods]
      rfl
    taken := by rw [elementAppend element,firstsFresh fresh,List.map_append,grown,built.taken]; rfl
    declared := by rw [firstsFresh new,built.declared]
    owners := ownersGrown built new
    selectors := by rw [grown,built.selectors]; simp [Context.seen]
    names := by rw [grown,built.names]; simp [Context.seen]
    others := by
      intro artifact part other
      rw [grown,built.others artifact part other]
      simp [Context.seen,other.symm] }

theorem addMethodBuilt (built : Built bare selected done m c) (named : ∀ b ∈ done, b.Named) (here : a.Named)
    (element : a.isNavigation = false) (known : a.target ∈ selected.map target)
    (others : ∀ b ∈ done, b.id.isSame a.id = false) :
    Built bare selected (done ++ [a]) (m.addMethod c a).1 (m.addMethod c a).2 := by
  have own : a.methodName ≠ Naming.navigationMethod := by
    intro same
    rw [(namedMethod here).mp same] at element
    contradiction
  have gate : a.methodName ∈ c.seen .page .method ↔ a.methodName ∈ done.map methodName := by
    rw [built.taken,elementMethodSeen named here element,List.mem_cons,keysOfFirsts]
    simp [own]
  unfold Module.addMethod
  rw [constantRegistered built known]
  by_cases seen : a.methodName ∈ done.map methodName
  · have again := (elementMethodSeen named here element).mp seen
    have same : firstsBy methodName (onElements (done ++ [a])) = firstsBy methodName (onElements done) := by
      rw [elementAppend element,firstsSeen again]
    simp only [Context.emitSeen (gate.mpr seen)]
    exact notedBuilt (doneAgain built seen same (elementWithin built element known)) ⟨a.methodName,.inr rfl⟩
  · have fresh := Context.emitFresh fun taken => seen (gate.mp taken)
    have declared := fun accepted => declareFresh (d := { c with accepted }) built.declared others
    simp only [fresh,if_true,declared]
    exact methodBuilt built element known seen

theorem addElementBuilt (built : Built bare (onElements done) done m c) (named : ∀ b ∈ done, b.Named)
    (here : a.Named) (element : a.isNavigation = false) (numbered : Numbered (done ++ [a])) :
    Built bare (onElements (done ++ [a])) (done ++ [a]) (m.addElement c a).1 (m.addElement c a).2 := by
  have others : ∀ b ∈ done, b.id.isSame a.id = false := by
    intro b member
    exact (List.pairwise_append.mp numbered.distinct).2.2 b member a List.mem_cons_self
  have constant : ∀ b ∈ onElements done, b.constantName ≠ a.constantName := by
    intro b member
    have inside := (memOnElements.mp member).1
    exact namedConstants (named b inside) here (numbered.integers b (by simp [inside]))
      (numbered.integers a (by simp)) (others b inside)
  rw [elementAppend element]
  exact addMethodBuilt (addConstantBuilt built constant) named here element (by simp) others

theorem navigationElements (nav : a.isNavigation) : onElements (done ++ [a]) = onElements done := by
  simp [onElements,List.filter_append,nav]

theorem navigationBuilt (built : Built bare selected done m c) (named : ∀ b ∈ done, b.Named) (here : a.Named)
    (nav : a.isNavigation) (first : ∀ b ∈ done, b.isNavigation = false)
    (others : ∀ b ∈ done, b.id.isSame a.id = false) :
    Built bare selected (done ++ [a]) m (c.declare a) := by
  have fresh : a.methodName ∉ done.map methodName := by
    intro seen
    obtain ⟨b,member,same⟩ := List.mem_map.mp seen
    rw [(namedMethod here).mpr nav] at same
    have before := (namedMethod (named b member)).mp same
    rw [first b member] at before
    contradiction
  rw [declareFresh built.declared others]
  exact { built with
    within := by rw [navigationElements nav]; exact built.within
    methods := by rw [navigationElements nav]; exact built.methods
    taken := by rw [navigationElements nav]; exact built.taken
    declared := by rw [firstsFresh fresh,built.declared]
    owners := ownersGrown built fresh }

theorem navigationAgain (built : Built bare selected done m c) (named : ∀ b ∈ done, b.Named) (here : a.Named)
    (nav : a.isNavigation) (later : ∃ b ∈ done, b.isNavigation) :
    Built bare selected (done ++ [a]) m (c.emit .page .method Naming.navigationMethod).2 := by
  have seen : a.methodName ∈ done.map methodName := by
    obtain ⟨b,member,before⟩ := later
    refine List.mem_map.mpr ⟨b,member,?_⟩
    rw [(namedMethod here).mpr nav,(namedMethod (named b member)).mpr before]
  have taken : Naming.navigationMethod ∈ c.seen .page .method := by simp [built.taken]
  have same : firstsBy methodName (onElements (done ++ [a])) = firstsBy methodName (onElements done) := by
    rw [navigationElements nav]
  have within : ∀ b ∈ onElements (done ++ [a]), b.target ∈ selected.map target := by
    rw [navigationElements nav]
    exact built.within
  rw [Context.emitSeen taken]
  exact notedBuilt (doneAgain built seen same within) ⟨_,.inr rfl⟩

theorem addActionsBuilt {rest : List Action} (built : Built bare (onElements done) done m c)
    (named : ∀ b ∈ done ++ rest, b.Named) (numbered : Numbered (done ++ rest)) :
    Built bare (onElements (done ++ rest)) (done ++ rest)
      (m.addActions c (done.any isNavigation) rest).1 (m.addActions c (done.any isNavigation) rest).2 := by
  -- the actions done carry the induction: what the page and the gates have is theirs
  induction rest generalizing done m c with
  | nil =>
    rw [List.append_nil]
    exact built
  | cons a rest ih =>
    have split : done ++ a :: rest = (done ++ [a]) ++ rest := by simp
    rw [split] at named numbered ⊢
    have before : ∀ b ∈ done, b.Named := fun b member => named b (by simp [member])
    have here : a.Named := named a (by simp)
    have upto : Numbered (done ++ [a]) :=
      ⟨fun b member => numbered.integers b (List.mem_append_left _ member),
        (List.pairwise_append.mp numbered.distinct).1⟩
    have others : ∀ b ∈ done, b.id.isSame a.id = false := by
      intro b member
      exact (List.pairwise_append.mp upto.distinct).2.2 b member a List.mem_cons_self
    cases nav : a.isNavigation with
    | false =>
      have step := ih (addElementBuilt built before here nav upto) named numbered
      simpa [Module.addActions,nav,List.any_append] using step
    | true =>
      cases gone : done.any isNavigation with
      | false =>
        have first : ∀ b ∈ done, b.isNavigation = false := by simpa using gone
        have next := navigationBuilt built before here nav first others
        rw [← navigationElements nav] at next
        have step := ih next named numbered
        simpa [Module.addActions,nav,gone,List.any_append] using step
      | true =>
        have next := navigationAgain built before here nav (List.any_eq_true.mp gone)
        rw [← navigationElements nav] at next
        have step := ih next named numbered
        simpa [Module.addActions,nav,gone,List.any_append] using step

end steps

def blank (className : Text) (storyKey : Value) (path : Text) : Module :=
  { className, storyKey, path
    methods := [{ name := Naming.navigationMethod, kind := .navigate, readable := className }] }

theorem builtOfActions {actions : List Action} (named : ∀ a ∈ actions, a.Named) (numbered : Numbered actions)
    (className : Text) (storyKey : Value) (path : Text) :
    Built (blank className storyKey path) (onElements (inOrder actions)) (inOrder actions)
      (Module.ofActions {} actions className storyKey path).1
      (Module.ofActions {} actions className storyKey path).2 := by
  have start : Built (blank className storyKey path) (onElements []) [] (blank className storyKey path)
      (Context.emit {} .page .method Naming.navigationMethod).2 := by
    rw [Context.emitFresh (by simp [Context.seen])]
    exact {
      constants := rfl
      selectors := rfl
      names := rfl
      registry := fun s => rfl
      within := by simp [onElements]
      methods := rfl
      taken := rfl
      declared := rfl
      owners := fun name => rfl
      notes := by simp
      others := by
        intro artifact part other
        simp [Context.seen,other.symm]
      head := rfl }
  have listed : ∀ a ∈ [] ++ inOrder actions, a.Named := fun a member => named a (memInOrder.mp member)
  exact addActionsBuilt start listed (numberedPerm (inOrderPerm actions).symm numbered)

end Page
end TestWeaver
