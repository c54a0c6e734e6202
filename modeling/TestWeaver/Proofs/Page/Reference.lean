import TestWeaver.Proofs.Page.Build
import TestWeaver.Recording.Transcript

/-! The page builder against a page that is written down without gates or registry: for
every selector and every method name the action with the smallest number, in the order of
numbers. Actions may come in any order, but they have their derived names, and their
numbers are distinct integers. -/
namespace TestWeaver.Page
open TestWeaver.Action

def isLowest (key : Action → Text) (actions : List Action) (a : Action) : Bool :=
  actions.all fun b => key b != key a || a.id.le b.id

def lowest (key : Action → Text) (actions : List Action) : List Action :=
  (inOrder actions).filter (isLowest key actions)

def reference (actions : List Action) (className : Text) (storyKey : Value) (path : Text) : Module :=
  let constants : List Constant := (lowest target (onElements actions)).map fun a => ⟨a.constantName,a.target⟩
  let entry : Method := { name := Naming.navigationMethod, kind := .navigate, readable := className }
  { className, storyKey, path, constants
    methods := entry :: (lowest methodName (onElements actions)).map fun a =>
      methodOf a (constantNamed constants a.target) }

/- What the page and the context are after a build, besides the page being the reference. -/
structure Consistent (actions : List Action) (page : Module) (c : Context) : Prop where
  constantNames : (page.constants.map (·.name)).Nodup
  selectors : (page.constants.map (·.selector)).Nodup
  methodNames : (page.methods.map (·.name)).Nodup
  operands : ∀ a ∈ lowest methodName (onElements actions), ∃ k ∈ page.constants,
    k.selector = a.target ∧ methodOf a k.name ∈ page.methods
  namesAccepted : ∀ name, .duplicate .page .constant name ∉ c.notes
  noneSkipped : ∀ selector method, .methodSkipped selector method ∉ c.notes
  isDeclared : ∀ a ∈ actions, c.isDeclared a ↔
    (a.isNavigation ∧ ∀ b ∈ actions, b.isNavigation → a.id.le b.id) ∨
    (a.isNavigation = false ∧ ∃ m ∈ page.methods, m.name = a.methodName ∧ c.owner? m.name = some a.id)
  noOther : ∀ a, c.isDeclared a → ∃ b ∈ actions, b.id.isSame a.id

section lowest
variable {key : Action → Text} {actions xs : List Action} {a : Action}

theorem lowestIff : isLowest key actions a ↔ ∀ b ∈ actions, key b = key a → a.id.le b.id := by
  simp only [isLowest,List.all_eq_true,Bool.or_eq_true,bne_iff_ne]
  exact forall₂_congr fun b _ => Decidable.imp_iff_not_or.symm

theorem lowestPerm {ys : List Action} (perm : xs.Perm ys) : isLowest key xs = isLowest key ys := by
  funext a
  rw [Bool.eq_iff_iff,lowestIff,lowestIff]
  exact forall_congr' fun b => by rw [perm.mem_iff]

theorem firstsAreLowest (sorted : xs.Pairwise Before) : firstsBy key xs = xs.filter (isLowest key xs) := by
  -- from the end: an action that comes later has a larger number, so it is the lowest only for a new key
  induction xs using List.reverseRecOn with
  | nil => rfl
  | append_singleton xs a ih =>
    obtain ⟨before,_,behind⟩ := List.pairwise_append.mp sorted
    have old : xs.filter (isLowest key (xs ++ [a])) = xs.filter (isLowest key xs) := by
      apply List.filter_congr
      intro b member
      rw [Bool.eq_iff_iff,lowestIff,lowestIff]
      refine ⟨fun low d inside => low d (List.mem_append_left _ inside),fun low d inside same => ?_⟩
      rcases List.mem_append.mp inside with earlier | last
      · exact low d earlier same
      · rw [List.mem_singleton.mp last]
        exact (behind b member a List.mem_cons_self).1
    rw [List.filter_append,old,← ih before]
    by_cases seen : key a ∈ xs.map key
    · have high : isLowest key (xs ++ [a]) a = false := by
        obtain ⟨b,member,same⟩ := List.mem_map.mp seen
        rw [Bool.eq_false_iff]
        intro low
        have back := lowestIff.mp low b (List.mem_append_left _ member) same
        rw [(behind b member a List.mem_cons_self).2] at back
        contradiction
      rw [firstsSeen seen]
      simp [high]
    · have low : isLowest key (xs ++ [a]) a := by
        rw [lowestIff]
        intro b member same
        rcases List.mem_append.mp member with earlier | last
        · exact absurd (List.mem_map.mpr ⟨b,earlier,same⟩) seen
        · rw [List.mem_singleton.mp last]
          simpa using Ordinal.leTotal a.id a.id
      rw [firstsFresh seen]
      simp [low]

theorem lowestFirsts (numbered : Numbered actions) : lowest key actions = firstsBy key (inOrder actions) := by
  rw [firstsAreLowest (inOrderBefore numbered),lowest,lowestPerm (inOrderPerm actions).symm]

theorem memLowest : a ∈ lowest key actions ↔ a ∈ actions ∧ ∀ b ∈ actions, key b = key a → a.id.le b.id := by
  rw [lowest,List.mem_filter,memInOrder,lowestIff]

theorem numberedElements (numbered : Numbered actions) : Numbered (onElements actions) :=
  ⟨fun a member => numbered.integers a (memOnElements.mp member).1,numbered.distinct.sublist List.filter_sublist⟩

theorem inOrderElements (numbered : Numbered actions) :
    inOrder (onElements actions) = onElements (inOrder actions) := by
  have elements := numberedElements numbered
  refine List.Perm.eq_of_pairwise ?_ (inOrderBefore elements) ((inOrderBefore numbered).sublist List.filter_sublist)
    ((inOrderPerm _).trans ((inOrderPerm actions).symm.filter _))
  intro a b _ _ first next
  exact absurd (first.1.symm.trans next.2) (by simp)

end lowest

theorem numberedResolve {actions : List Action} (numbered : Numbered actions) : Numbered (actions.map resolve) where
  integers := by
    intro a member
    obtain ⟨b,inside,rfl⟩ := List.mem_map.mp member
    exact numbered.integers b inside
  distinct := List.pairwise_map.mpr numbered.distinct

theorem namedAll {actions : List Action} : ∀ a ∈ actions.map resolve, a.Named := by
  intro a member
  obtain ⟨b,_,rfl⟩ := List.mem_map.mp member
  exact namedResolve b

section reference
variable {actions : List Action} {className : Text} {storyKey : Value} {path : Text}

theorem constantNamesNodup (named : ∀ a ∈ actions, a.Named) (numbered : Numbered actions) :
    ((reference actions className storyKey path).constants.map (·.name)).Nodup := by
  have lows := (numberedPerm (inOrderPerm _).symm (numberedElements numbered)).distinct.sublist
    (List.filter_sublist (p := isLowest target (onElements actions)))
  simp only [reference,List.map_map]
  refine List.pairwise_map.mpr (lows.imp_of_mem ?_)
  intro a b left right other
  have first := (memOnElements.mp (memLowest.mp left).1).1
  have next := (memOnElements.mp (memLowest.mp right).1).1
  exact namedConstants (named a first) (named b next) (numbered.integers a first) (numbered.integers b next) other

theorem selectorsNodup (numbered : Numbered actions) :
    ((reference actions className storyKey path).constants.map (·.selector)).Nodup := by
  simp only [reference,List.map_map,lowestFirsts (numberedElements numbered)]
  exact firstsNodup target _

theorem methodNamesOf : (reference actions className storyKey path).methods.map (·.name) =
    Naming.navigationMethod :: (lowest methodName (onElements actions)).map methodName := by
  simp only [reference,List.map_cons,List.map_map]
  rfl

theorem methodNamesNodup (named : ∀ a ∈ actions, a.Named) (numbered : Numbered actions) :
    ((reference actions className storyKey path).methods.map (·.name)).Nodup := by
  rw [methodNamesOf,List.nodup_cons]
  constructor
  · intro member
    obtain ⟨a,inside,same⟩ := List.mem_map.mp member
    obtain ⟨known,element⟩ := memOnElements.mp (memLowest.mp inside).1
    rw [(namedMethod (named a known)).mp same] at element
    contradiction
  · rw [lowestFirsts (numberedElements numbered)]
    exact firstsNodup methodName _

variable (className storyKey path)

theorem referenceOperand (numbered : Numbered actions) {a : Action} (element : a ∈ onElements actions) :
    ∃ k ∈ (reference actions className storyKey path).constants, k.selector = a.target ∧
      k.name = constantNamed (reference actions className storyKey path).constants a.target := by
  have known : a.target ∈ (reference actions className storyKey path).constants.map (·.selector) := by
    simp only [reference,List.map_map,lowestFirsts (numberedElements numbered)]
    exact keysOfFirsts.mpr (List.mem_map_of_mem (memInOrder.mpr element))
  obtain ⟨old,member,same⟩ := List.mem_map.mp known
  unfold constantNamed
  cases found : (reference actions className storyKey path).constants.find? (fun k => k.selector == a.target) with
  | none => exact absurd (List.find?_eq_none.mp found old member) (by simp [same])
  | some k => exact ⟨k,List.mem_of_find?_eq_some found,by simpa using List.find?_some found,rfl⟩

theorem referenceMethod (numbered : Numbered actions) {a : Action} (element : a ∈ onElements actions) :
    ∃ m ∈ (reference actions className storyKey path).methods, m.name = a.methodName := by
  have known : a.methodName ∈ (reference actions className storyKey path).methods.map (·.name) := by
    rw [methodNamesOf,lowestFirsts (numberedElements numbered)]
    exact List.mem_cons_of_mem _ (keysOfFirsts.mpr (List.mem_map_of_mem (memInOrder.mpr element)))
  exact List.mem_map.mp known

end reference

section made
variable {actions : List Action} {className : Text} {storyKey : Value} {path : Text} {page : Module} {c : Context}

theorem madeReference (named : ∀ a ∈ actions, a.Named) (numbered : Numbered actions)
    (made : Module.ofActions {} actions className storyKey path = (page,c)) :
    page = reference actions className storyKey path := by
  have built := builtOfActions named numbered className storyKey path
  rw [made] at built
  have elements := numberedElements numbered
  have constants := built.constants
  have methods := built.methods
  have head := built.head
  rw [constants] at methods
  rw [← inOrderElements numbered,← lowestFirsts elements] at constants methods
  rw [← lowestFirsts elements] at methods
  cases page
  simp only [blank,Module.mk.injEq] at head
  obtain ⟨rfl,rfl,rfl,-,-⟩ := head
  simp only at constants methods
  rw [constants,methods]
  rfl

theorem declaredLowest (named : ∀ a ∈ actions, a.Named) (numbered : Numbered actions)
    (made : Module.ofActions {} actions className storyKey path = (page,c)) :
    c.declared = lowest methodName actions := by
  have built := builtOfActions named numbered className storyKey path
  rw [made] at built
  rw [built.declared,lowestFirsts numbered]

theorem isDeclaredLowest (named : ∀ a ∈ actions, a.Named) (numbered : Numbered actions)
    (made : Module.ofActions {} actions className storyKey path = (page,c)) {a : Action} (member : a ∈ actions) :
    c.isDeclared a ↔ a ∈ lowest methodName actions := by
  unfold Context.isDeclared
  rw [declaredLowest named numbered made,List.any_eq_true]
  constructor
  · rintro ⟨b,low,same⟩
    rwa [← numberedSame numbered (memLowest.mp low).1 member same]
  · intro low
    exact ⟨a,low,Ordinal.isSameSelf a.id⟩

theorem ownerLowest (named : ∀ a ∈ actions, a.Named) (numbered : Numbered actions)
    (made : Module.ofActions {} actions className storyKey path = (page,c)) {a : Action} (member : a ∈ actions) :
    c.owner? a.methodName = some a.id ↔ a ∈ lowest methodName actions := by
  have owners := (builtOfActions named numbered className storyKey path).owners a.methodName
  rw [made,← lowestFirsts numbered] at owners
  rw [Context.owner?,owners,Option.map_eq_some_iff]
  constructor
  · rintro ⟨b,found,same⟩
    have low := List.mem_of_find?_eq_some found
    rwa [← numberedSame numbered (memLowest.mp low).1 member (same ▸ Ordinal.isSameSelf b.id)]
  · intro low
    cases found : (lowest methodName actions).find? (fun b => b.methodName == a.methodName) with
    | none => exact absurd (List.find?_eq_none.mp found a low) (by simp)
    | some b =>
      have first := List.mem_of_find?_eq_some found
      have names : b.methodName = a.methodName := by simpa using List.find?_some found
      have left := (memLowest.mp first).2 a member names.symm
      have right := (memLowest.mp low).2 b (memLowest.mp first).1 names
      refine ⟨b,rfl,?_⟩
      cases other : b.id.isSame a.id with
      | true => rw [numberedSame numbered (memLowest.mp first).1 member other]
      | false =>
        rw [Ordinal.notLeBack left other] at right
        contradiction

theorem declaredIff (named : ∀ a ∈ actions, a.Named) (numbered : Numbered actions)
    (made : Module.ofActions {} actions className storyKey path = (page,c)) {a : Action} (member : a ∈ actions) :
    c.isDeclared a ↔ (a.isNavigation ∧ ∀ b ∈ actions, b.isNavigation → a.id.le b.id) ∨
      (a.isNavigation = false ∧ ∃ m ∈ page.methods, m.name = a.methodName ∧ c.owner? m.name = some a.id) := by
  rw [isDeclaredLowest named numbered made member]
  cases nav : a.isNavigation with
  | true =>
    have alike : ∀ b ∈ actions, b.methodName = a.methodName ↔ b.isNavigation := by
      intro b inside
      rw [(namedMethod (named a member)).mpr nav]
      exact namedMethod (named b inside)
    simp only [memLowest,member,true_and,Bool.true_eq_false,false_and,or_false]
    exact forall₂_congr fun b inside => by rw [alike b inside]
  | false =>
    rw [← ownerLowest named numbered made member]
    obtain ⟨m,inside,name⟩ := referenceMethod className storyKey path numbered (memOnElements.mpr ⟨member,nav⟩)
    constructor
    · intro owned
      exact .inr ⟨rfl,m,madeReference named numbered made ▸ inside,name,name ▸ owned⟩
    · rintro (⟨wrong,_⟩ | ⟨_,m,_,name,owned⟩)
      · contradiction
      · rwa [name] at owned

theorem madeConsistent (named : ∀ a ∈ actions, a.Named) (numbered : Numbered actions)
    (made : Module.ofActions {} actions className storyKey path = (page,c)) : Consistent actions page c := by
  have built := builtOfActions named numbered className storyKey path
  rw [made] at built
  have exactly := madeReference named numbered made
  exact {
    constantNames := by rw [exactly]; exact constantNamesNodup named numbered
    selectors := by rw [exactly]; exact selectorsNodup numbered
    methodNames := by rw [exactly]; exact methodNamesNodup named numbered
    operands := by
      intro a low
      obtain ⟨k,member,selector,name⟩ := referenceOperand className storyKey path numbered (memLowest.mp low).1
      rw [exactly]
      refine ⟨k,member,selector,?_⟩
      rw [name]
      exact List.mem_cons_of_mem _ (List.mem_map_of_mem low)
    namesAccepted := by
      intro name refused
      obtain ⟨value,same | same⟩ := built.notes _ refused
      · cases same
      · cases same
    noneSkipped := by
      intro selector method skipped
      obtain ⟨value,same | same⟩ := built.notes _ skipped
      · cases same
      · cases same
    isDeclared := fun a member => declaredIff named numbered made member
    noOther := by
      intro a declared
      rw [Context.isDeclared,declaredLowest named numbered made] at declared
      obtain ⟨b,low,same⟩ := List.any_eq_true.mp declared
      exact ⟨b,(memLowest.mp low).1,same⟩ }

theorem shownLowest (named : ∀ a ∈ actions, a.Named) (numbered : Numbered actions)
    (made : Module.ofActions {} actions className storyKey path = (page,c)) :
    c.shown (inOrder actions) = lowest methodName (onElements actions) := by
  have onlyElements : ∀ a ∈ actions, a.isNavigation = false →
      (a ∈ lowest methodName actions ↔ a ∈ lowest methodName (onElements actions)) := by
    intro a member element
    rw [memLowest,memLowest,memOnElements]
    constructor
    · rintro ⟨_,low⟩
      exact ⟨⟨member,element⟩,fun b inside => low b (memOnElements.mp inside).1⟩
    · rintro ⟨_,low⟩
      refine ⟨member,fun b inside same => low b (memOnElements.mpr ⟨inside,?_⟩) same⟩
      rw [Bool.eq_false_iff]
      intro nav
      rw [(namedMethod (named b inside)).mpr nav] at same
      rw [(namedMethod (named a member)).mp same.symm] at element
      contradiction
  have elements : onElements (inOrder actions) = (inOrder actions).filter fun a => !a.isNavigation := rfl
  rw [lowest,inOrderElements numbered,Context.shown,elements,List.filter_filter]
  apply List.filter_congr
  intro a inside
  have member := memInOrder.mp inside
  cases element : a.isNavigation with
  | true => simp
  | false =>
    have declared := (isDeclaredLowest named numbered made member).trans (onlyElements a member element)
    rw [Bool.eq_iff_iff]
    simpa [lowest,memInOrder,memOnElements,member,element] using declared

end made

def addressOf (actions : List Action) : Value → Value
  | .null => firstAddress (inOrder actions)
  | address => address

theorem buildOnPath (c : Context) (actions : List Action) (baseUrl : Value) (className : Text)
    (storyKey pageUrl : Value) : Module.build c actions baseUrl className storyKey pageUrl =
      (pathFor (addressOf actions pageUrl) baseUrl).map (Module.ofActions c actions className storyKey) := by
  unfold Module.build addressOf
  cases pageUrl <;> rfl

theorem buildIsReference (actions : List Action) (numbered : Numbered actions) (baseUrl : Value)
    (className : Text) (storyKey pageUrl : Value) :
    (Module.build {} (actions.map resolve) baseUrl className storyKey pageUrl).map Prod.fst =
      (pathFor (addressOf (actions.map resolve) pageUrl) baseUrl).map
        (reference (actions.map resolve) className storyKey) ∧
    ∀ page c, Module.build {} (actions.map resolve) baseUrl className storyKey pageUrl = .ok (page,c) →
      Consistent (actions.map resolve) page c := by
  have known := numberedResolve numbered
  rw [buildOnPath]
  constructor
  · cases pathFor (addressOf (actions.map resolve) pageUrl) baseUrl with
    | error failure => rfl
    | ok path =>
      have exactly : (Module.ofActions {} (actions.map resolve) className storyKey path).1 =
        reference (actions.map resolve) className storyKey path := madeReference namedAll known rfl
      exact congrArg Except.ok exactly
  · intro page c result
    cases found : pathFor (addressOf (actions.map resolve) pageUrl) baseUrl with
    | error failure => simp [found,Except.map] at result
    | ok path =>
      rw [found] at result
      exact madeConsistent namedAll known (Except.ok.inj result)

def shuffledSession : List Action := [
  .ofCall 3 (.act .press "#user_2" (some "Tab") (by decide)),
  .ofCall 1 (.act .fill "#user_2" (some "ann") (by decide)),
  .ofCall 0 (.navigate "/login"),
  .ofCall 2 (.act .fill "#user-2" (some "bob") (by decide))]

theorem shuffledSessionBuilt : Numbered shuffledSession ∧
    (Module.build {} (shuffledSession.map resolve) (.text []) "Login" (.text "K-1") .null).map Prod.fst =
      (pathFor (addressOf (shuffledSession.map resolve) .null) (.text [])).map
        (reference (shuffledSession.map resolve) "Login" (.text "K-1")) ∧
    ∀ page c, Module.build {} (shuffledSession.map resolve) (.text []) "Login" (.text "K-1") .null = .ok (page,c) →
      Consistent (shuffledSession.map resolve) page c := by
  have numbered : Numbered shuffledSession := ⟨by decide,by decide⟩
  exact ⟨numbered,buildIsReference shuffledSession numbered (.text []) "Login" (.text "K-1") .null⟩

def unclosedHost : Action := .ofCall 0 (.navigate "http://[")

theorem unclosedHostRefused : Numbered [unclosedHost] ∧
    ∀ page c, Module.build {} ([unclosedHost].map resolve) (.text []) "Login" (.text "K-1") .null ≠ .ok (page,c) := by
  refine ⟨⟨by decide,by decide⟩,?_⟩
  intro page c made
  have address : firstAddress (inOrder [unclosedHost.resolve]) = .text "http://[" := by
    rw [inOrder,List.mergeSort_singleton]
    rfl
  have refused : pathFor (.text "http://[") (.text []) = .error (.invalid "Invalid IPv6 URL") := by decide
  simp [Module.build,address,refused] at made

end TestWeaver.Page
