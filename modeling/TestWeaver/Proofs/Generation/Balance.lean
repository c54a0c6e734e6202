import TestWeaver.Proofs.Context.Tally
import TestWeaver.Proofs.Generation.Runs
import TestWeaver.Proofs.Steps.Coupling

/-! The books of a recording balance. Every action on an element asks for its selector and for its
method, every further navigation for the entry point, and every owner of a method for a line and
for a handler, each of them once; what is asked for either stands in a document or was counted. -/
namespace TestWeaver
open TestWeaver.Action Context

namespace Page
variable {m : Module} {c : Context}

def methodsAsked (c : Context) : List Text := c.asked .page .method ++ c.unbound

def repeated (navigated : Bool) (actions : List Action) : Nat :=
  (actions.filter isNavigation).length - if navigated then 0 else 1

theorem addConstantAsked (m : Module) (c : Context) (a : Action) :
    ((m.addConstant c a).2.asked .page .selector).Perm (a.target :: c.asked .page .selector) ∧
      methodsAsked (m.addConstant c a).2 = methodsAsked c := by
  have selector := emitAsked c .page .selector a.target
  have method : methodsAsked (c.emit .page .selector a.target).2 = methodsAsked c := by
    rw [methodsAsked,emitAskedOther c a.target (by decide),emitUnbound,methodsAsked]
  simp only [Module.addConstant]
  generalize (c.emit .page .selector a.target).2 = k at selector method ⊢
  have name : (k.emit .page .constant a.names.constant).2.asked .page .selector = k.asked .page .selector ∧
      methodsAsked (k.emit .page .constant a.names.constant).2 = methodsAsked k := by
    refine ⟨emitAskedOther k a.names.constant (by decide),?_⟩
    rw [methodsAsked,emitAskedOther k a.names.constant (by decide),emitUnbound,methodsAsked]
  split
  · have asked := name.1 ▸ selector
    split
    · exact ⟨asked,name.2.trans method⟩
    · exact ⟨asked,name.2.trans method⟩
  · exact ⟨selector,method⟩

theorem addMethodAsked (m : Module) (c : Context) (a : Action) :
    (m.addMethod c a).2.asked .page .selector = c.asked .page .selector ∧
      (methodsAsked (m.addMethod c a).2).Perm (a.methodName :: methodsAsked c) := by
  unfold Module.addMethod
  split
  · refine ⟨noteAsked c a.target a.names.method .page .selector,?_⟩
    simp only [methodsAsked,noteAsked,noteUnbound]
    rw [← List.append_assoc]
    exact List.perm_append_singleton a.methodName _
  · have selector : (c.emit .page .method a.names.method).2.asked .page .selector = c.asked .page .selector :=
      emitAskedOther c a.names.method (by decide)
    have method : (methodsAsked (c.emit .page .method a.names.method).2).Perm (a.methodName :: methodsAsked c) := by
      rw [methodsAsked,emitUnbound]
      exact (emitAsked c .page .method a.methodName).append_right c.unbound
    dsimp only
    split
    · exact ⟨selector,method⟩
    · exact ⟨selector,method⟩

theorem addElementAsked (m : Module) (c : Context) (a : Action) :
    ((m.addElement c a).2.asked .page .selector).Perm (a.target :: c.asked .page .selector) ∧
      (methodsAsked (m.addElement c a).2).Perm (a.methodName :: methodsAsked c) := by
  obtain ⟨selector,before⟩ := addConstantAsked m c a
  obtain ⟨kept,method⟩ := addMethodAsked (m.addConstant c a).1 (m.addConstant c a).2 a
  exact ⟨kept ▸ selector,before ▸ method⟩

theorem addActionsAsked (m : Module) (c : Context) (navigated : Bool) (rest : List Action) :
    ((m.addActions c navigated rest).2.asked .page .selector).Perm
        ((onElements rest).map target ++ c.asked .page .selector) ∧
      (methodsAsked (m.addActions c navigated rest).2).Perm ((onElements rest).map methodName ++
        (List.replicate (repeated navigated rest) Naming.navigationMethod ++ methodsAsked c)) := by
  -- whether a navigation came before goes along, as only the first is no repetition
  induction rest generalizing m c navigated with
  | nil => exact ⟨.refl _,by cases navigated <;> exact .refl _⟩
  | cons a rest ih =>
    unfold Module.addActions
    cases nav : a.isNavigation with
    | false =>
      have elements : onElements (a :: rest) = a :: onElements rest := by simp [onElements,nav]
      have same : repeated navigated (a :: rest) = repeated navigated rest := by simp [repeated,nav]
      obtain ⟨selector,method⟩ := addElementAsked m c a
      obtain ⟨selectors,methods⟩ := ih (m.addElement c a).1 (m.addElement c a).2 navigated
      rw [elements,same]
      refine ⟨(selectors.trans (selector.append_left _)).trans List.perm_middle,?_⟩
      refine (methods.trans ((method.append_left _).append_left _)).trans ?_
      exact (List.perm_middle.append_left _).trans List.perm_middle
    | true =>
      have elements : onElements (a :: rest) = onElements rest := by simp [onElements,nav]
      rw [elements]
      cases navigated with
      | false =>
        have first : repeated false (a :: rest) = repeated true rest := by simp [repeated,nav]
        rw [first]
        exact ih m (c.declare a) true
      | true =>
        have more : repeated true (a :: rest) = repeated true rest + 1 := by simp [repeated,nav]
        obtain ⟨selectors,methods⟩ := ih m (c.emit .page .method Naming.navigationMethod).2 true
        rw [emitAskedOther c _ (by decide)] at selectors
        rw [more,List.replicate_succ']
        refine ⟨selectors,methods.trans (List.Perm.append_left _ ?_)⟩
        have again : (methodsAsked (c.emit .page .method Naming.navigationMethod).2).Perm
            (Naming.navigationMethod :: methodsAsked c) := by
          rw [methodsAsked,emitUnbound]
          exact (emitAsked c .page .method Naming.navigationMethod).append_right c.unbound
        rw [List.append_assoc]
        exact again.append_left _

/- What the page's gates refused: a selector for every action whose selector has a constant already,
a method for every action whose method was there before, and the entry point for every
navigation but the first. -/
structure Refusals (actions : List Action) (page : Module) (c : Context) (dropped : List Action) : Prop where
  elements : (onElements actions).Perm (c.shown (inOrder actions) ++ dropped)
  selectors : page.constants.length + (c.refused .page .selector).length = (onElements actions).length
  methods : (c.refused .page .method).Perm (dropped.map methodName ++
    List.replicate ((actions.filter isNavigation).length - 1) Naming.navigationMethod)
  other : ∀ artifact part, (artifact,part) ≠ (.page,.selector) → (artifact,part) ≠ (.page,.method) →
    c.refused artifact part = []

section made
variable {actions : List Action} {className : Text} {storyKey : Value} {path : Text} {page : Module} {c : Context}

theorem ofActionsAsked (made : Module.ofActions {} actions className storyKey path = (page,c)) :
    (c.asked .page .selector).Perm ((onElements (inOrder actions)).map target) ∧
      (methodsAsked c).Perm ((onElements (inOrder actions)).map methodName ++
        (List.replicate ((actions.filter isNavigation).length - 1) Naming.navigationMethod ++
          [Naming.navigationMethod])) := by
  have run := addActionsAsked (blank className storyKey path) (Context.emit {} .page .method Naming.navigationMethod).2 false
    (inOrder actions)
  have navigations : repeated false (inOrder actions) = (actions.filter isNavigation).length - 1 := by
    simp only [repeated,Bool.false_eq_true,if_false]
    rw [((inOrderPerm actions).filter isNavigation).length_eq]
  have start : (Context.emit {} .page .method Naming.navigationMethod).2.asked .page .selector = [] ∧
      methodsAsked (Context.emit {} .page .method Naming.navigationMethod).2 = [Naming.navigationMethod] := by decide
  rw [start.1,start.2,navigations,List.append_nil] at run
  rw [show c = (Module.ofActions {} actions className storyKey path).2 by rw [made]]
  exact run

theorem madeRefusals (named : ∀ a ∈ actions, a.Named) (numbered : Numbered actions)
    (made : Module.ofActions {} actions className storyKey path = (page,c)) : ∃ dropped, Refusals actions page c dropped := by
  have built := builtOfActions named numbered className storyKey path
  rw [made] at built
  obtain ⟨selectors,methods⟩ := ofActionsAsked made
  have unbound : c.unbound = [] := by
    refine List.filterMap_eq_nil_iff.mpr fun n member => ?_
    obtain ⟨value,rfl | rfl⟩ := built.notes n member <;> rfl
  have order : (inOrder (onElements actions)).Perm (onElements actions) := inOrderPerm _
  obtain ⟨dropped,parts⟩ := (firstsSublist methodName (inOrder (onElements actions))).exists_perm_append
  rw [inOrderElements numbered] at parts order
  have owners : c.shown (inOrder actions) = firstsBy methodName (onElements (inOrder actions)) := by
    rw [shownLowest named numbered made,lowestFirsts (numberedElements numbered),inOrderElements numbered]
  refine ⟨dropped,?_⟩
  exact {
    elements := by
      rw [owners]
      exact order.symm.trans parts
    selectors := by
      have length := selectors.length_eq
      rw [asked,built.selectors] at length
      simp only [List.length_append,List.length_map,order.length_eq] at length
      rw [built.constants,List.length_map]
      exact length
    methods := by
      rw [methodsAsked,unbound,List.append_nil,asked,built.taken] at methods
      refine List.perm_iff_count.mpr fun name => ?_
      have both := methods.count_eq name
      have split := (parts.map methodName).count_eq name
      simp only [List.map_append,List.cons_append,List.count_append,List.count_cons,List.count_nil] at both split ⊢
      omega
    other := by
      intro artifact part selector method
      refine List.filterMap_eq_nil_iff.mpr ?_
      rintro ⟨unit,value⟩ member
      obtain ⟨n,noted,found⟩ := List.mem_filterMap.mp member
      obtain ⟨own,rfl | rfl⟩ := built.notes n noted
      · obtain ⟨rfl,rfl,rfl⟩ : Artifact.page = artifact ∧ Part.selector = unit ∧ own = value := by simpa using found
        exact if_neg fun same => selector (by rw [same])
      · obtain ⟨rfl,rfl,rfl⟩ : Artifact.page = artifact ∧ Part.method = unit ∧ own = value := by simpa using found
        exact if_neg fun same => method (by rw [same]) }

end made

end Page

namespace Feature
variable {start : Context} {n : Nat} {b : Block} {c : Context}

structure Tallied (start : Context) (n : Nat) (b : Block) (c : Context) : Prop where
  lines : (c.seen .specification .step).length = b.steps.length
  asked : (c.asked .specification .step).length = n
  about : ∀ s ∈ b.steps, s.action.isSome
  elsewhere : ∀ artifact part, (artifact,part) ≠ (.specification,.step) →
    c.refused artifact part = start.refused artifact part

theorem addActionTallied (tallied : Tallied start n b c) (a : Action) :
    Tallied start (n + 1) (b.addAction c a).1 (b.addAction c a).2 := by
  have asked := (emitAsked c .specification .step (behaviorText a (columnOf b.examples.columns a))).length_eq
  have elsewhere := fun artifact part (other : (artifact,part) ≠ (Artifact.specification,Part.step)) =>
    (emitOther c (behaviorText a (columnOf b.examples.columns a)) other).2.trans (tallied.elsewhere artifact part other)
  rw [List.length_cons,tallied.asked] at asked
  unfold Block.addAction
  dsimp only
  by_cases seen : behaviorText a (columnOf b.examples.columns a) ∈ c.seen .specification .step
  · rw [emitSeen seen] at asked elsewhere ⊢
    exact ⟨tallied.lines,asked,tallied.about,elsewhere⟩
  · rw [emitFresh seen] at asked elsewhere ⊢
    simp only [if_true]
    exact {
      lines := by
        rw [seenGrown rfl,List.length_append,tallied.lines,List.length_append]
        simp [Context.seen]
      asked
      about := by
        intro s member
        rcases List.mem_append.mp member with old | last
        · exact tallied.about s old
        · rw [List.mem_singleton.mp last]
          rfl
      elsewhere }

theorem addActionsTallied (tallied : Tallied start n b c) (rest : List Action) :
    Tallied start (n + (c.shown rest).length) (b.addActions c rest).1 (b.addActions c rest).2 := by
  induction rest generalizing n b c with
  | nil => exact tallied
  | cons a rest ih =>
    rw [shownCons]
    unfold Block.addActions
    split
    · exact ih tallied
    · have step := ih (addActionTallied tallied a)
      rw [onlyAtShown (addActionOnly b c a) rest,Nat.add_assoc,Nat.add_comm 1] at step
      exact step

theorem ofActionsTallied (unseen : c.seen .specification .step = []) (unrefused : c.refused .specification .step = [])
    (actions : List Action) (className : Text) (storyKey : Value) :
    ∃ b, (Document.ofActions c actions className storyKey).1.blocks = [b] ∧
      Tallied c (c.shown (inOrder actions)).length b (Document.ofActions c actions className storyKey).2 := by
  have first : Tallied c 0 { name := "Complete " ++ className ++ " workflow" } c :=
    ⟨by simp [unseen],by simp [asked,unseen,unrefused],by simp,fun _ _ _ => rfl⟩
  have run := addActionsTallied first (inOrder actions)
  rw [Nat.zero_add] at run
  exact ⟨_,rfl,run⟩

end Feature

namespace Steps
variable {start : Context} {n : Nat} {m : Module} {c : Context}

structure Tallied (start : Context) (n : Nat) (m : Module) (c : Context) : Prop where
  patterns : c.seen .glue .step = m.handlers.map (·.pattern)
  asked : (c.asked .glue .step).length = n
  elsewhere : ∀ artifact part, (artifact,part) ≠ (.glue,.step) → c.refused artifact part = start.refused artifact part

theorem addTallied (tallied : Tallied start n m c) (h : Handler) (fresh : h.pattern ∉ c.seen .glue .step) :
    Tallied start (n + 1) (m.add h) (c.emit .glue .step h.pattern).2 where
  patterns := by
    rw [emitFresh fresh,seenGrown rfl,tallied.patterns]
    simp [Context.seen,Module.add]
  asked := by rw [(emitAsked c .glue .step h.pattern).length_eq,List.length_cons,tallied.asked]
  elsewhere artifact part other := (emitOther c h.pattern other).2.trans (tallied.elsewhere artifact part other)

theorem addActionTallied (tallied : Tallied start n m c) (a : Action) :
    Tallied start (n + 1) (m.addAction c a).1 (m.addAction c a).2 := by
  unfold Module.addAction
  dsimp only
  by_cases seen : (patternOf a).1 ∈ c.seen .glue .step
  · have asked := (emitAsked c .glue .step (patternOf a).1).length_eq
    have elsewhere := fun artifact part (other : (artifact,part) ≠ (Artifact.glue,Part.step)) =>
      (emitOther c (patternOf a).1 other).2.trans (tallied.elsewhere artifact part other)
    rw [List.length_cons,tallied.asked] at asked
    rw [emitSeen seen] at asked elsewhere ⊢
    exact ⟨tallied.patterns,asked,elsewhere⟩
  · have opened : (c.emit .glue .step (patternOf a).1).1 = true := by rw [emitFresh seen]
    rw [if_pos opened]
    exact addTallied tallied _ seen

theorem addActionsTallied (tallied : Tallied start n m c) (rest : List Action) :
    Tallied start (n + (c.shown rest).length) (m.addActions c rest).1 (m.addActions c rest).2 := by
  induction rest generalizing n m c with
  | nil => exact tallied
  | cons a rest ih =>
    rw [shownCons]
    unfold Module.addActions
    split
    · exact ih tallied
    · have step := ih (addActionTallied tallied a)
      rw [onlyAtShown (addActionOnly m c a) rest,Nat.add_assoc,Nat.add_comm 1] at step
      exact step

theorem startTallied (unseen : c.seen .glue .step = []) (unrefused : c.refused .glue .step = []) (l : Layout) :
    Tallied c 1 (Module.start c l).1 (Module.start c l).2 := by
  have none : Tallied c 0 (Module.ofLayout l) c := ⟨unseen,by simp [Context.asked,unseen,unrefused],fun _ _ _ => rfl⟩
  have fresh : Feature.preconditionText l.className ∉ c.seen .glue .step := by simp [unseen]
  exact addTallied none _ fresh

theorem ofActionsTallied (unseen : c.seen .glue .step = []) (unrefused : c.refused .glue .step = [])
    (actions : List Action) (l : Layout) (named : ∀ a ∈ c.shown (inOrder actions), a.Named) :
    Tallied c ((c.shown (inOrder actions)).length + 2) (Module.ofActions c actions l).1 (Module.ofActions c actions l).2 := by
  have run := addActionsTallied (startTallied unseen unrefused l) (inOrder actions)
  rw [onlyAtShown (startOnly c l)] at run
  obtain ⟨opening,hs,closing,handlers,opens,binds,closes⟩ := ofActionsHandlers (l := l) unseen named
  have listed : (Module.addActions (Module.start c l).1 (Module.start c l).2 (inOrder actions)).1.handlers =
      opening :: hs := (List.append_inj' handlers rfl).1
  have fresh : Feature.closingText ∉
      (Module.addActions (Module.start c l).1 (Module.start c l).2 (inOrder actions)).2.seen .glue .step := by
    rw [run.patterns,listed,List.map_cons,List.mem_cons,patternsOfHandlers binds,opens.pattern]
    rintro (first | later)
    · simp [Feature.closingText,Feature.preconditionText,Text.ofString] at first
    · obtain ⟨a,among,same⟩ := List.mem_map.mp later
      exact patternNotClosing (named a ((firstsSublist _ _).subset among)) same
  have count : (c.shown (inOrder actions)).length + 2 = 1 + (c.shown (inOrder actions)).length + 1 := by omega
  rw [count]
  exact addTallied run _ fresh

end Steps

namespace Page

def Module.gestures (m : Module) : List Method := m.methods.filter fun method => method.name != Naming.navigationMethod

end Page

namespace Steps

def Module.whens (m : Module) : List Handler := m.handlers.filter fun h => h.types.contains .when

end Steps

namespace Generation

def refusedGestures (c : Context) : List Text := (c.refused .page .method).filter (· != Naming.navigationMethod)

def refusedNavigations (c : Context) : List Text := (c.refused .page .method).filter (· == Naming.navigationMethod)

def repeating : List (Artifact × Part) := [(.page,.selector),(.page,.method),(.specification,.step),(.glue,.step)]

/- Of every sort of unit, what is in the documents and what was refused make up what was asked
for, so the count that is reported is what the documents lack. -/
structure Balanced (actions : List Action) (d : Documents) (c : Context) : Prop where
  selectors : d.page.constants.length + (c.refused .page .selector).length = (onElements actions).length
  methods : d.page.gestures.length + (refusedGestures c).length = (onElements actions).length
  navigations : (refusedNavigations c).length = (actions.filter isNavigation).length - 1
  lines : d.specification.behavior.length + (c.refused .specification .step).length = d.page.gestures.length
  handlers : d.steps.whens.length + (c.refused .glue .step).length = d.page.gestures.length
  other : ∀ artifact part, (artifact,part) ∉ repeating → c.refused artifact part = []
  count : c.skippedCount = ((onElements actions).length - d.page.constants.length) +
    ((onElements actions).length - d.page.gestures.length) + ((actions.filter isNavigation).length - 1) +
    (d.page.gestures.length - d.specification.behavior.length) + (d.page.gestures.length - d.steps.whens.length)
  counted : ∀ a ∈ actions, a.isNavigation = false → c.isDeclared a = false → a.methodName ∈ refusedGestures c

section documents
variable {actions dropped : List Action} {baseUrl : Value} {className : Text} {storyKey pageUrl : Value} {l : Layout}
  {path : Text} {d : Documents} {c c₀ c₁ : Context}

theorem gestureNames (named : ∀ a ∈ dropped, a.Named) (elements : ∀ a ∈ dropped, a.isNavigation = false) :
    (dropped.map methodName).filter (· != Naming.navigationMethod) = dropped.map methodName := by
  rw [List.filter_eq_self]
  intro name member
  obtain ⟨a,among,rfl⟩ := List.mem_map.mp member
  rw [bne_iff_ne]
  intro same
  have navigation := (namedMethod (named a among)).mp same
  rw [elements a among] at navigation
  contradiction

theorem refusedParts {n : Nat} (named : ∀ a ∈ dropped, a.Named) (elements : ∀ a ∈ dropped, a.isNavigation = false)
    (methods : (c.refused .page .method).Perm (dropped.map methodName ++ List.replicate n Naming.navigationMethod)) :
    (refusedGestures c).Perm (dropped.map methodName) ∧ (refusedNavigations c).length = n := by
  have gestures := gestureNames named elements
  have none : (dropped.map methodName).filter (· == Naming.navigationMethod) = [] := by
    rw [List.filter_eq_nil_iff]
    intro name member
    rw [← gestures] at member
    simpa using (List.mem_filter.mp member).2
  constructor
  · have part := methods.filter (· != Naming.navigationMethod)
    rw [List.filter_append,gestures,List.filter_replicate_of_neg (by simp),List.append_nil] at part
    exact part
  · have part := (methods.filter (· == Naming.navigationMethod)).length_eq
    rw [List.filter_append,none,List.filter_replicate_of_pos (by simp),List.nil_append,List.length_replicate] at part
    exact part

theorem gesturesShown (named : ∀ a ∈ actions, a.Named) (numbered : Numbered actions)
    (made : Page.Module.ofActions {} actions className storyKey path = (d.page,c₀)) :
    d.page.gestures.length = (c₀.shown (inOrder actions)).length := by
  have names : d.page.methods.map (·.name) =
      Naming.navigationMethod :: (c₀.shown (inOrder actions)).map methodName := by
    rw [Page.madeReference named numbered made,Page.methodNamesOf,Page.shownLowest named numbered made]
  have shown : ∀ a ∈ c₀.shown (inOrder actions), a ∈ actions ∧ a.isNavigation = false := fun a member =>
    ⟨memInOrder.mp (memShown member).1,(memShown member).2.1⟩
  have own := gestureNames (fun a member => named a (shown a member).1) (fun a member => (shown a member).2)
  have filtered := congrArg (List.filter (· != Naming.navigationMethod)) names
  rw [List.filter_map,List.filter_cons_of_neg (by simp),own] at filtered
  simpa [Page.Module.gestures,Function.comp_def] using congrArg List.length filtered

theorem linesBalanced {n : Nat} {b : Feature.Block} (blocks : d.specification.blocks = [b])
    (tallied : Feature.Tallied c₀ n b c₁) :
    d.specification.behavior.length + (c₁.refused .specification .step).length = n := by
  have behavior : d.specification.behavior = b.steps := by
    rw [Feature.Document.behavior,blocks,List.flatMap_singleton,List.filter_eq_self]
    exact tallied.about
  have length := tallied.asked
  rw [asked,List.length_append,tallied.lines] at length
  rw [behavior]
  exact length

theorem handlersBalanced {n : Nat} {opening closing : Steps.Handler} {hs : List Steps.Handler} {owners : List Action}
    (listed : d.steps.handlers = opening :: hs ++ [closing]) (opens : Steps.Opens l opening)
    (binds : List.Forall₂ Steps.Binds owners hs) (closes : Steps.Closes closing)
    (tallied : Steps.Tallied c₁ (n + 2) d.steps c) :
    d.steps.whens.length + (c.refused .glue .step).length = n := by
  have bound : hs.filter (fun h => h.types.contains .when) = hs := by
    rw [List.filter_eq_self]
    intro h member
    obtain ⟨a,_,binds⟩ := leftRelated binds h member
    simp [binds.types]
  have whens : d.steps.whens = hs := by
    rw [Steps.Module.whens,listed,List.filter_append,List.filter_cons_of_neg (by simp [opens.types]),bound,
      List.filter_singleton]
    simp [closes.types]
  have length := tallied.asked
  rw [asked,tallied.patterns,listed] at length
  simp only [List.length_append,List.length_map,List.length_cons,List.length_nil] at length
  rw [whens]
  omega

structure Books (actions dropped : List Action) (d : Documents) (c : Context) : Prop where
  elements : (onElements actions).Perm (c.shown (inOrder actions) ++ dropped)
  gestures : d.page.gestures.length = (c.shown (inOrder actions)).length
  selectors : d.page.constants.length + (c.refused .page .selector).length = (onElements actions).length
  methods : (c.refused .page .method).Perm (dropped.map methodName ++
    List.replicate ((actions.filter isNavigation).length - 1) Naming.navigationMethod)
  lines : d.specification.behavior.length + (c.refused .specification .step).length = d.page.gestures.length
  handlers : d.steps.whens.length + (c.refused .glue .step).length = d.page.gestures.length
  other : ∀ artifact part, (artifact,part) ∉ repeating → c.refused artifact part = []

theorem booksCount (books : Books actions dropped d c) : c.skippedCount = (c.refused .page .selector).length +
    (c.refused .page .method).length + (c.refused .specification .step).length + (c.refused .glue .step).length := by
  have none : ∀ artifact part, (artifact,part) ∉ repeating → (c.refused artifact part).length = 0 :=
    fun artifact part outside => by rw [books.other artifact part outside,List.length_nil]
  rw [countParts,skippedParts,skippedParts,skippedParts,none .page .constant (by decide),none .page .step (by decide),
    none .specification .selector (by decide),none .specification .constant (by decide),
    none .specification .method (by decide),none .glue .selector (by decide),none .glue .constant (by decide),
    none .glue .method (by decide)]
  omega

theorem documentsBooks (named : ∀ a ∈ actions, a.Named) (numbered : Numbered actions)
    (ok : documentsOfActions actions baseUrl className storyKey pageUrl l = .ok (d,c)) :
    ∃ dropped, Books actions dropped d c := by
  obtain ⟨path,c₀,c₁,made,described,bound⟩ := Steps.documentsParts ok
  have ready := readyOfActions named numbered made
  obtain ⟨owns₁,owns⟩ := Steps.shownLater described bound (inOrder actions)
  obtain ⟨dropped,refusals⟩ := Page.madeRefusals named numbered made
  have gestures := gesturesShown named numbered made
  -- the feature
  obtain ⟨b,blocks,feature⟩ := Feature.ofActionsTallied (ready.unseen .specification .step (by decide))
    (refusals.other .specification .step (by decide) (by decide)) actions className storyKey
  have lines := linesBalanced (d := d) (by rw [← blocks,described]) (described ▸ feature)
  rw [described] at feature
  -- the steps
  have unseen : c₁.seen .glue .step = [] := by
    have only := Feature.ofActionsOnly c₀ actions className storyKey
    rw [described] at only
    rw [only.others .glue .step (by decide),ready.unseen .glue .step (by decide)]
  have unrefused : c₁.refused .glue .step = [] := by
    rw [feature.elsewhere .glue .step (by decide),refusals.other .glue .step (by decide) (by decide)]
  have shown : ∀ a ∈ c₁.shown (inOrder actions), a.Named := fun a member => (ready.known a (owns₁ ▸ member)).2.2
  have steps := Steps.ofActionsTallied unseen unrefused actions l shown
  obtain ⟨opening,hs,closing,handlers,opens,binds,closes⟩ := Steps.ofActionsHandlers (l := l) unseen shown
  rw [bound] at steps handlers
  have whens := handlersBalanced handlers opens binds closes steps
  -- the page wrote in its own books before the other two
  have earlier : ∀ artifact part, (artifact,part) ≠ (.specification,.step) → (artifact,part) ≠ (.glue,.step) →
      c.refused artifact part = c₀.refused artifact part := fun artifact part feature' steps' =>
    (steps.elsewhere artifact part steps').trans (feature.elsewhere artifact part feature')
  refine ⟨dropped,?_⟩
  exact {
    elements := by rw [owns]; exact refusals.elements
    gestures := by rw [owns]; exact gestures
    selectors := by rw [earlier .page .selector (by decide) (by decide)]; exact refusals.selectors
    methods := by rw [earlier .page .method (by decide) (by decide)]; exact refusals.methods
    lines := by rw [steps.elsewhere .specification .step (by decide),lines,gestures]
    handlers := by rw [whens,owns₁,gestures]
    other := by
      intro artifact part outside
      simp only [repeating,List.mem_cons,not_or] at outside
      obtain ⟨selector,method,line,handler,_⟩ := outside
      rw [earlier artifact part line handler]
      exact refusals.other artifact part selector method }

theorem documentsBalanced (named : ∀ a ∈ actions, a.Named) (numbered : Numbered actions)
    (ok : documentsOfActions actions baseUrl className storyKey pageUrl l = .ok (d,c)) : Balanced actions d c := by
  obtain ⟨dropped,books⟩ := documentsBooks named numbered ok
  have known : ∀ a ∈ dropped, a ∈ actions ∧ a.isNavigation = false := fun a member =>
    memOnElements.mp (books.elements.mem_iff.mpr (List.mem_append_right _ member))
  obtain ⟨gestures,navigations⟩ := refusedParts (fun a member => named a (known a member).1)
    (fun a member => (known a member).2) books.methods
  have elements := books.elements.length_eq
  rw [List.length_append,← books.gestures] at elements
  have methods : d.page.gestures.length + (refusedGestures c).length = (onElements actions).length := by
    rw [gestures.length_eq,List.length_map,elements]
  exact {
    selectors := books.selectors
    methods
    navigations
    lines := books.lines
    handlers := books.handlers
    other := books.other
    count := by
      have refused := books.methods.length_eq
      have selectors := books.selectors
      have lines := books.lines
      have handlers := books.handlers
      rw [List.length_append,List.length_map,List.length_replicate] at refused
      rw [booksCount books]
      omega
    counted := by
      intro a member element undeclared
      rw [gestures.mem_iff]
      have split := books.elements.mem_iff.mp (memOnElements.mpr ⟨member,element⟩)
      rcases List.mem_append.mp split with shown | lost
      · rw [(memShown shown).2.2] at undeclared
        contradiction
      · exact List.mem_map_of_mem lost }

end documents

def recordedActions (recording : Text) : List Action :=
  (Recording.Transcript.ofText Recording.defaultShapes recording).actions.map resolve

theorem everyRunBalances :
    (∀ recording baseUrl className storyKey pageUrl l,
      (∃ f, Page.pathFor (Page.addressOf (recordedActions recording) pageUrl) baseUrl = .error f ∧
        documentsOfActions (recordedActions recording) baseUrl className storyKey pageUrl l = .error f) ∨
      ∃ d c, documentsOfActions (recordedActions recording) baseUrl className storyKey pageUrl l = .ok (d,c) ∧
        Balanced (recordedActions recording) d c) ∧
    (∀ s i session, (∃ f, (fromRecording s i session).1 = .error f) ∨
      ∃ r recording d c, (fromRecording s i session).1 = .ok r ∧ recordingText i.recording = .ok recording ∧
        (∃ className storyKey l,
          documentsOfActions (recordedActions recording) s.baseUrl className storyKey i.pageUrl l = .ok (d,c)) ∧
        Tells r d c ∧ Balanced (recordedActions recording) d c) := by
  have balanced : ∀ {recording baseUrl className storyKey pageUrl l d c},
      documentsOfActions (recordedActions recording) baseUrl className storyKey pageUrl l = .ok (d,c) →
        Balanced (recordedActions recording) d c :=
    fun made => documentsBalanced Page.namedAll (Page.numberedResolve (Recording.numberedTranscript _)) made
  constructor
  · intro recording baseUrl className storyKey pageUrl l
    refine (documentsOfActionsEnd (recordedActions recording) baseUrl className storyKey pageUrl l).imp id ?_
    rintro ⟨d,c,made⟩
    exact ⟨d,c,made,balanced made⟩
  · intro s i session
    cases run : (fromRecording s i session).1 with
    | error f => exact .inl ⟨f,rfl⟩
    | ok r =>
      obtain ⟨featureName,storyKey,recording,l,d,c,_,text,_,made,tells⟩ := fromRecordingDocuments run
      exact .inr ⟨r,recording,d,c,rfl,text,⟨_,_,l,made⟩,tells,balanced made⟩

end Generation
end TestWeaver
