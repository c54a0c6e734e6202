import TestWeaver.Proofs.Generation.Documents

/-! Two recordings that differ in what was typed and selected alone. Every step of the three
documents commutes with masking these values, so they get as far as the table of the scenario
and no farther. -/
namespace TestWeaver

namespace Action
variable {a b : Action} {xs ys : List Action}

def masked (a : Action) : Action := if a.kind.isParameterized then { a with value := .null } else a

structure SameButTyped (a b : Action) : Prop where
  id : a.id = b.id
  kind : a.kind = b.kind
  selector : a.selector = b.selector
  names : a.names = b.names
  value : a.kind.isParameterized = false → a.value = b.value

theorem sameSelf (a : Action) : SameButTyped a a := ⟨rfl,rfl,rfl,rfl,fun _ => rfl⟩

theorem sameCalls (before : Nat) {kind : Kind} {selector : Text} (typed : kind.isParameterized) (given : selector ≠ [])
    (v w : Option Text) : SameButTyped (.ofCall before (.act kind selector v given))
      (.ofCall before (.act kind selector w given)) := by
  refine ⟨rfl,rfl,rfl,rfl,fun plain => ?_⟩
  have plain : kind.isParameterized = false := plain
  rw [typed] at plain
  contradiction

theorem maskedPlain (plain : a.kind.isParameterized = false) : a.masked = a := by
  simp [masked,plain]

theorem maskedTyped (typed : a.kind.isParameterized) : a.masked = { a with value := .null } := by
  simp [masked,typed]

@[simp] theorem maskedId (a : Action) : a.masked.id = a.id := by unfold masked; split <;> rfl

@[simp] theorem maskedKind (a : Action) : a.masked.kind = a.kind := by unfold masked; split <;> rfl

@[simp] theorem maskedNames (a : Action) : a.masked.names = a.names := by unfold masked; split <;> rfl

@[simp] theorem maskedSelector (a : Action) : a.masked.selector = a.selector := by unfold masked; split <;> rfl

@[simp] theorem maskedTarget (a : Action) : a.masked.target = a.target := by simp [target]

@[simp] theorem maskedNavigation (a : Action) : a.masked.isNavigation = a.isNavigation := by simp [isNavigation]

theorem maskedSame (same : SameButTyped a b) : a.masked = b.masked := by
  obtain ⟨id,kind,selector,value,names,_,_⟩ := a
  obtain ⟨id',kind',selector',value',names',_,_⟩ := b
  obtain ⟨rfl,rfl,rfl,rfl,value⟩ := same
  cases typed : kind.isParameterized with
  | true => simp [masked,typed]
  | false =>
    obtain rfl := value typed
    rfl

theorem maskedAll (same : List.Forall₂ SameButTyped xs ys) : xs.map masked = ys.map masked := by
  induction same with
  | nil => rfl
  | cons here _ ih => rw [List.map_cons,List.map_cons,maskedSame here,ih]

theorem resolvedSame (same : SameButTyped a b) : SameButTyped a.resolve b.resolve where
  id := same.id
  kind := same.kind
  selector := same.selector
  value := same.value
  names := by
    have navigation : a.isNavigation = b.isNavigation := by rw [isNavigation,same.kind,isNavigation]
    have target : a.target = b.target := by rw [target,same.selector,target]
    simp only [resolve,Naming.names,Naming.readableOf,navigation,target,same.kind,same.id]

theorem inOrderMasked (xs : List Action) : inOrder (xs.map masked) = (inOrder xs).map masked := by
  refine (List.map_mergeSort fun a _ b _ => ?_).symm
  rw [maskedId,maskedId]

end Action

namespace Context
variable {c : Context}

def masked (c : Context) : Context := { c with declared := c.declared.map Action.masked }

def maskedOut {α : Type} (out : α × Context) : α × Context := (out.1,out.2.masked)

theorem emitMasked (artifact : Artifact) (part : Part) (value : Text) :
    c.masked.emit artifact part value = maskedOut (c.emit artifact part value) := by
  have same : c.masked.has artifact part value = c.has artifact part value := rfl
  unfold emit
  rw [same]
  split <;> rfl

theorem declareMasked (a : Action) : c.masked.declare a.masked = (c.declare a).masked := by
  simp [declare,masked,List.filter_map,Function.comp_def]

theorem isDeclaredMasked (a : Action) : c.masked.isDeclared a.masked = c.isDeclared a := by
  simp [isDeclared,masked,Function.comp_def]

end Context
open Context

/- The page. Of the kinds with a default value only a press has one that was recorded, and a
press is not masked. -/

namespace Page
variable {m : Module} {c : Context}

theorem methodOfMasked (a : Action) (constant : Text) : methodOf a.masked constant = methodOf a constant := by
  cases typed : a.kind.isParameterized with
  | false => rw [Action.maskedPlain typed]
  | true =>
    have other : a.kind ≠ .press := by
      intro press
      rw [press] at typed
      contradiction
    simp [methodOf,other]

theorem addConstantMasked (a : Action) : m.addConstant c.masked a.masked = maskedOut (m.addConstant c a) := by
  simp only [Module.addConstant,Action.maskedTarget,Action.maskedNames,emitMasked,maskedOut]
  split
  · split <;> rfl
  · rfl

theorem addMethodMasked (a : Action) : m.addMethod c.masked a.masked = maskedOut (m.addMethod c a) := by
  have constants : c.masked.constantFor? (some a.target) = c.constantFor? (some a.target) := rfl
  simp only [Module.addMethod,Action.maskedTarget,Action.maskedNames,constants,emitMasked,methodOfMasked,maskedOut]
  split
  · rfl
  · split
    · rw [declareMasked]
    · rfl

theorem addElementMasked (a : Action) : m.addElement c.masked a.masked = maskedOut (m.addElement c a) := by
  rw [Module.addElement,addConstantMasked]
  exact addMethodMasked a

theorem addActionsMasked (navigated : Bool) (actions : List Action) :
    m.addActions c.masked navigated (actions.map Action.masked) = maskedOut (m.addActions c navigated actions) := by
  induction actions generalizing m c navigated with
  | nil => rfl
  | cons a rest ih =>
    simp only [List.map_cons,Module.addActions,Action.maskedNavigation,emitMasked,declareMasked,addElementMasked]
    split
    · split
      · exact ih true
      · exact ih true
    · exact ih navigated

theorem firstAddressMasked (actions : List Action) : firstAddress (actions.map Action.masked) = firstAddress actions := by
  have values : ((actions.map Action.masked).filter Action.isNavigation).map (·.value) =
      (actions.filter Action.isNavigation).map (·.value) := by
    rw [List.filter_map,List.map_map]
    have kept : (actions.filter (Action.isNavigation ∘ Action.masked)) = actions.filter Action.isNavigation :=
      List.filter_congr fun a _ => Action.maskedNavigation a
    rw [kept]
    refine List.map_congr_left fun a member => ?_
    have navigation : a.kind = .navigate := by simpa [Action.isNavigation] using (List.mem_filter.mp member).2
    rw [Function.comp_apply,Action.maskedPlain (by rw [navigation]; rfl)]
  rw [firstAddress,values,firstAddress]

theorem buildMasked (actions : List Action) (baseUrl : Value) (className : Text) (storyKey pageUrl : Value) :
    Module.build {} (actions.map Action.masked) baseUrl className storyKey pageUrl =
      (Module.build {} actions baseUrl className storyKey pageUrl).map maskedOut := by
  have run : ∀ path, Module.ofActions {} (actions.map Action.masked) className storyKey path =
      maskedOut (Module.ofActions {} actions className storyKey path) := by
    intro path
    rw [Module.ofActions,Action.inOrderMasked]
    exact addActionsMasked (c := (Context.emit {} .page .method Naming.navigationMethod).2) false _
  simp only [Module.build,Action.inOrderMasked,firstAddressMasked,run]
  generalize pathFor _ baseUrl = path
  cases path <;> rfl

end Page

namespace Feature
variable {b : Block} {c : Context}

def Examples.masked (e : Examples) : Examples := { e with values := e.values.map fun _ => .text [] }

def Block.masked (b : Block) : Block := { b with examples := b.examples.masked }

def Document.masked (d : Document) : Document := { d with blocks := d.blocks.map Block.masked }

theorem columnOfMasked (taken : List Text) (a : Action) : columnOf taken a.masked = columnOf taken a := by
  simp [columnOf]

theorem behaviorTextMasked (a : Action) (column : Option Text) : behaviorText a.masked column = behaviorText a column := by
  simp [behaviorText]

theorem examplesAddMasked (e : Examples) (taken : List Text) (a : Action) :
    e.masked.add (columnOf taken a) a.masked.value = (e.add (columnOf taken a) a.value).masked := by
  unfold Examples.add
  cases typed : a.kind.isParameterized with
  | false => simp [columnOf,typed]
  | true =>
    rw [Action.maskedTyped typed]
    split
    · rfl
    · rfl
    · simp [Examples.masked]
      rfl

theorem addActionMasked (a : Action) :
    b.masked.addAction c.masked a.masked = ((b.addAction c a).1.masked,(b.addAction c a).2.masked) := by
  have columns : b.masked.examples.columns = b.examples.columns := rfl
  simp only [Block.addAction,columns,columnOfMasked,behaviorTextMasked,emitMasked,maskedOut]
  split
  · simp only [Block.masked,examplesAddMasked,Action.maskedId]
    rfl
  · rfl

theorem addActionsMasked (actions : List Action) : b.masked.addActions c.masked (actions.map Action.masked) =
    ((b.addActions c actions).1.masked,(b.addActions c actions).2.masked) := by
  induction actions generalizing b c with
  | nil => rfl
  | cons a rest ih =>
    simp only [List.map_cons,Block.addActions,Action.maskedNavigation,isDeclaredMasked,addActionMasked]
    split
    · exact ih
    · exact ih

theorem ofActionsMasked (actions : List Action) (className : Text) (storyKey : Value) :
    Document.ofActions c.masked (actions.map Action.masked) className storyKey =
      ((Document.ofActions c actions className storyKey).1.masked,
        (Document.ofActions c actions className storyKey).2.masked) := by
  have run := addActionsMasked (b := { name := "Complete " ++ className ++ " workflow" }) (c := c) (Action.inOrder actions)
  have fresh : Block.masked { name := "Complete " ++ className ++ " workflow" } =
      { name := "Complete " ++ className ++ " workflow" } := rfl
  rw [fresh] at run
  simp only [Document.ofActions,Action.inOrderMasked,run]
  rfl

def Examples.valuesRow (e : Examples) : List Text :=
  if e.columns.isEmpty then [] else [row (e.values.map fun v => cell v.shown)]

def Document.valuesRows (d : Document) : List Text := d.blocks.flatMap fun b => b.examples.valuesRow

def Block.linesAbove (b : Block) (precondition closing : Option Step) : List Text :=
  b.header :: (precondition.toList ++ b.steps ++ closing.toList).map (fun s => indent s.line)
    ++ (if b.examples.columns.isEmpty then [] else ([[],"    Examples:",row b.examples.columns] : List Text))

theorem linesAround (b : Block) (precondition closing : Option Step) :
    b.lines precondition closing = b.linesAbove precondition closing ++ b.examples.valuesRow ++ [[]] := by
  unfold Block.lines Block.linesAbove Examples.lines Examples.valuesRow
  split
  · simp
  · simp only [List.append_assoc,List.cons_append,List.nil_append]
    rfl

theorem textsAround {d e : Document} {b b' : Block} (single : d.blocks = [b]) (other : e.blocks = [b'])
    (same : d.masked = e.masked) : ∃ above below,
    d.text = Text.unlines (above ++ d.valuesRows ++ below) ∧ e.text = Text.unlines (above ++ e.valuesRows ++ below) := by
  have text : ∀ {d : Document} {b : Block}, d.blocks = [b] → d.text = Text.unlines
      (d.masked.head ++ d.masked.backgroundLines ++
        d.masked.blocks.flatMap (·.linesAbove (if d.masked.background then none else d.masked.precondition) d.masked.closing)
        ++ d.valuesRows ++ [[]]) := by
    intro d b single
    have above : ∀ p closing, b.masked.linesAbove p closing = b.linesAbove p closing := fun _ _ => rfl
    simp only [Document.text,Document.valuesRows,Document.masked,single,List.map_cons,List.map_nil,
      List.flatMap_cons,List.flatMap_nil,List.append_nil,linesAround,above,List.append_assoc]
    rfl
  refine ⟨_,_,text single,?_⟩
  rw [same]
  exact text other

end Feature

namespace Steps
variable {m : Module} {c : Context}

theorem addActionMasked (a : Action) : m.addAction c.masked a.masked = maskedOut (m.addAction c a) := by
  have pattern : patternOf a.masked = patternOf a := by simp [patternOf]
  simp only [Module.addAction,pattern,emitMasked,Action.maskedNames,maskedOut]
  split <;> rfl

theorem addActionsMasked (actions : List Action) :
    m.addActions c.masked (actions.map Action.masked) = maskedOut (m.addActions c actions) := by
  induction actions generalizing m c with
  | nil => rfl
  | cons a rest ih =>
    simp only [List.map_cons,Module.addActions,Action.maskedNavigation,isDeclaredMasked,addActionMasked]
    split
    · exact ih
    · exact ih

theorem ofActionsMasked (actions : List Action) (l : Layout) :
    Module.ofActions c.masked (actions.map Action.masked) l = maskedOut (Module.ofActions c actions l) := by
  have start : Module.start c.masked l = maskedOut (Module.start c l) := by
    simp only [Module.start,emitMasked]
    rfl
  simp only [Module.ofActions,start,Action.inOrderMasked,maskedOut,addActionsMasked,emitMasked]

end Steps

namespace Generation

def Documents.masked (d : Documents) : Documents := { d with specification := d.specification.masked }

theorem documentsMasked (actions : List Action) (baseUrl : Value) (className : Text) (storyKey pageUrl : Value)
    (l : Layout) : documentsOfActions (actions.map Action.masked) baseUrl className storyKey pageUrl l =
      (documentsOfActions actions baseUrl className storyKey pageUrl l).map fun (d,c) => (d.masked,c.masked) := by
  rw [documentsOfActions,Page.buildMasked,documentsOfActions]
  cases Page.Module.build {} actions baseUrl className storyKey pageUrl with
  | error f => rfl
  | ok built =>
    simp only [Except.map,bind,Except.bind,maskedOut,Feature.ofActionsMasked,Steps.ofActionsMasked]
    rfl

theorem singleBlock {actions : List Action} {baseUrl : Value} {className : Text} {storyKey pageUrl : Value}
    {l : Layout} {d : Documents} {c : Context}
    (ok : documentsOfActions actions baseUrl className storyKey pageUrl l = .ok (d,c)) :
    ∃ b, d.specification.blocks = [b] := by
  rw [documentsOfActions] at ok
  cases made : Page.Module.build {} actions baseUrl className storyKey pageUrl with
  | error f =>
    rw [made] at ok
    contradiction
  | ok built =>
    rw [made] at ok
    cases Except.ok.inj ok
    exact ⟨_,rfl⟩

/- What two runs have in common that differ, in their documents, in the values of the table alone. -/
structure ValuesApart (d e : Documents) (c k : Context) : Prop where
  page : d.page = e.page ∧ d.page.text = e.page.text
  steps : d.steps = e.steps ∧ d.steps.text = e.steps.text
  accepted : c.accepted = k.accepted
  skipped : ∀ artifact, c.skipped artifact = k.skipped artifact
  specification : d.specification.masked = e.specification.masked
  text : ∃ above below,
    d.specification.text = Text.unlines (above ++ d.specification.valuesRows ++ below) ∧
    e.specification.text = Text.unlines (above ++ e.specification.valuesRows ++ below)

theorem typedStaysInTable {xs ys : List Action} (same : List.Forall₂ Action.SameButTyped xs ys) (baseUrl : Value)
    (className : Text) (storyKey pageUrl : Value) (l : Layout) :
    (∃ f, documentsOfActions xs baseUrl className storyKey pageUrl l = .error f ∧
      documentsOfActions ys baseUrl className storyKey pageUrl l = .error f) ∨
    ∃ d c e k, documentsOfActions xs baseUrl className storyKey pageUrl l = .ok (d,c) ∧
      documentsOfActions ys baseUrl className storyKey pageUrl l = .ok (e,k) ∧ ValuesApart d e c k := by
  have left := documentsMasked xs baseUrl className storyKey pageUrl l
  have right := documentsMasked ys baseUrl className storyKey pageUrl l
  rw [Action.maskedAll same,right] at left
  cases first : documentsOfActions xs baseUrl className storyKey pageUrl l with
  | error f =>
    cases next : documentsOfActions ys baseUrl className storyKey pageUrl l with
    | error g =>
      rw [first,next] at left
      exact .inl ⟨f,rfl,left⟩
    | ok made =>
      rw [first,next] at left
      contradiction
  | ok made =>
    cases next : documentsOfActions ys baseUrl className storyKey pageUrl l with
    | error g =>
      rw [first,next] at left
      contradiction
    | ok other =>
      obtain ⟨d,c⟩ := made
      obtain ⟨e,k⟩ := other
      rw [first,next] at left
      obtain ⟨documents,context⟩ := Prod.mk.inj (Except.ok.inj left)
      obtain ⟨b,single⟩ := singleBlock first
      obtain ⟨b',alone⟩ := singleBlock next
      have page : e.page = d.page := congrArg (·.page) documents
      have steps : e.steps = d.steps := congrArg (·.steps) documents
      have specification : e.specification.masked = d.specification.masked := congrArg (·.specification) documents
      have notes : k.notes = c.notes := congrArg (·.notes) context
      refine .inr ⟨d,c,e,k,rfl,rfl,?_⟩
      exact {
        page := ⟨page.symm,by rw [page]⟩
        steps := ⟨steps.symm,by rw [steps]⟩
        accepted := (congrArg (·.accepted) context).symm
        skipped := by
          intro artifact
          rw [Context.skipped,Context.skipped,notes]
        specification := specification.symm
        text := Feature.textsAround single alone specification.symm }

def signIn (password : Text) : List Action := [
  .ofCall 0 (.navigate "/login"),
  .ofCall 1 (.act .fill "#password" (some password) (by decide)),
  .ofCall 2 (.act .click "#sign-in" none (by decide))]

def signInLayout : Layout where
  outputDir := "out"
  className := "Login"

theorem passwordStaysInTable : ∃ d c e k,
    documentsOfActions ((signIn "hunter2").map Action.resolve) .null "Login" (.text "K-1") (.text "/login") signInLayout =
      .ok (d,c) ∧
    documentsOfActions ((signIn "letmein").map Action.resolve) .null "Login" (.text "K-1") (.text "/login") signInLayout =
      .ok (e,k) ∧ ValuesApart d e c k := by
  have recorded : List.Forall₂ Action.SameButTyped (signIn "hunter2") (signIn "letmein") :=
    .cons (Action.sameSelf _) (.cons (Action.sameCalls 1 rfl _ _ _) (.cons (Action.sameSelf _) .nil))
  have same : List.Forall₂ Action.SameButTyped ((signIn "hunter2").map Action.resolve)
      ((signIn "letmein").map Action.resolve) := by
    rw [List.forall₂_map_left_iff,List.forall₂_map_right_iff]
    exact recorded.imp fun _ _ => Action.resolvedSame
  rcases typedStaysInTable same .null "Login" (.text "K-1") (.text "/login") signInLayout with ⟨f,failed,_⟩ | both
  · have path : Page.pathFor (Page.addressOf ((signIn "hunter2").map Action.resolve) (.text "/login")) .null =
        .ok (Text.ofString "/login") := by
      simp only [Page.addressOf]
      decide
    obtain ⟨d,c,ok⟩ := documentsOfActionsMade path
    rw [ok] at failed
    contradiction
  · exact both

end Generation

end TestWeaver
