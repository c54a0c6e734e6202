import TestWeaver.Proofs.Generation.Documents
import TestWeaver.Proofs.Text.Arguments

/-! The calls of the handlers against the methods of the page. Methods are declared or dropped
by their names and handlers are made for actions; both go through the registry of one context,
so every call finds its method, with as many arguments as the method needs. -/
namespace TestWeaver.Steps
open TestWeaver.Action Page Generation

def argumentsOf : Kind → Nat
  | .fill | .select => 1
  | .navigate | .click | .check | .press => 0

def required (m : MethodSource) : Nat :=
  match (primitive? m.kind).bind (·.parameter), m.default with
  | some _, none => 1
  | _, _ => 0

structure Fits (m : Method) (h : Handler) : Prop where
  called : ∃ passed, h.source.body = .call m.name passed ∧ Text.countArguments passed = some (argumentsOf m.kind)
  needed : required m.source = argumentsOf m.kind
  keyed : m.kind = .press → m.source.default.isSome

structure CallsMethods (d : Documents) : Prop where
  names : (d.page.methods.map (·.name)).Nodup
  fits : ∀ h ∈ d.steps.handlers, ∀ name, h.method = some name → ∃ m ∈ d.page.methods, m.name = name ∧ Fits m h

section methods
variable {a : Action}

theorem literalGiven {v : Value} (other : v ≠ .null) : (literal? v).isSome := by
  cases v with
  | null => contradiction
  | _ => rfl

theorem orElseGiven (v : Value) (t : Text) : v.orElse (.text t) ≠ .null := by
  unfold Value.orElse
  split
  · rename_i given
    intro null
    rw [null] at given
    contradiction
  · simp

theorem neededOf (element : a.isNavigation = false) (constant : Text) :
    required (methodOf a constant).source = argumentsOf a.kind ∧
    (a.kind = .press → (methodOf a constant).source.default.isSome) := by
  have keyed : a.kind = .press → (methodOf a constant).source.default.isSome := by
    intro press
    simp only [Method.source,methodOf,press,if_true]
    exact literalGiven (orElseGiven a.value defaultKey)
  refine ⟨?_,keyed⟩
  unfold required
  cases kind : a.kind with
  | navigate => simp [isNavigation,kind] at element
  | press =>
    obtain ⟨key,default⟩ := Option.isSome_iff_exists.mp (keyed kind)
    have source : (methodOf a constant).source.kind = .press := kind
    rw [default,source]
    rfl
  | click | fill | select | check =>
    simp [methodOf,Method.source,kind,primitive?,argumentsOf,literal?]

theorem methodFull (named : a.Named) : a.names.method ≠ [] := by
  have fill : ∀ t, Naming.fillMethod t ≠ [] := by
    intro t
    unfold Naming.fillMethod
    simp only
    repeat' split
    all_goals simp [Text.ofString]
  have check : ∀ t, Naming.checkMethod t ≠ [] := by
    intro t
    unfold Naming.checkMethod
    simp only
    split <;> simp [Text.ofString]
  rw [named]
  simp only [Naming.names,Naming.method]
  cases a.kind with
  | fill => exact fill _
  | check => exact check _
  | navigate | click | select | press => simp [Naming.navigationMethod,Text.ofString]

end methods

section handlers
variable {h : Handler} {m : Method} {a : Action}

theorem calledBody {name : Text} (full : name ≠ []) (method : h.method = some name) :
    h.source.body = .call name (passed (given? h.parameter) h.argument) := by
  have given : given? (some name) = some name := by
    cases name with
    | nil => contradiction
    | cons p t => rfl
  simp only [Handler.source,method,given]

theorem fitsEntry (name : m.name = Naming.navigationMethod) (kind : m.kind = .navigate)
    (method : h.method = some Naming.navigationMethod) (parameter : h.parameter = none)
    (argument : h.argument = .null) : Fits m h where
  called := by
    refine ⟨_,by rw [name]; exact calledBody (by decide) method,?_⟩
    rw [parameter,argument,kind]
    rfl
  needed := by
    simp only [required,Method.source,kind,primitive?]
    rfl
  keyed press := by simp [kind] at press

theorem fitsBinds (binds : Binds a h) (named : a.Named) (element : a.isNavigation = false) (constant : Text) :
    Fits (methodOf a constant) h where
  called := by
    refine ⟨_,calledBody (methodFull named) binds.method,?_⟩
    rw [binds.parameter,binds.argument]
    cases kind : a.kind with
    | navigate => simp [isNavigation,kind] at element
    | fill | select | click | check | press => simp only [patternOf,methodOf,kind]; decide
  needed := (neededOf element constant).1
  keyed := (neededOf element constant).2

theorem fitsHandler {named : List (Text × Action)} {taken : List Text} {text : Text} {types : List StepType}
    (arrival : isArrival text.lower = false) (found : actionFor? named text = some a) (resolved : a.Named)
    (element : a.isNavigation = false) (value : a.kind.isParameterized → ∃ t, a.value = .text t) (constant : Text) :
    Fits (methodOf a constant) (handlerOf named taken text types) where
  called := by
    have argument : (handlerOf named taken text types).argument =
        if a.kind.isParameterized then a.value.orElse (.text []) else .null := by
      simp [handlerOf,arrival,found]
    have parameter : (handlerOf named taken text types).parameter = none := by simp [handlerOf,arrival,found]
    have method : (handlerOf named taken text types).method = some a.names.method := by
      simp [handlerOf,arrival,found]
    refine ⟨_,calledBody (methodFull resolved) method,?_⟩
    rw [parameter,argument]
    cases given : a.kind.isParameterized with
    | false =>
      have none : argumentsOf a.kind = 0 := by
        cases kind : a.kind <;> simp [kind,Kind.isParameterized] at given <;> rfl
      simp only [methodOf,none]
      rfl
    | true =>
      have one : argumentsOf a.kind = 1 := by
        cases kind : a.kind <;> simp [kind,Kind.isParameterized] at given <;> rfl
      obtain ⟨t,recorded⟩ := value given
      have literal : ∃ u, a.value.orElse (.text []) = .text u := by
        rw [recorded,Value.orElse]
        split
        · exact ⟨t,rfl⟩
        · exact ⟨[],rfl⟩
      obtain ⟨u,literal⟩ := literal
      rw [if_pos rfl,literal]
      simp only [methodOf,one]
      exact Text.countQuoted u
  needed := (neededOf element constant).1
  keyed := (neededOf element constant).2

end handlers

section requirement
variable {c : Context} {r : Requirement} {actions : List Action} {named : List (Text × Action)}

theorem addUsesHandlers {m : Module} {uses : StepUses} : ∀ h ∈ (m.addUses c named uses).1.handlers,
    h ∈ m.handlers ∨ ∃ taken text types, (text,types) ∈ uses ∧ h = handlerOf named taken text types := by
  induction uses generalizing m c with
  | nil => exact fun h member => .inl member
  | cons use rest ih =>
    obtain ⟨text,types⟩ := use
    intro h member
    unfold Module.addUses at member
    dsimp only at member
    split at member
    · rcases ih h member with old | ⟨taken,text,types,use,made⟩
      · rcases List.mem_append.mp old with before | last
        · exact .inl before
        · exact .inr ⟨_,_,_,List.mem_cons_self,List.mem_singleton.mp last⟩
      · exact .inr ⟨taken,text,types,List.mem_cons_of_mem _ use,made⟩
    · rcases ih h member with old | ⟨taken,text,types,use,made⟩
      · exact .inl old
      · exact .inr ⟨taken,text,types,List.mem_cons_of_mem _ use,made⟩

theorem elementActionsShown {name : Text} {a : Action} (member : (name,a) ∈ elementActions c r actions) :
    a ∈ c.shown (inOrder actions) := by
  unfold elementActions at member
  rw [List.mem_mergeSort] at member
  obtain ⟨⟨e,b⟩,kept,same⟩ := List.mem_map.mp member
  obtain ⟨pair,declared⟩ := List.mem_filter.mp kept
  cases same
  have element := (List.of_mem_zip pair).2
  simp only [List.mem_filter] at element
  exact List.mem_filter.mpr ⟨element.1,by simpa [element.2] using declared⟩

theorem actionForMember {text : Text} {a : Action} (found : actionFor? named text = some a) :
    ∃ name, (name,a) ∈ named := by
  obtain ⟨⟨name,b⟩,first,same⟩ := Option.map_eq_some_iff.mp found
  cases same
  exact ⟨name,List.mem_of_find?_eq_some first⟩

end requirement

theorem sampleText {given : Nat} {elements : List Element} : ∀ a ∈ Requirement.actionsFrom given elements,
    a.kind.isParameterized → ∃ t, a.value = .text t := by
  induction elements generalizing given with
  | nil => simp [Requirement.actionsFrom]
  | cons e rest ih =>
    intro a member parameterized
    rcases List.mem_cons.mp member with rfl | later
    · simp only [Requirement.actionOf,Requirement.sampleValue]
      cases interaction : e.interaction with
      | type | select | press => exact ⟨_,rfl⟩
      | click | check =>
        simp [Requirement.actionOf,Requirement.kindOf,interaction,Kind.isParameterized] at parameterized
    · exact ih a later parameterized

section documents
variable {baseUrl : Value} {className : Text} {storyKey pageUrl : Value} {l : Layout} {d : Documents} {c : Context}

theorem opensFits {page : Page.Module} {actions : List Action} {before : Context} (ready : Ready actions page before)
    {h : Handler} (opens : Opens l h) : ∃ m ∈ page.methods, m.name = Naming.navigationMethod ∧ Fits m h := by
  obtain ⟨m,member,name,kind⟩ := ready.entry
  exact ⟨m,member,name,fitsEntry name kind opens.method opens.parameter opens.argument⟩

theorem actionsCallMethods {actions : List Action} (named : ∀ a ∈ actions, a.Named) (numbered : Numbered actions)
    (ok : documentsOfActions actions baseUrl className storyKey pageUrl l = .ok (d,c)) : CallsMethods d := by
  obtain ⟨c₀,ready,shows⟩ := documentsOfActionsOk named numbered ok
  obtain ⟨opening,hs,closing,handlers,opens,binds,closes⟩ := shows.handlers
  refine ⟨ready.names,?_⟩
  intro h member name method
  rw [handlers,List.mem_append,List.mem_cons,List.mem_singleton] at member
  rcases member with (rfl | bound) | rfl
  · rw [opens.method] at method
    cases method
    exact opensFits ready opens
  · obtain ⟨a,first,binds⟩ := leftRelated binds h bound
    have shown := (firstsSublist _ _).subset first
    obtain ⟨_,element,resolved⟩ := ready.known a shown
    obtain ⟨constant,declared⟩ := ready.methods a shown
    rw [binds.method] at method
    cases method
    exact ⟨_,declared,rfl,fitsBinds binds resolved element constant⟩
  · rw [closes.method] at method
    contradiction

theorem handlerOfFits {page : Page.Module} {actions : List Action} {before : Context}
    (ready : Ready actions page before)
    {pairs : List (Text × Action)} (among : ∀ name a, (name,a) ∈ pairs → a ∈ before.shown (inOrder actions))
    (values : ∀ a ∈ actions, a.kind.isParameterized → ∃ t, a.value = .text t) {taken : List Text} {text : Text}
    {types : List StepType} {name : Text} (method : (handlerOf pairs taken text types).method = some name) :
    ∃ m ∈ page.methods, m.name = name ∧ Fits m (handlerOf pairs taken text types) := by
  cases arrival : isArrival text.lower with
  | true =>
    obtain ⟨m,declared,entry,kind⟩ := ready.entry
    have arrives : (handlerOf pairs taken text types).method = some Naming.navigationMethod := by
      simp [handlerOf,arrival]
    rw [arrives] at method
    cases method
    exact ⟨m,declared,entry,fitsEntry entry kind arrives (by simp [handlerOf,arrival]) (by simp [handlerOf,arrival])⟩
  | false =>
    cases found : actionFor? pairs text with
    | none => simp [handlerOf,arrival,found] at method
    | some a =>
      obtain ⟨key,pair⟩ := actionForMember found
      obtain ⟨inside,element,resolved⟩ := ready.known a (among key a pair)
      obtain ⟨constant,declared⟩ := ready.methods a (among key a pair)
      have owner : name = a.names.method := by simpa [handlerOf,arrival,found] using method.symm
      exact ⟨_,declared,owner.symm,fitsHandler arrival found resolved element (values a inside) constant⟩

theorem requirementCallsMethods {r : Requirement} {address : Value}
    (ok : documentsOfRequirement r ((Requirement.actions r address).map resolve) baseUrl className storyKey pageUrl l
      = .ok (d,c)) : CallsMethods d := by
  obtain ⟨c₀,c₁,ready,specification,steps⟩ :=
    documentsOfRequirementOk namedAll (numberedResolve (Requirement.numberedActions r address)) ok
  have values : ∀ a ∈ (Requirement.actions r address).map resolve, a.kind.isParameterized →
      ∃ t, a.value = .text t := by
    intro a member given
    obtain ⟨b,inside,rfl⟩ := List.mem_map.mp member
    rcases List.mem_cons.mp inside with rfl | later
    · contradiction
    · exact sampleText b later given
  generalize (Requirement.actions r address).map resolve = actions at *
  have only := Feature.ofRequirementOnly c₀ r className storyKey
  rw [specification] at only
  have same : (Module.start c₁ l).2.shown (inOrder actions) = c₀.shown (inOrder actions) :=
    (Context.onlyAtShown (startOnly c₁ l) _).trans (Context.onlyAtShown only _)
  obtain ⟨opening,starts,opens⟩ := startOpens c₁ l
  refine ⟨ready.names,?_⟩
  intro h member name method
  have handlers : (Module.ofRequirement c₁ r actions l).1.handlers = d.steps.handlers := by rw [steps]
  rw [← handlers] at member
  rcases addUsesHandlers h member with old | ⟨taken,text,types,_,rfl⟩
  · have first : h ∈ (Module.start c₁ l).1.handlers := old
    rw [starts,List.mem_singleton] at first
    rw [first,opens.method] at method
    cases method
    rw [first]
    exact opensFits ready opens
  · refine handlerOfFits ready (fun key a pair => ?_) values method
    rw [← same]
    exact elementActionsShown pair

theorem handlersCallMethods (baseUrl : Value) (className : Text) (storyKey pageUrl : Value) (l : Layout) :
    (∀ table recording d c,
      documentsOfActions ((Recording.Transcript.ofText table recording).actions.map resolve) baseUrl className
        storyKey pageUrl l = .ok (d,c) → CallsMethods d) ∧
    (∀ r address d c,
      documentsOfRequirement r ((Requirement.actions r address).map resolve) baseUrl className
        storyKey pageUrl l = .ok (d,c) → CallsMethods d) := by
  constructor
  · intro table recording d c ok
    exact actionsCallMethods namedAll (numberedResolve (Recording.numberedTranscript _)) ok
  · intro r address d c ok
    exact requirementCallsMethods ok

end documents

def loginRecording : Text :=
  "goto('/login')\nfill('#user', 'ann')\npress('#user', 'Tab')\nfill('#user', 'bob')\nclick('#go')"

def loginRequirement : Requirement where
  name := "Login"
  elements := [⟨"user name",.type,[]⟩,⟨"submit",.click,[]⟩,⟨"user name",.type,[]⟩]
  scenarios := [⟨"signs in",["Given user is on login page","When user fills User Name","And clicks submit",
    "Then it works"]⟩]

def loginLayout : Layout where
  outputDir := "out"
  className := "Login"

theorem loginCallsMethods :
    (∃ d c, documentsOfActions
      ((Recording.Transcript.ofText Recording.defaultShapes loginRecording).actions.map resolve)
      (.text []) "Login" (.text "K-1") (.text "/login") loginLayout = .ok (d,c) ∧ CallsMethods d) ∧
    (∃ d c, documentsOfRequirement loginRequirement
      ((Requirement.actions loginRequirement (.text "/login")).map resolve)
      (.text []) "Login" (.text "K-1") (.text "/login") loginLayout = .ok (d,c) ∧ CallsMethods d) := by
  have both := handlersCallMethods (.text []) "Login" (.text "K-1") (.text "/login") loginLayout
  have path : ∀ actions, pathFor (addressOf actions (.text "/login")) (.text []) = .ok (Text.ofString "/login") := by
    intro actions
    simp only [addressOf]
    decide
  constructor
  · obtain ⟨d,c,ok⟩ := documentsOfActionsMade (path _)
    exact ⟨d,c,ok,both.1 _ _ _ _ ok⟩
  · obtain ⟨d,c,ok⟩ := documentsOfRequirementMade (path _)
    exact ⟨d,c,ok,both.2 _ _ _ _ ok⟩

end TestWeaver.Steps
