import TestWeaver.Proofs.Steps.Handlers
import TestWeaver.Proofs.Generation.Documents

/-! The handlers of a requirement by the texts of its steps. A text has one handler, whose types are
those that its steps have by the words before them; the text of the background alone has a handler
before the steps are looked at, and keeps the type of that one. -/
namespace TestWeaver.Steps
open TestWeaver.Action Generation

def setBy (keyword : Text) : Option StepType :=
  if keyword.lower = "given" then some .given
  else if keyword.lower = "when" then some .when
  else if keyword.lower = "then" then some .then
  else none

def typeFrom (current : StepType) (steps : List Feature.Step) : StepType :=
  steps.foldl (fun type s => (setBy s.keyword).getD type) current

def effectiveType (steps : List Feature.Step) : StepType := typeFrom .given steps

def typedFrom (current : StepType) : List Feature.Step → List (Text × StepType)
  | [] => []
  | s :: rest => (s.text,(setBy s.keyword).getD current) :: typedFrom ((setBy s.keyword).getD current) rest

theorem typeOfSet (keyword : Text) : typeOf? keyword = setBy keyword := by
  have word : ∀ t u : Text, (t == u) = decide (u = t) := by
    intro t u
    rw [Bool.eq_iff_iff,beq_iff_eq,decide_eq_true_eq,eq_comm]
  simp only [typeOf?,StepType.ofName?,StepType.all,StepType.name,List.find?_cons,List.find?_nil,word,setBy]
  have given : (Text.ofString "when" = Text.ofString "given") = False := by decide
  have last : (Text.ofString "then" = Text.ofString "given") = False ∧
      (Text.ofString "then" = Text.ofString "when") = False := by decide
  by_cases first : keyword.lower = "given"
  · simp [first]
  · by_cases second : keyword.lower = "when"
    · simp [second,given]
    · by_cases third : keyword.lower = "then" <;> simp [first,second,third,last]

theorem memTypedFrom {current type : StepType} {steps : List Feature.Step} {text : Text} :
    (text,type) ∈ typedFrom current steps ↔
      ∃ before s after, steps = before ++ s :: after ∧ s.text = text ∧ typeFrom current (before ++ [s]) = type := by
  induction steps generalizing current with
  | nil => simp [typedFrom]
  | cons s rest ih =>
    rw [typedFrom,List.mem_cons,ih]
    constructor
    · rintro (here | ⟨before,t,after,rfl,same,own⟩)
      · cases here
        exact ⟨[],s,rest,rfl,rfl,rfl⟩
      · exact ⟨s :: before,t,after,rfl,same,own⟩
    · rintro ⟨before,t,after,whole,rfl,own⟩
      cases before with
      | nil =>
        cases whole
        exact .inl (by rw [← own]; rfl)
      | cons p before =>
        cases whole
        exact .inr ⟨before,t,after,rfl,rfl,own⟩

section uses
variable {uses : StepUses} {noted : List (Text × StepType)} {text : Text} {type : StepType}

structure Noted (noted : List (Text × StepType)) (uses : StepUses) : Prop where
  distinct : (uses.map (·.1)).Nodup
  used : ∀ text, text ∈ uses.map (·.1) ↔ ∃ type, (text,type) ∈ noted
  types : ∀ text types, (text,types) ∈ uses → ∀ type, type ∈ types ↔ (text,type) ∈ noted

theorem noteTexts (uses : StepUses) (text : Text) (type : StepType) : (uses.note text type).map (·.1) =
    if text ∈ uses.map (·.1) then uses.map (·.1) else uses.map (·.1) ++ [text] := by
  induction uses with
  | nil => rfl
  | cons use rest ih =>
    obtain ⟨t,types⟩ := use
    unfold StepUses.note
    by_cases here : t = text
    · simp [here]
    · have other : text ≠ t := fun same => here same.symm
      rw [if_neg here,List.map_cons,List.map_cons,ih]
      by_cases later : text ∈ rest.map (·.1)
      · rw [if_pos later,if_pos (List.mem_cons_of_mem _ later)]
      · rw [if_neg later,if_neg (by simp [other] at later ⊢; exact later),List.cons_append]

theorem noteEntry {t : Text} {types : List StepType} (distinct : (uses.map (·.1)).Nodup)
    (entry : (t,types) ∈ uses.note text type) :
    (t ≠ text ∧ (t,types) ∈ uses) ∨
    (t = text ∧ ∃ before, (before = [] ∧ text ∉ uses.map (·.1) ∨ (text,before) ∈ uses) ∧
      ∀ other, other ∈ types ↔ other ∈ before ∨ other = type) := by
  induction uses with
  | nil =>
    cases List.mem_singleton.mp entry
    exact .inr ⟨rfl,[],.inl ⟨rfl,by simp⟩,by simp⟩
  | cons use rest ih =>
    obtain ⟨u,before⟩ := use
    obtain ⟨apart,distinct⟩ := List.nodup_cons.mp distinct
    unfold StepUses.note at entry
    by_cases here : u = text
    · rw [if_pos here] at entry
      rcases List.mem_cons.mp entry with first | later
      · cases first
        refine .inr ⟨here,before,.inr (by rw [← here]; exact List.mem_cons_self),fun other => ?_⟩
        split
        · rename_i known
          refine ⟨.inl,fun either => either.elim id fun same => ?_⟩
          rw [same]
          exact List.contains_iff_mem.mp known
        · simp
      · -- a text has one entry, so a later one is not its own
        refine .inl ⟨?_,List.mem_cons_of_mem _ later⟩
        rintro rfl
        exact apart (here ▸ List.mem_map_of_mem (f := (·.1)) later)
    · rw [if_neg here] at entry
      rcases List.mem_cons.mp entry with first | later
      · cases first
        exact .inl ⟨here,List.mem_cons_self⟩
      · rcases ih distinct later with ⟨other,old⟩ | ⟨same,before,⟨rfl,new⟩ | old,grown⟩
        · exact .inl ⟨other,List.mem_cons_of_mem _ old⟩
        · refine .inr ⟨same,[],.inl ⟨rfl,?_⟩,grown⟩
          rw [List.map_cons,List.mem_cons,not_or]
          exact ⟨fun again => here again.symm,new⟩
        · exact .inr ⟨same,before,.inr (List.mem_cons_of_mem _ old),grown⟩

theorem notedStep (known : Noted noted uses) (text : Text) (type : StepType) :
    Noted (noted ++ [(text,type)]) (uses.note text type) where
  distinct := by
    rw [noteTexts]
    split
    · exact known.distinct
    · rename_i new
      refine List.nodup_append.mpr ⟨known.distinct,by simp,?_⟩
      rintro t old u own rfl
      exact new (List.mem_singleton.mp own ▸ old)
  used := by
    intro t
    have keys : t ∈ (uses.note text type).map (·.1) ↔ t ∈ uses.map (·.1) ∨ t = text := by
      rw [noteTexts]
      split
      · rename_i old
        exact ⟨.inl,fun either => either.elim id fun same => same ▸ old⟩
      · rw [List.mem_append,List.mem_singleton]
    rw [keys,known.used]
    constructor
    · rintro (⟨own,old⟩ | rfl)
      · exact ⟨own,List.mem_append_left _ old⟩
      · exact ⟨type,by simp⟩
    · rintro ⟨own,member⟩
      rcases List.mem_append.mp member with old | new
      · exact .inl ⟨own,old⟩
      · cases List.mem_singleton.mp new
        exact .inr rfl
  types := by
    intro t types entry own
    rw [List.mem_append,List.mem_singleton]
    rcases noteEntry known.distinct entry with ⟨other,old⟩ | ⟨rfl,before,known',grown⟩
    · rw [known.types t types old own]
      exact ⟨.inl,fun either => either.elim id fun same => absurd (congrArg Prod.fst same) other⟩
    · have earlier : own ∈ before ↔ (t,own) ∈ noted := by
        rcases known' with ⟨rfl,new⟩ | old
        · refine ⟨by simp,fun member => absurd ((known.used t).mpr ⟨own,member⟩) new⟩
        · exact known.types t before old own
      rw [grown,earlier]
      simp

theorem notedAll (known : Noted noted uses) (more : List (Text × StepType)) :
    Noted (noted ++ more) (more.foldl (fun uses p => uses.note p.1 p.2) uses) := by
  induction more generalizing noted uses with
  | nil => simpa using known
  | cons p more ih => simpa using ih (notedStep known p.1 p.2)

theorem noteScenarioTyped (uses : StepUses) (current : StepType) (steps : List Text) : uses.noteScenario current steps =
    (typedFrom current (steps.map Feature.Step.ofText)).foldl (fun uses p => uses.note p.1 p.2) uses := by
  induction steps generalizing uses current with
  | nil => rfl
  | cons step rest ih =>
    simp only [StepUses.noteScenario,typeOfSet,ih]
    rfl

def typedSteps (r : Requirement) : List (Text × StepType) :=
  r.scenarios.flatMap fun s => typedFrom .given (Feature.Block.ofScenario s).steps

theorem usesNoted (r : Requirement) : Noted (typedSteps r) (usesOf r) := by
  have start : Noted [] [] := ⟨List.nodup_nil,by simp,by simp⟩
  have all : usesOf r = (typedSteps r).foldl (fun (uses : StepUses) p => uses.note p.1 p.2) [] := by
    rw [typedSteps,List.foldl_flatMap,usesOf]
    congr 1
    funext uses s
    exact noteScenarioTyped uses .given s.steps
  rw [all]
  exact notedAll start (typedSteps r)

end uses

def keyed (h : Handler) : Text × List StepType := (h.pattern,h.types)

def handlersFor (m : Module) (text : Text) : List Handler := m.handlers.filter (·.pattern == text)

def useKey (use : Text × List StepType) : Text × List StepType := (use.1,StepType.all.filter use.2.contains)

theorem handlerOfKeyed (named : List (Text × Action)) (taken : List Text) (use : Text × List StepType) :
    keyed (handlerOf named taken use.1 use.2) = useKey use := by
  unfold handlerOf
  split
  · rfl
  · split <;> rfl

theorem addUsesKeyed {uses : StepUses} (distinct : (uses.map (·.1)).Nodup) (m : Module) (c : Context)
    (named : List (Text × Action)) : (m.addUses c named uses).1.handlers.map keyed =
      m.handlers.map keyed ++ (uses.filter (·.1 ∉ c.seen .glue .step)).map useKey := by
  induction uses generalizing m c with
  | nil => simp [Module.addUses]
  | cons use rest ih =>
    obtain ⟨text,types⟩ := use
    obtain ⟨apart,distinct⟩ := List.nodup_cons.mp distinct
    unfold Module.addUses
    by_cases seen : text ∈ c.seen .glue .step
    · simp only [Context.emitSeen seen]
      rw [if_neg (by decide),ih distinct,List.filter_cons_of_neg (by simpa using seen)]
      rfl
    · -- A text that is let through is seen from there on, and no later use has it.
      have later : rest.filter (·.1 ∉ (c.emit .glue .step text).2.seen .glue .step) =
          rest.filter (·.1 ∉ c.seen .glue .step) := by
        refine List.filter_congr fun use member => ?_
        have other : use.1 ≠ text := fun same => apart (same ▸ List.mem_map_of_mem (f := (·.1)) member)
        have grown : (c.emit .glue .step text).2.seen .glue .step = c.seen .glue .step ++ [text] := by
          rw [Context.emitFresh seen,Context.seenGrown rfl]
          rfl
        simp [grown,other]
      rw [Context.emitFresh seen] at later
      simp only [Context.emitFresh seen]
      rw [if_pos trivial,ih distinct,later,List.filter_cons_of_pos (by simpa using seen),List.map_cons,Module.add,
        List.map_append,List.map_singleton,handlerOfKeyed named m.taken (text,types),List.append_assoc]
      rfl

theorem handlerAlone {handlers : List Handler} {h : Handler} (apart : (handlers.map (·.pattern)).Nodup)
    (member : h ∈ handlers) : handlers.filter (·.pattern == h.pattern) = [h] := by
  induction handlers with
  | nil => contradiction
  | cons g rest ih =>
    obtain ⟨other,apart⟩ := List.nodup_cons.mp apart
    rcases List.mem_cons.mp member with rfl | later
    · have none : rest.filter (·.pattern == h.pattern) = [] := by
        rw [List.filter_eq_nil_iff]
        intro k listed same
        exact other (List.mem_map.mpr ⟨k,listed,beq_iff_eq.mp same⟩)
      rw [List.filter_cons,beq_self_eq_true,if_pos rfl,none]
    · have apartOwn : (g.pattern == h.pattern) = false := by
        rw [beq_eq_false_iff_ne]
        intro same
        exact other (List.mem_map.mpr ⟨h,later,same.symm⟩)
      rw [List.filter_cons,apartOwn,if_neg Bool.false_ne_true,ih apart later]

def UsedAs (d : Feature.Document) (text : Text) (type : StepType) : Prop :=
  ∃ b ∈ d.blocks, ∃ before s after,
    b.steps = before ++ s :: after ∧ s.text = text ∧ effectiveType (before ++ [s]) = type

/- Every text of a feature has one handler. It is of the types that the text is used as, but for
the text of the background, whose handler is given. -/
structure StepsBound (r : Requirement) (d : Documents) : Prop where
  blocks : d.specification.blocks = r.scenarios.map Feature.Block.ofScenario
  background : d.specification.precondition = some ⟨"Given",Feature.preconditionText r.name,none⟩
  opening : ∃ h, handlersFor d.steps (Feature.preconditionText r.name) = [h] ∧ h.types = [.given]
  bound : ∀ text type, UsedAs d.specification text type → ∃ h, handlersFor d.steps text = [h] ∧
    (text ≠ Feature.preconditionText r.name → type ∈ h.types)
  types : ∀ h ∈ d.steps.handlers, h.pattern ≠ Feature.preconditionText r.name →
    ∀ type, type ∈ h.types ↔ UsedAs d.specification h.pattern type

section requirement
variable {r : Requirement} {d : Documents} {text : Text} {type : StepType}

theorem usedAsTyped (blocks : d.specification.blocks = r.scenarios.map Feature.Block.ofScenario) :
    UsedAs d.specification text type ↔ (text,type) ∈ typedSteps r := by
  rw [UsedAs,typedSteps,List.mem_flatMap,blocks]
  constructor
  · rintro ⟨b,listed,place⟩
    obtain ⟨s,member,rfl⟩ := List.mem_map.mp listed
    exact ⟨s,member,memTypedFrom.mpr place⟩
  · rintro ⟨s,member,place⟩
    exact ⟨_,List.mem_map_of_mem member,memTypedFrom.mp place⟩

theorem ofRequirementKeyed {c : Context} {actions : List Action} {l : Layout} (unseen : c.seen .glue .step = []) :
    (Module.ofRequirement c r actions l).1.handlers.map keyed =
      (Feature.preconditionText l.className,[.given]) ::
        ((usesOf r).filter (·.1 ≠ Feature.preconditionText l.className)).map useKey := by
  rw [Module.ofRequirement,addUsesKeyed (usesNoted r).distinct,startSeen unseen l]
  simp only [List.mem_singleton]
  rfl

theorem useKeyType {use : Text × List StepType} : type ∈ (useKey use).2 ↔ type ∈ use.2 := by
  have every : type ∈ StepType.all := by cases type <;> decide
  simp [useKey,every]

section keys
variable {uses : StepUses} {opening : Text}

theorem keyFound {key : Text × List StepType} (member : key ∈ d.steps.handlers.map keyed) :
    ∃ h ∈ d.steps.handlers, h.pattern = key.1 ∧ h.types = key.2 := by
  obtain ⟨h,listed,rfl⟩ := List.mem_map.mp member
  exact ⟨h,listed,rfl,rfl⟩

theorem textsApart (distinct : (uses.map (·.1)).Nodup)
    (keys : d.steps.handlers.map keyed = (opening,[.given]) :: (uses.filter (·.1 ≠ opening)).map useKey) :
    (d.steps.handlers.map (·.pattern)).Nodup := by
  have patterns : d.steps.handlers.map (·.pattern) = opening :: (uses.map (·.1)).filter (· ≠ opening) := by
    have own : d.steps.handlers.map (·.pattern) = (d.steps.handlers.map keyed).map (·.1) := by
      rw [List.map_map]
      rfl
    rw [own,keys,List.map_cons,List.map_map,List.filter_map]
    rfl
  rw [patterns,List.nodup_cons]
  exact ⟨fun again => by simpa using (List.mem_filter.mp again).2,distinct.filter _⟩

theorem textHandled
    (keys : d.steps.handlers.map keyed = (opening,[.given]) :: (uses.filter (·.1 ≠ opening)).map useKey)
    (used : text ∈ uses.map (·.1)) : ∃ h ∈ d.steps.handlers, h.pattern = text := by
  obtain ⟨use,listed,rfl⟩ := List.mem_map.mp used
  have key : ∃ types, (use.1,types) ∈ d.steps.handlers.map keyed := by
    rw [keys]
    by_cases same : use.1 = opening
    · rw [same]
      exact ⟨_,List.mem_cons_self⟩
    · have kept : use ∈ uses.filter (·.1 ≠ opening) := List.mem_filter.mpr ⟨listed,by simpa using same⟩
      exact ⟨_,List.mem_cons_of_mem _ (List.mem_map_of_mem kept)⟩
  obtain ⟨types,member⟩ := key
  obtain ⟨h,inside,pattern,_⟩ := keyFound member
  exact ⟨h,inside,pattern⟩

theorem typesUsed {typed : List (Text × StepType)} {h : Handler} (known : Noted typed uses)
    (keys : d.steps.handlers.map keyed = (opening,[.given]) :: (uses.filter (·.1 ≠ opening)).map useKey)
    (listed : h ∈ d.steps.handlers) (other : h.pattern ≠ opening) : type ∈ h.types ↔ (h.pattern,type) ∈ typed := by
  have member : keyed h ∈ (opening,[.given]) :: (uses.filter (·.1 ≠ opening)).map useKey :=
    keys ▸ List.mem_map_of_mem listed
  rcases List.mem_cons.mp member with here | later
  · exact absurd (congrArg Prod.fst here) other
  · obtain ⟨use,kept,same⟩ := List.mem_map.mp later
    have pattern : h.pattern = use.1 := (congrArg Prod.fst same).symm
    have types : h.types = (useKey use).2 := (congrArg Prod.snd same).symm
    rw [pattern,types,useKeyType]
    exact known.types use.1 use.2 (List.mem_filter.mp kept).1 type

end keys

theorem requirementBound {baseUrl storyKey pageUrl : Value} {l : Layout} {c : Context}
    (ok : documentsOfRequirement r ((Requirement.actions r pageUrl).map resolve) baseUrl r.name storyKey pageUrl
      { l with className := r.name } = .ok (d,c)) : StepsBound r d := by
  obtain ⟨c₀,c₁,ready,specification,steps⟩ :=
    documentsOfRequirementOk Page.namedAll (Page.numberedResolve (Requirement.numberedActions r pageUrl)) ok
  have document : d.specification = (Feature.Document.ofRequirement c₀ r r.name storyKey).1 ∧
      c₁ = (Feature.Document.ofRequirement c₀ r r.name storyKey).2 := by
    rw [specification]
    exact ⟨rfl,rfl⟩
  have blocks : d.specification.blocks = r.scenarios.map Feature.Block.ofScenario := by
    rw [document.1]
    rfl
  have unseen : c₁.seen .glue .step = [] := by
    rw [document.2,Feature.Document.ofRequirement,(Context.emitOnly c₀ .specification .step _).others .glue .step (by decide)]
    exact ready.unseen .glue .step (by decide)
  have known := usesNoted r
  have keys := @ofRequirementKeyed r c₁ ((Requirement.actions r pageUrl).map resolve) { l with className := r.name } unseen
  rw [steps] at keys
  have apart := textsApart known.distinct keys
  have alone : ∀ h ∈ d.steps.handlers, handlersFor d.steps h.pattern = [h] := fun h => handlerAlone apart
  have types : ∀ h ∈ d.steps.handlers, h.pattern ≠ Feature.preconditionText r.name →
      ∀ type, type ∈ h.types ↔ UsedAs d.specification h.pattern type := by
    intro h listed other type
    rw [usedAsTyped blocks]
    exact typesUsed known keys listed other
  exact {
    blocks
    background := by
      rw [document.1]
      rfl
    opening := by
      obtain ⟨h,listed,pattern,given⟩ := keyFound (keys ▸ List.mem_cons_self)
      have own := alone h listed
      rw [pattern] at own
      exact ⟨h,own,given⟩
    bound := by
      intro text type used
      have noted : text ∈ (usesOf r).map (·.1) := (known.used text).mpr ⟨type,(usedAsTyped blocks).mp used⟩
      obtain ⟨h,listed,rfl⟩ := textHandled keys noted
      exact ⟨h,alone h listed,fun other => (types h listed other type).mpr used⟩
    types }

end requirement

theorem requirementTyped (r : Requirement) (baseUrl storyKey pageUrl : Value) (l : Layout) :
    (∃ f, Page.pathFor (Page.addressOf ((Requirement.actions r pageUrl).map resolve) pageUrl) baseUrl = .error f ∧
      documentsOfRequirement r ((Requirement.actions r pageUrl).map resolve) baseUrl r.name storyKey pageUrl
        { l with className := r.name } = .error f) ∨
    ∃ d c, documentsOfRequirement r ((Requirement.actions r pageUrl).map resolve) baseUrl r.name storyKey pageUrl
        { l with className := r.name } = .ok (d,c) ∧ StepsBound r d := by
  refine (documentsOfRequirementEnd r ((Requirement.actions r pageUrl).map resolve) baseUrl r.name storyKey pageUrl
    { l with className := r.name }).imp_right ?_
  rintro ⟨d,c,ok⟩
  exact ⟨d,c,ok,requirementBound ok⟩

def arrivingRequirement : Requirement where
  name := "Login"
  scenarios := [⟨"s",["When user navigates to Login page"]⟩]

theorem arrivalStaysGiven : ∃ d c, documentsOfRequirement arrivingRequirement
      ((Requirement.actions arrivingRequirement (.text "/login")).map resolve) (.text []) "Login" (.text "K-1")
      (.text "/login") { outputDir := "output", className := "Login" } = .ok (d,c) ∧
    UsedAs d.specification "user navigates to Login page" .when ∧
    (handlersFor d.steps "user navigates to Login page").map (·.types) = [[.given]] := by
  have path : Page.pathFor (Page.addressOf ((Requirement.actions arrivingRequirement (.text "/login")).map resolve)
      (.text "/login")) (.text []) = .ok (Text.ofString "/login") := by
    simp only [Page.addressOf]
    decide
  rw [documentsOfRequirement,Page.buildOnPath,path]
  refine ⟨_,_,rfl,⟨_,List.mem_singleton.mpr rfl,[],⟨"When","user navigates to Login page",none⟩,[],?_,rfl,?_⟩,?_⟩
  · decide +kernel
  · decide
  · decide +kernel

end TestWeaver.Steps
