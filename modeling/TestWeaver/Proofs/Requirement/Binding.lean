import TestWeaver.Proofs.Generation.Balance
import TestWeaver.Proofs.Requirement.Elements

/-! The elements of a story through the three documents: from an element to its selector, to its
method, to the action that the steps find by the words of a line. No gate drops an action, as
the actions of elements differ in every key, and a line finds the action of its own element. -/
namespace TestWeaver

namespace Requirement
open TestWeaver.Action

def StandsFor (e : Element) (a : Action) : Prop := ∃ given, a = (actionOf given e).resolve

def standIns (r : Requirement) : List Action := (actionsFrom 1 r.elements).map resolve

section actions
variable {r : Requirement} {pageUrl : Value} {e : Element} {a : Action} {elements : List Element} {owners : List Action}

theorem actionsStand (given : Nat) (elements : List Element) :
    List.Forall₂ StandsFor elements ((actionsFrom given elements).map resolve) := by
  induction elements generalizing given with
  | nil => exact .nil
  | cons e rest ih => exact .cons ⟨given,rfl⟩ (ih (given + 1))

theorem standsElement (stands : StandsFor e a) : a.isNavigation = false := by
  obtain ⟨given,rfl⟩ := stands
  simpa [isNavigation,resolve,actionOf] using kindOf_ne_navigate e.interaction

theorem standsNamed (stands : StandsFor e a) (member : e ∈ known) : a.methodName = gestureName e := by
  obtain ⟨given,rfl⟩ := stands
  exact gestureNamed member given

theorem standTargets (stand : List.Forall₂ StandsFor elements owners) : owners.map target = elements.map selectorOf := by
  induction stand with
  | nil => rfl
  | @cons e a elements owners here _ ih =>
    obtain ⟨given,rfl⟩ := here
    rw [List.map_cons,List.map_cons,ih]
    rfl

theorem standNames (stand : List.Forall₂ StandsFor elements owners) (all : ∀ e ∈ elements, e ∈ known) :
    owners.map methodName = elements.map gestureName := by
  induction stand with
  | nil => rfl
  | @cons e a elements owners here _ ih =>
    obtain ⟨first,rest⟩ := List.forall_mem_cons.mp all
    rw [List.map_cons,List.map_cons,ih rest,standsNamed here first]

theorem zipStands (stand : List.Forall₂ StandsFor elements owners) (member : e ∈ elements) :
    ∃ a, (e,a) ∈ elements.zip owners := by
  induction stand with
  | nil => contradiction
  | @cons f a _ _ _ _ ih =>
    rcases List.mem_cons.mp member with rfl | later
    · exact ⟨a,List.mem_cons_self⟩
    · obtain ⟨b,inside⟩ := ih later
      exact ⟨b,List.mem_cons_of_mem _ inside⟩

theorem actionsOrdered (r : Requirement) (pageUrl : Value) :
    inOrder ((actions r pageUrl).map resolve) = (actions r pageUrl).map resolve := by
  have ids : (actions r pageUrl).map (·.id) = (List.range' 1 (r.elements.length + 1)).map .whole := by
    rw [actions,List.map_cons,idsFrom,List.range'_succ,List.map_cons]
    rfl
  have ascending : ((List.range' 1 (r.elements.length + 1)).map Ordinal.whole).Pairwise fun o p => o.le p := by
    have order : (List.range' 1 (r.elements.length + 1)).Pairwise (· < ·) := List.pairwise_lt_range'
    refine List.pairwise_map.mpr (order.imp ?_)
    intro m n less
    simpa [Ordinal.le,Ordinal.ratio?] using Nat.le_of_lt less
  rw [← ids] at ascending
  exact List.mergeSort_of_pairwise (List.pairwise_map.mpr (List.pairwise_map.mp ascending))

theorem standInElement (member : a ∈ standIns r) : a.isNavigation = false := by
  obtain ⟨e,_,stands⟩ := leftRelated (actionsStand 1 r.elements) a member
  exact standsElement stands

theorem actionsElements (r : Requirement) (pageUrl : Value) :
    onElements ((actions r pageUrl).map resolve) = standIns r := by
  have all : onElements (standIns r) = standIns r :=
    List.filter_eq_self.mpr fun a member => by rw [standInElement member]; rfl
  exact all

theorem actionsNavigations : ((actions r pageUrl).map resolve).filter isNavigation = [(navigation pageUrl).resolve] := by
  have none : (standIns r).filter isNavigation = [] :=
    List.filter_eq_nil_iff.mpr fun a member => by rw [standInElement member]; exact Bool.false_ne_true
  exact congrArg (List.cons _) none

end actions
end Requirement

namespace Page
open TestWeaver.Action
variable {key : Action → Text} {actions : List Action}

theorem lowestAll (apart : (actions.map key).Nodup) : lowest key actions = inOrder actions := by
  refine List.filter_eq_self.mpr fun a member => lowestIff.mpr fun b inside same => ?_
  rw [List.inj_on_of_nodup_map apart inside (memInOrder.mp member) same]
  simpa using Ordinal.leTotal a.id a.id

end Page

namespace Requirement
open TestWeaver.Action Generation Page

structure Operates (page : Page.Module) (e : Element) (m : Method) : Prop where
  name : m.name = gestureName e
  kind : m.kind = kindOf e.interaction
  operand : ∃ k ∈ page.constants, m.constant = some k.name ∧ k.selector = selectorOf e

structure Owned (elements : List Element) (page : Page.Module) : Prop where
  constants : List.Forall₂ (fun e k => k.selector = selectorOf e) elements page.constants
  methods : ∃ entry gestures, page.methods = entry :: gestures ∧ entry.name = Naming.navigationMethod ∧
    List.Forall₂ (Operates page) elements gestures
  constantNames : (page.constants.map (·.name)).Nodup
  selectors : (page.constants.map (·.selector)).Nodup
  methodNames : (page.methods.map (·.name)).Nodup

section story
variable {s : Story} {pageUrl storyKey : Value} {className path : Text} {page : Page.Module} {c : Context}

theorem elementsApart {key : Element → Text} (apart : (known.map key).Nodup) (s : Story) :
    ((ofStory s).elements.map key).Nodup := by
  refine List.Nodup.map_on (fun e left f right same => ?_) (detectNodup _)
  exact List.inj_on_of_nodup_map apart (elementKnown left) (elementKnown right) same

theorem standTargetsApart (s : Story) : ((standIns (ofStory s)).map target).Nodup := by
  rw [standIns,standTargets (actionsStand 1 _)]
  exact elementsApart selectorsApart s

theorem standNamesApart (s : Story) : ((standIns (ofStory s)).map methodName).Nodup := by
  rw [standIns,standNames (actionsStand 1 _) fun e => elementKnown]
  exact elementsApart gesturesApart s

theorem standsOrdered (r : Requirement) (pageUrl : Value) : inOrder (standIns r) = standIns r := by
  have numbered := numberedResolve (numberedActions r pageUrl)
  rw [← actionsElements r pageUrl,inOrderElements numbered,actionsOrdered]

variable (made : Page.Module.ofActions {} ((actions (ofStory s) pageUrl).map resolve) className storyKey path = (page,c))
include made

theorem madeParts : page.constants = (standIns (ofStory s)).map ownConstant ∧
    page.methods = { name := Naming.navigationMethod, kind := .navigate, readable := className } ::
      (standIns (ofStory s)).map fun a => methodOf a (constantNamed page.constants a.target) := by
  have numbered := numberedResolve (numberedActions (ofStory s) pageUrl)
  rw [madeReference namedAll numbered made,reference]
  simp only [actionsElements,lowestAll (standTargetsApart s),lowestAll (standNamesApart s),standsOrdered _ pageUrl]
  exact ⟨rfl,trivial⟩

theorem madeOwned : Owned (ofStory s).elements page := by
  have numbered := numberedResolve (numberedActions (ofStory s) pageUrl)
  have consistent := madeConsistent namedAll numbered made
  obtain ⟨constants,methods⟩ := madeParts made
  have stand := actionsStand 1 (ofStory s).elements
  -- who stands for whom, with both of them in their places
  have placed : List.Forall₂ (fun e a => e ∈ (ofStory s).elements ∧ a ∈ standIns (ofStory s) ∧ StandsFor e a)
      (ofStory s).elements (standIns (ofStory s)) := by
    have behind := (List.forall₂_and_left _ _).mpr ⟨fun a member => member,stand.flip⟩
    exact (List.forall₂_and_left _ _).mpr ⟨fun e member => member,behind.flip⟩
  exact {
    constants := by
      rw [constants,List.forall₂_map_right_iff]
      refine stand.imp ?_
      rintro e _ ⟨given,rfl⟩
      rfl
    methods := by
      refine ⟨_,_,methods,rfl,List.forall₂_map_right_iff.mpr (placed.imp ?_)⟩
      rintro e a ⟨own,member,stands⟩
      have element : a ∈ onElements ((actions (ofStory s) pageUrl).map resolve) := by
        rw [actionsElements]
        exact member
      obtain ⟨k,inside,selector,name⟩ := referenceOperand className storyKey path numbered element
      rw [← madeReference namedAll numbered made] at inside name
      have named := standsNamed stands (elementKnown own)
      obtain ⟨given,rfl⟩ := stands
      exact ⟨named,rfl,k,inside,by rw [name]; rfl,selector⟩
    constantNames := consistent.constantNames
    selectors := consistent.selectors
    methodNames := consistent.methodNames }

theorem madeShown : c.shown (inOrder ((actions (ofStory s) pageUrl).map resolve)) = standIns (ofStory s) := by
  have numbered := numberedResolve (numberedActions (ofStory s) pageUrl)
  rw [shownLowest namedAll numbered made,actionsElements,lowestAll (standNamesApart s),standsOrdered _ pageUrl]

theorem madeDeclared : ∀ a ∈ (actions (ofStory s) pageUrl).map resolve, c.isDeclared a := by
  have numbered := numberedResolve (numberedActions (ofStory s) pageUrl)
  intro a member
  cases element : a.isNavigation with
  | false =>
    have shown : a ∈ c.shown (inOrder ((actions (ofStory s) pageUrl).map resolve)) := by
      rw [madeShown made,← actionsElements (ofStory s) pageUrl]
      exact memOnElements.mpr ⟨member,element⟩
    exact (Context.memShown shown).2.2
  | true =>
    have alone : ∀ b ∈ (actions (ofStory s) pageUrl).map resolve, b.isNavigation → b = (navigation pageUrl).resolve := by
      intro b inside navigation
      have kept := List.mem_filter.mpr ⟨inside,navigation⟩
      rw [actionsNavigations] at kept
      exact List.mem_singleton.mp kept
    refine (declaredIff namedAll numbered made member).mpr (.inl ⟨element,fun b inside navigation => ?_⟩)
    rw [alone a member element,alone b inside navigation]
    simpa using Ordinal.leTotal (Requirement.navigation pageUrl).resolve.id (Requirement.navigation pageUrl).resolve.id

theorem madeUnrefused (part : Part) : c.refused .page part = [] := by
  have numbered := numberedResolve (numberedActions (ofStory s) pageUrl)
  obtain ⟨dropped,refusals⟩ := madeRefusals namedAll numbered made
  have elements := refusals.elements.length_eq
  rw [madeShown made,actionsElements,List.length_append] at elements
  have none : dropped = [] := List.length_eq_zero_iff.mp (by omega)
  cases part with
  | selector =>
    have selectors := refusals.selectors
    rw [(madeParts made).1,List.length_map,actionsElements] at selectors
    exact List.length_eq_zero_iff.mp (by omega)
  | method =>
    have methods := refusals.methods
    rw [none,actionsNavigations] at methods
    exact methods.eq_nil
  | constant => exact refusals.other .page .constant (by decide) (by decide)
  | step => exact refusals.other .page .step (by decide) (by decide)

end story

section found
variable {r : Requirement} {c : Context} {pageUrl : Value} {e : Element} {text : Text}

theorem elementPair (declared : ∀ a ∈ standIns r, c.isDeclared a) {name : Text} {a : Action} :
    (name,a) ∈ Steps.elementActions c r ((actions r pageUrl).map resolve) ↔
      ∃ e, (e,a) ∈ r.elements.zip (standIns r) ∧ name = e.name.lower := by
  have onElements : (inOrder ((actions r pageUrl).map resolve)).filter (fun a => !a.isNavigation) = standIns r := by
    rw [actionsOrdered]
    exact actionsElements r pageUrl
  unfold Steps.elementActions
  rw [List.mem_mergeSort,onElements]
  constructor
  · intro listed
    obtain ⟨⟨f,b⟩,kept,same⟩ := List.mem_map.mp listed
    cases same
    exact ⟨f,(List.mem_filter.mp kept).1,rfl⟩
  · rintro ⟨f,pair,rfl⟩
    exact List.mem_map.mpr ⟨(f,a),List.mem_filter.mpr ⟨pair,declared a (List.of_mem_zip pair).2⟩,rfl⟩

theorem lineFinds (pageUrl : Value) (declared : ∀ a ∈ standIns r, c.isDeclared a) (all : ∀ e ∈ r.elements, e ∈ known)
    (member : e ∈ r.elements) (phrase : text ∈ phrasesOf e) :
    ∃ a, Steps.actionFor? (Steps.elementActions c r ((actions r pageUrl).map resolve)) text = some a ∧ StandsFor e a := by
  have stand := actionsStand 1 r.elements
  have names := (phrasesKnown e (all e member) text phrase).names
  cases found : (Steps.elementActions c r ((actions r pageUrl).map resolve)).find? fun entry =>
      text.lower.contains entry.1 with
  | none =>
    obtain ⟨a,pair⟩ := zipStands stand member
    have missing := List.find?_eq_none.mp found (e.name.lower,a) ((elementPair declared).mpr ⟨e,pair,rfl⟩)
    simp [names e (all e member)] at missing
  | some entry =>
    obtain ⟨name,a⟩ := entry
    obtain ⟨f,pair,rfl⟩ := (elementPair declared).mp (List.mem_of_find?_eq_some found)
    have within := List.find?_some found
    have same : f = e := by simpa [names f (all f (List.of_mem_zip pair).1)] using within
    refine ⟨a,by simp [Steps.actionFor?,found],?_⟩
    rw [← same]
    exact (List.forall₂_iff_zip.mp stand).2 pair

end found

section later
variable {r : Requirement} {c : Context} {l : Layout} {artifact : Artifact} {part : Part}

theorem addUsesElsewhere (m : Steps.Module) (c : Context) (named : List (Text × Action)) (uses : Steps.StepUses) :
    Context.OnlyAt .glue c (m.addUses c named uses).2 ∧ ∀ artifact part, (artifact,part) ≠ (.glue,.step) →
      (m.addUses c named uses).2.refused artifact part = c.refused artifact part := by
  induction uses generalizing m c with
  | nil => exact ⟨Context.onlyAtSelf _ _,fun _ _ _ => rfl⟩
  | cons use rest ih =>
    have own := Context.emitOnly c .glue .step use.1
    have books := fun artifact part (other : (artifact,part) ≠ (Artifact.glue,Part.step)) =>
      (Context.emitOther c use.1 other).2
    unfold Steps.Module.addUses
    dsimp only
    split
    · obtain ⟨only,kept⟩ := ih (m.add _) (c.emit .glue .step use.1).2
      exact ⟨Context.onlyAtTrans own only,fun artifact part other => (kept artifact part other).trans (books _ _ other)⟩
    · obtain ⟨only,kept⟩ := ih m (c.emit .glue .step use.1).2
      exact ⟨Context.onlyAtTrans own only,fun artifact part other => (kept artifact part other).trans (books _ _ other)⟩

theorem ofRequirementElsewhere (c : Context) (r : Requirement) (actions : List Action) (l : Layout) :
    Context.OnlyAt .glue c (Steps.Module.ofRequirement c r actions l).2 ∧
      ∀ artifact part, (artifact,part) ≠ (.glue,.step) →
        (Steps.Module.ofRequirement c r actions l).2.refused artifact part = c.refused artifact part := by
  obtain ⟨only,kept⟩ := addUsesElsewhere (Steps.Module.start c l).1 (Steps.Module.start c l).2
    (Steps.elementActions (Steps.Module.start c l).2 r actions) (Steps.usesOf r)
  refine ⟨Context.onlyAtTrans (Steps.startOnly c l) only,fun artifact part other => ?_⟩
  exact (kept artifact part other).trans (Context.emitOther c (Feature.preconditionText l.className) other).2

end later

def argumentFor (e : Element) : Value := if (kindOf e.interaction).isParameterized then sampleValue e else .null

section handled
variable {r : Requirement} {c d : Context} {m : Steps.Module} {l : Layout} {pageUrl : Value} {e : Element} {text : Text}
  {h : Steps.Handler}

theorem sampleGiven (e : Element) (given : (kindOf e.interaction).isParameterized) :
    (sampleValue e).orElse (.text []) = sampleValue e := by
  cases kind : e.interaction with
  | type | select => simp only [sampleValue,kind]; rfl
  | click | check | press =>
    rw [kind] at given
    contradiction

theorem handlerFound {named : List (Text × Action)} {a : Action} (taken : List Text) (types : List Steps.StepType)
    (arrival : Steps.isArrival text.lower = false) (found : Steps.actionFor? named text = some a) :
    (Steps.handlerOf named taken text types).method = some a.names.method ∧
      (Steps.handlerOf named taken text types).parameter = none ∧
      (Steps.handlerOf named taken text types).argument =
        if a.kind.isParameterized then a.value.orElse (.text []) else .null := by
  simp [Steps.handlerOf,arrival,found]

theorem lineHandled (made : Steps.Module.ofRequirement c r ((actions r pageUrl).map resolve) l = (m,d))
    (declared : ∀ a ∈ standIns r, c.isDeclared a) (all : ∀ e ∈ r.elements, e ∈ known) (member : e ∈ r.elements)
    (phrase : text ∈ phrasesOf e) (listed : h ∈ m.handlers) (own : h.pattern = text) :
    h.method = some (gestureName e) ∧ h.parameter = none ∧ h.argument = argumentFor e := by
  have handlers : m.handlers = (Steps.Module.ofRequirement c r ((actions r pageUrl).map resolve) l).1.handlers := by
    rw [made]
  have still : ∀ a ∈ standIns r, (Steps.Module.start c l).2.isDeclared a := by
    rw [show (Steps.Module.start c l).2.isDeclared = c.isDeclared by
      funext a; rw [Context.isDeclared,(Steps.startOnly c l).declared,Context.isDeclared]]
    exact declared
  obtain ⟨a,found,stands⟩ := lineFinds pageUrl still all member phrase
  rw [handlers] at listed
  rcases Steps.addUsesHandlers h listed with opening | ⟨taken,spoken,types,_,rfl⟩
  · obtain ⟨first,starts,opens⟩ := Steps.startOpens c l
    rw [List.mem_singleton.mp (starts ▸ opening : h ∈ [first]),opens.pattern] at own
    exact absurd own.symm (phraseNotOpening phrase l.className)
  · have pattern := congrArg Prod.fst (Steps.handlerOfKeyed
      (Steps.elementActions (Steps.Module.start c l).2 r ((actions r pageUrl).map resolve)) taken (spoken,types))
    obtain rfl : spoken = text := pattern.symm.trans own
    have arrival := (phrasesKnown e (all e member) spoken phrase).stays
    have named := standsNamed stands (all e member)
    obtain ⟨given,rfl⟩ := stands
    obtain ⟨method,parameter,argument⟩ := handlerFound taken types arrival found
    refine ⟨method.trans (congrArg some named),parameter,argument.trans ?_⟩
    rw [argumentFor]
    by_cases passed : (kindOf e.interaction).isParameterized
    · rw [if_pos passed,← sampleGiven e passed]
      exact if_pos passed
    · rw [if_neg passed]
      exact if_neg passed

end handled

section documents
variable {s : Story} {baseUrl storyKey pageUrl : Value} {className : Text} {l : Layout} {d : Documents} {c : Context}

theorem requirementParts {r : Requirement} {given : List Action}
    (ok : documentsOfRequirement r given baseUrl className storyKey pageUrl l = .ok (d,c)) :
    ∃ path c₀ c₁, Page.Module.ofActions {} given className storyKey path = (d.page,c₀) ∧
      Feature.Document.ofRequirement c₀ r className storyKey = (d.specification,c₁) ∧
      Steps.Module.ofRequirement c₁ r given l = (d.steps,c) := by
  rw [documentsOfRequirement,Page.buildOnPath] at ok
  cases found : Page.pathFor (Page.addressOf given pageUrl) baseUrl with
  | error failure => simp [found,Except.map,bind,Except.bind] at ok
  | ok path =>
    rw [found] at ok
    cases Except.ok.inj ok
    exact ⟨path,_,_,rfl,rfl,rfl⟩

def BoundTo (d : Documents) (e : Element) (text : Text) : Prop :=
  ∃ h, Steps.handlersFor d.steps text = [h] ∧ (∀ type, Steps.UsedAs d.specification text type → type ∈ h.types) ∧
    (∃ m ∈ d.page.methods, Operates d.page e m ∧ h.method = some m.name) ∧
    h.parameter = none ∧ h.argument = argumentFor e

/- What a story has for its elements, on the page, in the feature and in the steps. -/
structure ElementsBound (s : Story) (pageUrl : Value) (d : Documents) (c : Context) : Prop where
  apart : (ofStory s).elements.Nodup
  owned : Owned (ofStory s).elements d.page
  declared : ∀ a ∈ (actions (ofStory s) pageUrl).map resolve, c.isDeclared a
  nothingSkipped : c.skipped .page = []
  written : Written s d.specification
  bound : ∀ e ∈ (ofStory s).elements, ∀ text ∈ phrasesOf e, ∀ type, Steps.UsedAs d.specification text type →
    BoundTo d e text

theorem documentsElements
    (ok : documentsOfRequirement (ofStory s) ((actions (ofStory s) pageUrl).map resolve) baseUrl (ofStory s).name s.key
      pageUrl { l with className := (ofStory s).name } = .ok (d,c)) : ElementsBound s pageUrl d c := by
  obtain ⟨path,c₀,c₁,made,described,steps⟩ := requirementParts ok
  have bound := Steps.requirementBound ok
  have owned := madeOwned made
  have first := Feature.ofRequirementOnly c₀ (ofStory s) (ofStory s).name s.key
  rw [described] at first
  obtain ⟨next,kept⟩ := ofRequirementElsewhere c₁ (ofStory s) ((actions (ofStory s) pageUrl).map resolve)
    { l with className := (ofStory s).name }
  rw [steps] at next kept
  have declared₁ : ∀ a ∈ (actions (ofStory s) pageUrl).map resolve, c₁.isDeclared a := by
    intro a member
    rw [Context.isDeclared,first.declared]
    exact madeDeclared made a member
  have unrefused : ∀ part, c.refused .page part = [] := by
    intro part
    have books : c₁.refused .page part = c₀.refused .page part := by
      rw [show c₁ = (Feature.Document.ofRequirement c₀ (ofStory s) (ofStory s).name s.key).2 by rw [described]]
      exact (Context.emitOther c₀ (Feature.preconditionText (ofStory s).name) (by simp)).2
    rw [kept .page part (by simp),books,madeUnrefused made]
  exact {
    apart := detectNodup _
    owned
    declared := by
      intro a member
      rw [Context.isDeclared,next.declared]
      exact declared₁ a member
    nothingSkipped := by
      refine List.length_eq_zero_iff.mp ?_
      rw [Context.skippedParts,unrefused,unrefused,unrefused,unrefused]
      rfl
    written := storyWritten bound.blocks
    bound := by
      intro e member text phrase type used
      obtain ⟨h,single,_⟩ := bound.bound text type used
      have listed := List.mem_filter.mp (single ▸ List.mem_singleton_self h : h ∈ Steps.handlersFor d.steps text)
      have pattern : h.pattern = text := beq_iff_eq.mp listed.2
      have own : ∀ a ∈ standIns (ofStory s), c₁.isDeclared a := fun a inside =>
        declared₁ a (List.mem_cons_of_mem _ inside)
      obtain ⟨method,parameter,argument⟩ := lineHandled steps own (fun _ => elementKnown) member phrase listed.1 pattern
      refine ⟨h,single,?_,?_,parameter,argument⟩
      · intro type used
        exact (bound.types h listed.1 (pattern ▸ phraseNotOpening phrase _) type).mpr
          (pattern.symm ▸ used)
      · obtain ⟨entry,gestures,methods,_,operates⟩ := owned.methods
        obtain ⟨m,inside,operates⟩ := rightRelated operates e member
        refine ⟨m,by rw [methods]; exact List.mem_cons_of_mem _ inside,operates,?_⟩
        rw [method,operates.name] }

end documents

theorem storyElementsBound (s : Story) (baseUrl pageUrl : Value) (l : Layout) :
    (∃ f, Page.pathFor (Page.addressOf ((actions (ofStory s) pageUrl).map resolve) pageUrl) baseUrl = .error f ∧
      documentsOfRequirement (ofStory s) ((actions (ofStory s) pageUrl).map resolve) baseUrl (ofStory s).name s.key
        pageUrl { l with className := (ofStory s).name } = .error f) ∨
    ∃ d c, documentsOfRequirement (ofStory s) ((actions (ofStory s) pageUrl).map resolve) baseUrl (ofStory s).name s.key
        pageUrl { l with className := (ofStory s).name } = .ok (d,c) ∧ ElementsBound s pageUrl d c := by
  refine (documentsOfRequirementEnd (ofStory s) ((actions (ofStory s) pageUrl).map resolve) baseUrl (ofStory s).name
    s.key pageUrl { l with className := (ofStory s).name }).imp_right ?_
  rintro ⟨d,c,ok⟩
  exact ⟨d,c,ok,documentsElements ok⟩

end Requirement
end TestWeaver
