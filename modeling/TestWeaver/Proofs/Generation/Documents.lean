import TestWeaver.Generation.FromRecording
import TestWeaver.Generation.FromTicket
import TestWeaver.Proofs.Feature.Lines
import TestWeaver.Proofs.Page.Reference
import TestWeaver.Proofs.Steps.Handlers

/-! The three documents of a run, built in their order in one fresh context, without the log
that is kept beside them. Their actions are numbered onward from one, so the page is the
reference page, and the other two documents show the owners of its methods. -/
namespace TestWeaver

namespace Action

theorem numberedRange {actions : List Action} {first count : Nat}
    (ids : actions.map (·.id) = (List.range' first count).map .whole) : Numbered actions where
  integers := by
    intro a member
    have listed : a.id ∈ (List.range' first count).map Ordinal.whole := ids ▸ List.mem_map_of_mem member
    obtain ⟨n,_,same⟩ := List.mem_map.mp listed
    rw [← same]
    trivial
  distinct := by
    have apart : ((List.range' first count).map Ordinal.whole).Pairwise fun o p => o.isSame p = false := by
      have different : (List.range' first count).Nodup := List.nodup_range'
      refine List.pairwise_map.mpr (different.imp ?_)
      intro m n other
      simpa [Ordinal.isSame_whole] using other
    rw [← ids] at apart
    exact List.pairwise_map.mp apart

end Action

theorem Recording.idsOfNumber (given : Nat) (calls : List Call) :
    (Transcript.number given calls).map (·.id) = (List.range' (given + 1) calls.length).map .whole := by
  induction calls generalizing given with
  | nil => rfl
  | cons call calls ih =>
    rw [Transcript.number,List.map_cons,ih,List.length_cons,List.range'_succ,List.map_cons]
    cases call <;> rfl

theorem Recording.numberedTranscript (t : Transcript) : Action.Numbered t.actions := by
  unfold Transcript.actions
  split
  · exact Action.numberedRange (idsOfNumber 0 _)
  · exact Action.numberedRange (idsOfNumber 0 _)

theorem Requirement.idsFrom (given : Nat) (elements : List Element) :
    (actionsFrom given elements).map (·.id) = (List.range' (given + 1) elements.length).map .whole := by
  induction elements generalizing given with
  | nil => rfl
  | cons e rest ih =>
    rw [actionsFrom,List.map_cons,ih,List.length_cons,List.range'_succ,List.map_cons]
    rfl

theorem Requirement.numberedActions (r : Requirement) (pageUrl : Value) : Action.Numbered (actions r pageUrl) := by
  refine @Action.numberedRange _ 1 (r.elements.length + 1) ?_
  rw [actions,List.map_cons,idsFrom,List.range'_succ,List.map_cons]
  rfl

namespace Generation
open TestWeaver.Action Page

def documentsOfActions (actions : List Action) (baseUrl : Value) (className : Text) (storyKey pageUrl : Value)
    (l : Layout) : Except Failure (Documents × Context) := do
  let (page,c) ← Module.build {} actions baseUrl className storyKey pageUrl
  let (specification,c) := Feature.Document.ofActions c actions className storyKey
  let (steps,c) := Steps.Module.ofActions c actions l
  return ({ page, specification, steps },c)

def documentsOfRequirement (r : Requirement) (actions : List Action) (baseUrl : Value) (className : Text)
    (storyKey pageUrl : Value) (l : Layout) : Except Failure (Documents × Context) := do
  let (page,c) ← Module.build {} actions baseUrl className storyKey pageUrl
  let (specification,c) := Feature.Document.ofRequirement c r className storyKey
  let (steps,c) := Steps.Module.ofRequirement c r actions l
  return ({ page, specification, steps },c)

/- What the page leaves to the other two documents: its methods stand behind the actions that
they show, and their own gates have let nothing through yet. -/
structure Ready (actions : List Action) (page : Module) (c : Context) : Prop where
  entry : ∃ m ∈ page.methods, m.name = Naming.navigationMethod ∧ m.kind = .navigate
  known : ∀ a ∈ c.shown (inOrder actions), a ∈ actions ∧ a.isNavigation = false ∧ a.Named
  methods : ∀ a ∈ c.shown (inOrder actions), ∃ constant, methodOf a constant ∈ page.methods
  names : (page.methods.map (·.name)).Nodup
  unseen : ∀ artifact part, artifact ≠ .page → c.seen artifact part = []

structure Shown (shown : List Action) (className : Text) (l : Layout) (d : Documents) : Prop where
  precondition : d.specification.precondition = some ⟨"Given",Feature.preconditionText className,none⟩
  closing : d.specification.closing = some ⟨"Then",Feature.closingText,none⟩
  block : ∃ b, d.specification.blocks = [b] ∧ Feature.Recorded shown b
  handlers : ∃ opening hs closing, d.steps.handlers = opening :: hs ++ [closing] ∧ Steps.Opens l opening ∧
    List.Forall₂ Steps.Binds (firstsBy Steps.patternText shown) hs ∧ Steps.Closes closing

section documents
variable {actions : List Action} {baseUrl : Value} {className : Text} {storyKey pageUrl : Value} {l : Layout}
  {d : Documents} {c : Context}

theorem readyOfActions {path : Text} {page : Module} (named : ∀ a ∈ actions, a.Named) (numbered : Numbered actions)
    (made : Module.ofActions {} actions className storyKey path = (page,c)) : Ready actions page c where
  entry := by
    rw [madeReference named numbered made]
    exact ⟨_,List.mem_cons_self,rfl,rfl⟩
  known := by
    intro a shown
    obtain ⟨member,element,_⟩ := Context.memShown shown
    exact ⟨memInOrder.mp member,element,named a (memInOrder.mp member)⟩
  methods := by
    intro a shown
    rw [shownLowest named numbered made] at shown
    obtain ⟨k,_,_,member⟩ := (madeConsistent named numbered made).operands a shown
    exact ⟨k.name,member⟩
  names := (madeConsistent named numbered made).methodNames
  unseen := by
    have built := builtOfActions named numbered className storyKey path
    rw [made] at built
    exact built.others

theorem documentsOfActionsOk (named : ∀ a ∈ actions, a.Named) (numbered : Numbered actions)
    (ok : documentsOfActions actions baseUrl className storyKey pageUrl l = .ok (d,c)) :
    ∃ c₀, Ready actions d.page c₀ ∧ Shown (c₀.shown (inOrder actions)) className l d := by
  rw [documentsOfActions,buildOnPath] at ok
  cases found : pathFor (addressOf actions pageUrl) baseUrl with
  | error failure => simp [found,Except.map,bind,Except.bind] at ok
  | ok path =>
    cases made : Module.ofActions {} actions className storyKey path with
    | mk page c₀ =>
      have ready := readyOfActions named numbered made
      have only := Feature.ofActionsOnly c₀ actions className storyKey
      have unseen : (Feature.Document.ofActions c₀ actions className storyKey).2.seen .glue .step = [] := by
        rw [only.others .glue .step (by decide),ready.unseen .glue .step (by decide)]
      have full : ∀ a ∈ c₀.shown (inOrder actions), Naming.snake a.names.readable ≠ [] := by
        intro a shown
        have resolved := (ready.known a shown).2.2
        exact Naming.snakeFull (namedAlnum resolved) (namedFull resolved)
      have same := Context.onlyAtShown only (inOrder actions)
      have handlers := Steps.ofActionsHandlers (l := l) unseen fun a shown => (ready.known a (same ▸ shown)).2.2
      rw [same] at handlers
      have recorded := Feature.ofActionsRecorded className storyKey full
      simp only [found,Except.map,made,bind,Except.bind,pure,Except.pure] at ok
      cases Except.ok.inj ok
      exact ⟨c₀,ready,rfl,rfl,recorded,handlers⟩

theorem documentsOfRequirementOk {r : Requirement} (named : ∀ a ∈ actions, a.Named) (numbered : Numbered actions)
    (ok : documentsOfRequirement r actions baseUrl className storyKey pageUrl l = .ok (d,c)) :
    ∃ c₀ c₁, Ready actions d.page c₀ ∧
      Feature.Document.ofRequirement c₀ r className storyKey = (d.specification,c₁) ∧
      Steps.Module.ofRequirement c₁ r actions l = (d.steps,c) := by
  rw [documentsOfRequirement,buildOnPath] at ok
  cases found : pathFor (addressOf actions pageUrl) baseUrl with
  | error failure => simp [found,Except.map,bind,Except.bind] at ok
  | ok path =>
    rw [found] at ok
    cases Except.ok.inj ok
    exact ⟨_,_,readyOfActions named numbered rfl,rfl,rfl⟩

theorem documentsOfRequirementPage {r : Requirement} (named : ∀ a ∈ actions, a.Named) (numbered : Numbered actions)
    (ok : documentsOfRequirement r actions baseUrl className storyKey pageUrl l = .ok (d,c)) :
    ∃ path, d.page = reference actions className storyKey path := by
  rw [documentsOfRequirement,buildOnPath] at ok
  cases found : pathFor (addressOf actions pageUrl) baseUrl with
  | error failure => simp [found,Except.map,bind,Except.bind] at ok
  | ok path =>
    rw [found] at ok
    cases Except.ok.inj ok
    exact ⟨path,madeReference named numbered rfl⟩

theorem documentsOfActionsMade {path : Text} (found : pathFor (addressOf actions pageUrl) baseUrl = .ok path) :
    ∃ d c, documentsOfActions actions baseUrl className storyKey pageUrl l = .ok (d,c) := by
  rw [documentsOfActions,buildOnPath,found]
  exact ⟨_,_,rfl⟩

theorem documentsOfRequirementMade {r : Requirement} {path : Text}
    (found : pathFor (addressOf actions pageUrl) baseUrl = .ok path) :
    ∃ d c, documentsOfRequirement r actions baseUrl className storyKey pageUrl l = .ok (d,c) := by
  rw [documentsOfRequirement,buildOnPath,found]
  exact ⟨_,_,rfl⟩

theorem documentsOfActionsEnd (actions : List Action) (baseUrl : Value) (className : Text) (storyKey pageUrl : Value)
    (l : Layout) : (∃ f, pathFor (addressOf actions pageUrl) baseUrl = .error f ∧
      documentsOfActions actions baseUrl className storyKey pageUrl l = .error f) ∨
    ∃ d c, documentsOfActions actions baseUrl className storyKey pageUrl l = .ok (d,c) := by
  cases found : pathFor (addressOf actions pageUrl) baseUrl with
  | error f =>
    refine .inl ⟨f,rfl,?_⟩
    rw [documentsOfActions,buildOnPath,found]
    rfl
  | ok path => exact .inr (documentsOfActionsMade found)

theorem documentsOfRequirementEnd (r : Requirement) (actions : List Action) (baseUrl : Value) (className : Text)
    (storyKey pageUrl : Value) (l : Layout) : (∃ f, pathFor (addressOf actions pageUrl) baseUrl = .error f ∧
      documentsOfRequirement r actions baseUrl className storyKey pageUrl l = .error f) ∨
    ∃ d c, documentsOfRequirement r actions baseUrl className storyKey pageUrl l = .ok (d,c) := by
  cases found : pathFor (addressOf actions pageUrl) baseUrl with
  | error f =>
    refine .inl ⟨f,rfl,?_⟩
    rw [documentsOfRequirement,buildOnPath,found]
    rfl
  | ok path => exact .inr (documentsOfRequirementMade found)

end documents
end Generation
end TestWeaver
