import Mathlib.Data.List.Forall2
import TestWeaver.Proofs.Context.Gate
import TestWeaver.Proofs.Page.Build
import TestWeaver.Steps.Module

/-! The handlers of a recording: one that opens, one for the first action of every pattern
among the actions shown, and one that closes. -/
namespace TestWeaver.Steps
open TestWeaver.Action

abbrev patternText (a : Action) : Text := (patternOf a).1

structure Opens (l : Layout) (h : Handler) : Prop where
  types : h.types = [.given]
  pattern : h.pattern = Feature.preconditionText l.className
  method : h.method = some Naming.navigationMethod
  parameter : h.parameter = none
  argument : h.argument = .null
  parsed : h.parsed = false

structure Binds (a : Action) (h : Handler) : Prop where
  types : h.types = [.when]
  pattern : h.pattern = patternText a
  method : h.method = some a.names.method
  parameter : h.parameter = (patternOf a).2
  argument : h.argument = .null
  parsed : h.parsed = (patternOf a).2.isSome

structure Closes (h : Handler) : Prop where
  types : h.types = [.then]
  pattern : h.pattern = Feature.closingText
  method : h.method = none
  parsed : h.parsed = false

theorem patternsOfHandlers {shown : List Action} {hs : List Handler}
    (binds : List.Forall₂ Binds shown hs) : hs.map (·.pattern) = shown.map patternText := by
  induction binds with
  | nil => rfl
  | cons here _ ih => rw [List.map_cons,List.map_cons,here.pattern,ih]

/- A module and its context when some actions in order have been given handlers, behind some
handlers and patterns that were there before. -/
structure Bound (lead : List Text) (first : List Handler) (done : List Action) (m : Module) (c : Context) : Prop where
  seen : c.seen .glue .step = lead ++ (firstsBy patternText done).map patternText
  handlers : ∃ hs, m.handlers = first ++ hs ∧ List.Forall₂ Binds (firstsBy patternText done) hs

section run
variable {lead : List Text} {first : List Handler} {done : List Action} {m : Module} {c : Context} {a : Action}

theorem addActionOnly (m : Module) (c : Context) (a : Action) : Context.OnlyAt .glue c (m.addAction c a).2 := by
  have only := Context.emitOnly c .glue .step (patternOf a).1
  unfold Module.addAction
  simp only
  split <;> exact only

theorem addActionsOnly (m : Module) (c : Context) (rest : List Action) :
    Context.OnlyAt .glue c (m.addActions c rest).2 := by
  induction rest generalizing m c with
  | nil => exact Context.onlyAtSelf _ _
  | cons a rest ih =>
    unfold Module.addActions
    split
    · exact ih m c
    · exact Context.onlyAtTrans (addActionOnly m c a) (ih _ _)

theorem addActionBound (bound : Bound lead first done m c) (outside : patternText a ∉ lead) :
    Bound lead first (done ++ [a]) (m.addAction c a).1 (m.addAction c a).2 := by
  have gate : patternText a ∈ c.seen .glue .step ↔ patternText a ∈ done.map patternText := by
    rw [bound.seen,List.mem_append,keysOfFirsts]
    simp [outside]
  obtain ⟨hs,handlers,binds⟩ := bound.handlers
  unfold Module.addAction
  by_cases seen : patternText a ∈ done.map patternText
  · have again := gate.mpr seen
    unfold patternText at again
    simp only [Context.emitSeen again]
    exact {
      seen := by rw [firstsSeen seen]; exact bound.seen
      handlers := by rw [firstsSeen seen]; exact ⟨hs,handlers,binds⟩ }
  · have fresh : (patternOf a).1 ∉ c.seen .glue .step := fun again => seen (gate.mp again)
    simp only [Context.emitFresh fresh,if_true]
    exact {
      seen := by
        rw [firstsFresh seen,List.map_append,Context.seenGrown rfl,bound.seen,List.append_assoc]
        rfl
      handlers := by
        rw [firstsFresh seen]
        refine ⟨hs ++ [_],by simp only [Module.add,handlers,List.append_assoc]; rfl,?_⟩
        exact List.rel_append binds (.cons ⟨rfl,rfl,rfl,rfl,rfl,rfl⟩ .nil) }

theorem addActionsBound {rest : List Action} (bound : Bound lead first done m c)
    (outside : ∀ a ∈ c.shown rest, patternText a ∉ lead) :
    Bound lead first (done ++ c.shown rest) (m.addActions c rest).1 (m.addActions c rest).2 := by
  induction rest generalizing done m c with
  | nil => simpa [Module.addActions,Context.shown] using bound
  | cons a rest ih =>
    rw [Context.shownCons] at outside ⊢
    unfold Module.addActions
    split
    · rename_i passed
      rw [if_pos passed] at outside
      exact ih bound outside
    · rename_i kept
      rw [if_neg kept] at outside
      have same := Context.onlyAtShown (addActionOnly m c a) rest
      have step := ih (addActionBound bound (outside a List.mem_cons_self)) (by
        rw [same]
        exact fun b member => outside b (List.mem_cons_of_mem _ member))
      rw [same,List.append_assoc] at step
      exact step

end run

theorem startOpens (c : Context) (l : Layout) :
    ∃ opening, (Module.start c l).1.handlers = [opening] ∧ Opens l opening :=
  ⟨_,rfl,⟨rfl,rfl,rfl,rfl,rfl,rfl⟩⟩

theorem startOnly (c : Context) (l : Layout) : Context.OnlyAt .glue c (Module.start c l).2 :=
  Context.emitOnly c .glue .step _

theorem startSeen {c : Context} (unseen : c.seen .glue .step = []) (l : Layout) :
    (Module.start c l).2.seen .glue .step = [Feature.preconditionText l.className] := by
  simp only [Module.start]
  rw [Context.emitFresh (by simp [unseen]),Context.seenGrown rfl,unseen]
  rfl

theorem ofActionsOnly (c : Context) (actions : List Action) (l : Layout) :
    Context.OnlyAt .glue c (Module.ofActions c actions l).2 :=
  Context.onlyAtTrans (startOnly c l)
    (Context.onlyAtTrans (addActionsOnly _ _ (inOrder actions)) (Context.emitOnly _ .glue .step _))

section patterns
variable {a : Action}

theorem patternOfKind (named : a.Named) : patternText a = match a.kind with
    | .fill => "user enters \"\x7btext\x7d\" into " ++ Naming.spoken a.names.readable
    | .select => "user selects \"\x7boption\x7d\" from " ++ Naming.spoken a.names.readable
    | kind => Naming.phrase kind a.names.readable := by
  have phrase : a.names.phrase = Naming.phrase a.kind a.names.readable := by
    rw [named]
    rfl
  unfold patternText patternOf
  cases kind : a.kind <;> simp [phrase,kind]

theorem patternNotOpening (named : a.Named) (element : a.isNavigation = false) (className : Text) :
    patternText a ≠ Feature.preconditionText className := by
  rw [patternOfKind named]
  cases kind : a.kind with
  | navigate => simp [isNavigation,kind] at element
  | fill | select | click | check | press => simp [Naming.phrase,Feature.preconditionText,Text.ofString]

theorem patternNotClosing (named : a.Named) : patternText a ≠ Feature.closingText := by
  rw [patternOfKind named]
  cases a.kind <;> simp [Naming.phrase,Feature.closingText,Text.ofString]

end patterns

theorem ofActionsHandlers {c : Context} {actions : List Action} {l : Layout} (unseen : c.seen .glue .step = [])
    (named : ∀ a ∈ c.shown (inOrder actions), a.Named) :
    ∃ opening hs closing, (Module.ofActions c actions l).1.handlers = opening :: hs ++ [closing] ∧
      Opens l opening ∧ List.Forall₂ Binds (firstsBy patternText (c.shown (inOrder actions))) hs ∧
      Closes closing := by
  obtain ⟨opening,starts,opens⟩ := startOpens c l
  have same := Context.onlyAtShown (startOnly c l) (inOrder actions)
  have bound : Bound [Feature.preconditionText l.className] [opening] [] (Module.start c l).1 (Module.start c l).2 :=
    ⟨startSeen unseen l,[],starts,.nil⟩
  have apart : ∀ a ∈ (Module.start c l).2.shown (inOrder actions),
      patternText a ∉ [Feature.preconditionText l.className] := by
    rw [same]
    intro a member
    rw [List.mem_singleton]
    exact patternNotOpening (named a member) (Context.memShown member).2.1 l.className
  have run := addActionsBound bound apart
  rw [same,List.nil_append] at run
  obtain ⟨hs,handlers,binds⟩ := run.handlers
  have closes : ∃ closing, (Module.ofActions c actions l).1.handlers = opening :: hs ++ [closing] ∧
      Closes closing := by
    simp only [Module.ofActions,Module.add,handlers,List.singleton_append]
    exact ⟨_,rfl,rfl,rfl,rfl,rfl⟩
  obtain ⟨closing,ends,closes⟩ := closes
  exact ⟨opening,hs,closing,ends,opens,binds,closes⟩

end TestWeaver.Steps
