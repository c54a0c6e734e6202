import TestWeaver.Ordinal
import TestWeaver.Text.Quoted

/-!
Recorded interactions. An action is numbered from one, and every action but a navigation acts on the element
that its selector picks. The names derived from the selector are empty until they are resolved.
-/
namespace TestWeaver

inductive Kind where
  | navigate
  | click
  | fill
  | select
  | check
  | press
  deriving DecidableEq, Repr

namespace Kind

def name : Kind → Text
  | navigate => "navigate"
  | click => "click"
  | fill => "fill"
  | select => "select"
  | check => "check"
  | press => "press"

def all : List Kind := [navigate, click, fill, select, check, press]

def ofName? (t : Text) : Option Kind := all.find? fun k => k.name == t

def isParameterized : Kind → Bool
  | fill | select => true
  | _ => false

end Kind

structure Names where
  readable : Text := []
  constant : Text := []
  method : Text := []
  phrase : Text := []
  deriving DecidableEq, Repr

structure Action where
  id : Ordinal
  kind : Kind
  selector : Option Text
  value : Value := .null
  names : Names := {}
  id_counts : id.isCounting = true
  selector_given : kind ≠ .navigate → ∃ s, selector = some s ∧ s ≠ []
  deriving Repr

inductive ActionError where
  | unknownKind (shown : Text)
  | idNotPositive
  | selectorMissing (kind : Kind)
  deriving DecidableEq, Repr

def ActionError.message : ActionError → Text
  | unknownKind shown => shown ++ " is not a valid ActionKind"
  | idNotPositive => "Action sequence ID must be positive"
  | selectorMissing kind => kind.name ++ " action requires a selector"

namespace Action

theorem selector_of_navigation : Kind.navigate ≠ .navigate → ∃ s, (none : Option Text) = some s ∧ s ≠ [] :=
  fun h => absurd rfl h

def make? (id : Ordinal) (kind : Kind) (selector : Option Text) (value : Value) (names : Names) :
    Except ActionError Action :=
  if id_counts : id.isCounting then
    if selector_given : kind ≠ .navigate → ∃ s ∈ selector, s ≠ [] then
      .ok { id, kind, selector, value, names, id_counts,
            selector_given := fun h => by
              obtain ⟨s, hs, ne⟩ := selector_given h
              exact ⟨s, by simpa using hs, ne⟩ }
    else .error (.selectorMissing kind)
  else .error .idNotPositive

def target (a : Action) : Text := a.selector.getD []

def isNavigation (a : Action) : Bool := a.kind == .navigate

def isResolved (a : Action) : Bool :=
  !a.names.readable.isEmpty && !a.names.method.isEmpty && !a.names.phrase.isEmpty

def inOrder (actions : List Action) : List Action := actions.mergeSort fun a b => a.id.le b.id

end Action

end TestWeaver
