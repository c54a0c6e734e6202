import TestWeaver.Requirement.Scenarios
import TestWeaver.Story.Basic

/-!
The requirement that a story makes, and the actions that stand for its elements: a navigation first, then one action
on each element, found by a test identifier derived from its name.
-/
namespace TestWeaver.Requirement

def nameless : Failure := .invalid "Test requirement name cannot be empty"

def make? (r : Requirement) : Except Failure Requirement := if r.name.isEmpty then .error nameless else .ok r

def givenCriteria (s : Story) : List Text := s.criteria.filter fun c => !c.isBlank

def orNone (t : Option Text) : Text := t.getD "None"

def describe (s : Story) : Text :=
  s.summary ++ "\n\nJIRA Story: " ++ s.key.shown ++ "\nGenerated from: " ++ orNone s.issueType ++ "\nPriority: "
    ++ orNone s.priority

def scenariosOf (s : Story) (elements : List Element) : List Scenario :=
  let criteria := givenCriteria s
  (if criteria.isEmpty then defaults s.summary elements
    else criteria.map fun c => ⟨scenarioName c, detailedSteps c elements⟩) ++ edgeCases s.issueType

def ofStory (s : Story) : Requirement :=
  let elements := detect s.fullText
  { name := Naming.className s.summary
    description := describe s
    ticket := s.key
    elements
    scenarios := scenariosOf s elements
    verification := verificationOf s.issueType s.priority s.fullText }

def slug (name : Text) : Text := Text.join "-" (Text.runs (fun p => p.isSmall || p.isDigit) name.lower)

def selectorOf (e : Element) : Text := "[data-testid=\"" ++ slug e.name ++ "\"]"

theorem selectorOf_ne_nil (e : Element) : selectorOf e ≠ [] := by simp [selectorOf, Text.ofString]

def kindOf : Interaction → Kind
  | .type => .fill
  | .click => .click
  | .select => .select
  | .check => .check
  | .press => .press

theorem kindOf_ne_navigate (i : Interaction) : kindOf i ≠ .navigate := by cases i <;> decide

def sampleValue (e : Element) : Value :=
  match e.interaction with
  | .type => .text ("valid " ++ e.name.lower)
  | .select => .text "Option 1"
  | .press => .text "Enter"
  | .click | .check => .null

def actionOf (given : Nat) (e : Element) : Action where
  id := .whole (given + 1)
  kind := kindOf e.interaction
  selector := some (selectorOf e)
  value := sampleValue e
  id_counts := Ordinal.isCounting_succ given
  selector_given := fun _ => ⟨_, rfl, selectorOf_ne_nil e⟩

def actionsFrom (given : Nat) : List Element → List Action
  | [] => []
  | e :: rest => actionOf given e :: actionsFrom (given + 1) rest

def navigation (pageUrl : Value) : Action where
  id := .whole 1
  kind := .navigate
  selector := none
  value := pageUrl
  id_counts := Ordinal.isCounting_succ 0
  selector_given := Action.selector_of_navigation

def actions (r : Requirement) (pageUrl : Value) : List Action := navigation pageUrl :: actionsFrom 1 r.elements

end TestWeaver.Requirement
