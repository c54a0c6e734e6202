import TestWeaver.Form.Basic
import TestWeaver.Requirement.Synthesis
import TestWeaver.Story.Basic

/-!
The forms of tickets and of the requirements made of them.
-/
namespace TestWeaver

open Form

def Interaction.ofForm (v : Value) : Except Failure Interaction :=
  match named? Interaction.ofName? v with
  | some i => .ok i
  | none => .error (.invalid (v.quoted ++ " is not a valid InteractionKind"))

namespace Element

def form (e : Element) : Value := .object [
  ("name", .text e.name), ("interaction", .text e.interaction.name), ("description", .text e.description)]

def ofForm (v : Value) : Except Failure Element := do
  let name ← required v "name"
  return { name := asText name, interaction := ← Interaction.ofForm (← required v "interaction")
           description := textOf v "description" }

def named (v : Value) : Except Failure Element := do
  let e ← ofForm v
  return { e with name := ← (field v "name").textFor "lower" }

end Element

namespace Scenario

def form (s : Scenario) : Value := .object [("name", .text s.name), ("steps", texts s.steps)]

def ofForm (v : Value) : Except Failure Scenario := do
  let name ← required v "name"
  return { name := asText name, steps := ← (← (← required v "steps").each).mapM fun step => step.textFor "strip" }

end Scenario

def Verification.form (v : Verification) : Value := .object [
  ("functional", .bool v.functional), ("ui", .bool v.ui), ("performance", .bool v.performance),
  ("logging", .bool v.logging), ("performance_threshold_ms", nat v.thresholdMs)]

namespace Requirement

def form (q : Requirement) : Value := .object [
  ("name", .text q.name), ("description", .text q.description), ("source_ticket_key", q.ticket),
  ("elements", list Element.form q.elements), ("scenarios", list Scenario.form q.scenarios),
  ("verification", q.verification.form)]

def ofForm (v : Value) : Except Failure Requirement := do
  let name ← required v "name"
  if !name.isGiven then throw nameless
  let elements ← (← partsOf v "elements").mapM Element.named
  let scenarios ← (← partsOf v "scenarios").mapM Scenario.ofForm
  let description ← (valueOr v "description" (.text [])).textFor "splitlines"
  Requirement.make? { name := ← name.textFor "endswith", description, elements, scenarios }

end Requirement

namespace Ticket

def formFields (t : Ticket) : List (Text × Value) := [
  ("key", t.key), ("summary", t.summary), ("description", t.description), ("issue_type", t.issueType),
  ("status", t.status), ("priority", t.priority), ("acceptance_criteria", t.criteria)]

def form (t : Ticket) : Value := .object t.formFields

def formOf? (t : Option Ticket) : Value := (t.map form).getD .null

def ofForm (v : Value) : Except Failure Ticket := do
  checkFields v ["key", "summary"] ["description", "issue_type", "status", "priority", "acceptance_criteria"]
  Ticket.check {
    key := field v "key", summary := field v "summary", description := valueOr v "description" (.text [])
    issueType := valueOr v "issue_type" (.text "Story"), status := valueOr v "status" (.text [])
    priority := valueOr v "priority" (.text "Medium"), criteria := valueOr v "acceptance_criteria" (.list []) }

end Ticket

end TestWeaver
