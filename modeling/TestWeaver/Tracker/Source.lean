import TestWeaver.Story.Basic
import TestWeaver.Story.Criteria
import TestWeaver.Text.Case
import TestWeaver.Tracker.Client
import TestWeaver.Tracker.Document

/-!
A tracker as a source of tickets. The field with acceptance criteria is looked for once, by its name; without one, criteria
are taken from the description.
-/
namespace TestWeaver.Tracker

structure Source where
  client : Client
  projectKey : Value
  criteriaField : Option Value
  deriving Repr

namespace Source

def ofAccount (a : Account) : Except Failure Source := do
  return { client := ← Client.ofAccount a, projectKey := a.projectKey
           criteriaField := if a.criteriaField.isGiven then some a.criteriaField else none }

def issueKey (s : Source) (key : Text) : Except Failure Text := do
  let key := key.trim
  if !key.isEmpty && key.all CodePoint.isDigitSign && s.projectKey.isGiven then
    return (← s.projectKey.written.mapError .longNumeral) ++ "-" ++ key
  else return key

def criteriaNames : List String := ["acceptance criteria", "acceptancecriteria", "acceptance_criteria"]

def isCriteriaField (definition : Value) : Except Failure Bool := do
  let name ← (← definition.get (.text "name") (.text [])).textFor "lower"
  return criteriaNames.any fun spelling => Text.contains name.lower spelling

def criteriaFieldIn : List Value → Except Failure Value
  | [] => .ok .null
  | definition :: rest => do
    if ← isCriteriaField definition then definition.field "id" else criteriaFieldIn rest

def searchField (s : Source) : Work Value := do
  match ← Work.attempt s.client.fields with
  | .ok definitions => Work.ofExcept (definitions.each >>= criteriaFieldIn)
  | .error (.request _ message) =>
    Work.say ("Error discovering AC field: " ++ message)
    return .null
  | .error f => Work.fail f

def nameOf (field : Value) (other : Text) : Value :=
  match field with
  | .mapping entries => ((Value.lookup? entries (.text "name")).getD .null).orElse (.text other)
  | _ => .text other

def contentOf (rendered fields key : Value) : Except Failure Value := do
  let shown ← rendered.get key .null
  if shown.isGiven then return shown else fields.get key .null

def ticketOf (issue criteriaField : Value) (key : Text) : Except Failure Ticket := do
  let fields := (← issue.field "fields").orElse (.mapping [])
  let rendered := (← issue.field "renderedFields").orElse (.mapping [])
  let description ← plainText (← contentOf rendered fields (.text "description"))
  let criteria ← if criteriaField.isGiven then plainText (← contentOf rendered fields criteriaField) else pure []
  let criteria := if criteria.isEmpty then Criteria.sectionOf description else criteria
  return {
    key := ← issue.get (.text "key") (.text key)
    summary := (← fields.field "summary").orElse (.text [])
    description := .text description
    issueType := nameOf (← fields.field "issuetype") "Story"
    status := nameOf (← fields.field "status") []
    priority := nameOf (← fields.field "priority") "Medium"
    criteria := Value.ofTexts (Criteria.ofText criteria) }

def ticket (s : Source) (criteriaField : Value) (key : Text) : Work (Option Ticket) := do
  match ← Work.attempt (s.client.issue key [] ["renderedFields"]) with
  | .error (.request _ message) =>
    Work.say ("Error retrieving story " ++ key ++ ": " ++ message)
    return none
  | .error f => Work.fail f
  | .ok issue =>
    let ticket ← Work.ofExcept (ticketOf issue criteriaField key)
    match ticket.check with
    | .ok ticket => return some ticket
    | .error f =>
      Work.say ("Error mapping story " ++ key ++ ": " ++ f.message)
      return none

def ask (s : Source) (key : Text) : Work (Except Failure (Option Ticket) × Source) := do
  match s.issueKey key, s.criteriaField with
  | .error f, _ => return (.error f, s)
  | .ok key, some field => return (← Work.attempt (s.ticket field key), s)
  | .ok key, none =>
    -- the field is looked for once, whatever comes of it
    match ← Work.attempt s.searchField with
    | .ok field => return (← Work.attempt (s.ticket field key), { s with criteriaField := some field })
    | .error f => return (.error f, { s with criteriaField := some .null })

end Source

end TestWeaver.Tracker
