import TestWeaver.Value.Access

/-!
Stories, as a ticket source tells them. A source may deliver any data in the fields of a ticket; a ticket is only
accepted with a key and a summary, and becomes a story when the fields that are analysed hold texts.
-/
namespace TestWeaver

structure Ticket where
  key : Value
  summary : Value
  description : Value := .text []
  issueType : Value := .text "Story"
  status : Value := .text []
  priority : Value := .text "Medium"
  criteria : Value := .list []
  deriving Repr

def Ticket.check (t : Ticket) : Except Failure Ticket :=
  if !t.key.isGiven then .error (.invalid "Story key cannot be empty")
  else if !t.summary.isGiven then .error (.invalid "Story summary cannot be empty")
  else .ok t

structure Story where
  key : Value
  summary : Text
  description : Text
  issueType : Option Text
  priority : Option Text
  criteria : List Text
  key_given : key.isGiven = true
  summary_given : summary ≠ []
  deriving Repr

namespace Story

def fullText (s : Story) : Text := Text.unlines (s.summary :: s.description :: s.criteria)

def textOf (v : Value) : Except Failure Text :=
  match v with
  | .text t => .ok t
  | v => .error (.wrongType ("expected a text, got " ++ v.kindName))

def optionalText (v : Value) : Except Failure (Option Text) :=
  match v with
  | .null => .ok none
  | .text t => .ok (some t)
  | v => if v.isGiven then (textOf v).map some else .ok (some v.shown)

/-- The criteria of a ticket, one by one; a text counts as one criterion per code point. -/
def criteriaOf (v : Value) : Except Failure (List Text) := do (← v.each).mapM textOf

def ofTicket (t : Ticket) : Except Failure Story := do
  let summary ← textOf t.summary
  let description ← textOf (if t.description.isGiven then t.description else .text [])
  let criteria ← criteriaOf t.criteria
  let issueType ← optionalText t.issueType
  let priority ← optionalText t.priority
  if key_given : t.key.isGiven then
    if summary_given : summary ≠ [] then
      return { key := t.key, summary, description, issueType, priority, criteria, key_given, summary_given }
    else throw (.invalid "Story summary cannot be empty")
  else throw (.invalid "Story key cannot be empty")

end Story

def Ticket.fullText (t : Ticket) : Except Failure Text :=
  (Story.ofTicket { t with issueType := .null, priority := .null }).map Story.fullText

end TestWeaver
