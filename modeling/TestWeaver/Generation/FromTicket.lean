import TestWeaver.Generation.Result
import TestWeaver.Requirement.Synthesis

/-!
Artifacts from a ticket: its story becomes a requirement, whose elements become actions; the feature and the steps
follow the scenarios of the requirement.
-/
namespace TestWeaver.Generation

abbrev TicketSource := Text → Work (Option Ticket)

structure TicketInput where
  key : Value
  outputDir : Value := .text "output"
  pageUrl : Value := .text []
  deriving Repr

def fetchFailed (key error : Text) : Record :=
  ⟨.error, "ticket_fetch_failed", [("ticket_key", .text key), ("error", .text error)]⟩

def fetch (source : TicketSource) (key : Text) : Work Ticket := do
  match ← Work.attempt (source key) with
  | .ok (some ticket) => return ticket
  | .ok none =>
    Work.log [fetchFailed key "not found"]
    Work.fail (.ticketFetch key "story not found")
  | .error f =>
    Work.log [fetchFailed key f.message]
    Work.fail (.ticketFetch key f.message)

def fromTicket (s : Settings) (source : TicketSource) (i : TicketInput) : Work Result := do
  let key ← Work.ofExcept (need i.key "ticket key")
  let ticket ← fetch source key.trim
  let story ← Work.ofExcept (Story.ofTicket ticket)
  let requirement := Requirement.ofStory story
  Work.log [Record.ofStory story requirement]
  let actions := (Requirement.actions requirement i.pageUrl).map Action.resolve
  let (page, c) ← buildPage s actions requirement.name story.key i.pageUrl
  let (specification, c') := Feature.Document.ofRequirement c requirement requirement.name story.key
  logNotes c' c.notes.length
  let layout ← Work.ofExcept (s.layout requirement.name)
  let (steps, c'') := Steps.Module.ofRequirement c' requirement actions layout
  logNotes c'' c'.notes.length
  finish s c'' i.outputDir { page, specification, steps } .ticket story.key []

end TestWeaver.Generation
