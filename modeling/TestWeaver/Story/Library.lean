import TestWeaver.Json.Reader
import TestWeaver.Session
import TestWeaver.Story.Basic
import TestWeaver.Story.Criteria
import TestWeaver.Value.Access
import TestWeaver.Yaml.Reader

/-!
A directory of story files, each named for the key of its ticket. A file holds one mapping, as YAML or as JSON.
-/
namespace TestWeaver

structure Library where
  directory : Text
  deriving DecidableEq, Repr

namespace Library

def ofValue (v : Value) : Except Failure Library := v.path.map fun t => ⟨Path.tidy t⟩

def extensions : List Text := [".yaml", ".yml", ".json"]

def candidates (l : Library) (key : Text) : List Text :=
  extensions.map fun extension => Path.tidy (Path.join l.directory (key ++ extension))

def firstFile (files : Files.Store) : List Text → Except Failure (Option Text)
  | [] => .ok none
  | path :: paths =>
    match files.look path with
    | .ok (some (.file _)) => .ok (some path)
    | .ok _ => firstFile files paths
    | .error f => .error (.ofPath f)

def find (l : Library) (files : Files.Store) (key : Text) : Except Failure (Option Text) :=
  firstFile files (l.candidates key)

def valueIn (path : Text) (content : Bytes) : Except Failure Value :=
  if Path.extension path = ".json" then do
    let t ← (Utf8.decode content).mapError .undecodable
    (Json.ofText t.withLineFeeds).mapError fun
      | .malformed => .malformedJson
      | .number e => .longNumeral e
  else Yaml.ofBytes content

def criteriaOf (v : Value) : Except LongNumeral (List Text) := do
  match v.bare with
  | .list items => return (← items.mapM fun item => return (← item.written).trim).filter fun t => !t.isEmpty
  | _ => if v.isGiven then return Criteria.ofText (← v.written) else return []

def textOf (v : Value) (name other : Text) : Except LongNumeral Value :=
  return .text (← (((v.member? name).getD .null).orElse (.text other)).written)

def ticketOf (key : Text) (v : Value) : Except LongNumeral Ticket := do
  return {
    key := ← textOf v "key" key, summary := ← textOf v "summary" [], description := ← textOf v "description" []
    issueType := ← textOf v "issue_type" "Story", status := ← textOf v "status" []
    priority := ← textOf v "priority" "Medium"
    criteria := Value.ofTexts (← criteriaOf ((v.member? "acceptance_criteria").getD .null)) }

def isUnreadable : Failure → Bool
  | .file _ | .malformedYaml | .malformedJson => true
  | _ => false

def isMapping (v : Value) : Bool :=
  match v.bare with
  | .mapping _ => true
  | _ => false

def ticket (l : Library) (key : Text) : Work (Option Ticket) := do
  let files ← Work.files
  let absent (line : Text) : Work (Option Ticket) := do
    Work.say line
    return none
  match ← Work.ofExcept (l.find files key) with
  | none => absent ("Story file not found for " ++ key ++ " in " ++ l.directory)
  | some path =>
    match ((files.read path).mapError Failure.ofPath).bind (valueIn path) with
    | .error f =>
      if isUnreadable f then absent ("Error reading story " ++ key ++ " from " ++ path ++ ": " ++ f.message)
      else Work.fail f
    | .ok v =>
      if isMapping v then
        match ((ticketOf key v).mapError Failure.longNumeral).bind Ticket.check with
        | .ok ticket => return some ticket
        | .error f => absent ("Error mapping story " ++ key ++ ": " ++ f.message)
      else absent ("Error reading story " ++ key ++ ": " ++ path ++ " does not contain a mapping")

end Library

end TestWeaver
