import TestWeaver.Project.Environment
import TestWeaver.Yaml.Printer
import TestWeaver.Yaml.Reader

/-!
Projects: the application under test, where its stories come from, and where its artifacts go. A project is described by a
mapping; what is not in it comes from the environment, and the token of the tracker always does.
-/
namespace TestWeaver

inductive Platform where
  | tracker
  | files
  deriving DecidableEq, Repr

namespace Platform

def name : Platform → Text
  | tracker => "jira"
  | files => "local"

def all : List Platform := [tracker, files]

def ofName? (name : Text) : Option Platform := all.find? fun p => p.name = name

def unsupported (name names : Text) : Failure :=
  .invalid ("Unsupported source platform: '" ++ name ++ "'. Supported platforms: " ++ names)

def smallName (v : Value) : Except Failure Value :=
  match v with
  | .bytes b => .ok (.bytes b.lower)
  | v => return .text (← v.textFor "lower").lower

def ofValue (v : Value) : Except Failure Platform := do
  let name ← smallName (v.orElse (.text files.name))
  match all.find? fun p => name.isSameKey (.text p.name) with
  | some p => return p
  | none => throw (unsupported name.shown (Text.join ", " (all.map Platform.name)))

end Platform

structure Application where
  name : Value
  baseUrl : Value := .text []
  description : Value := .text []
  deriving Repr

structure Project where
  id : Value
  application : Application
  account : Option Tracker.Account := none
  platform : Platform := .files
  output : Output := {}
  storiesDir : Value := .text "stories"
  deriving Repr

namespace Project

def make (id : Value) (platform : Value) (project : Project) : Except Failure Project := do
  if !id.isGiven then throw (.invalid "project_id cannot be empty")
  return { project with id, platform := ← Platform.ofValue platform }

structure Draft where
  id : Value
  name : Value
  baseUrl : Value := .text []
  description : Value := .text []
  platform : Value := .text "local"
  directory : Value := .text "output"
  storiesDir : Value := .text "stories"
  deriving Repr

def ofDraft (d : Draft) : Except Failure Project :=
  make d.id d.platform {
    id := d.id, application := { name := d.name, baseUrl := d.baseUrl, description := d.description }
    output := { directory := d.directory }, storiesDir := d.storiesDir }

def part (v : Value) (name : Text) : Except Failure Value := return (← v.field name).orElse (.mapping [])

def fieldOr (v : Value) (name other : Text) : Except Failure Value := v.get (.text name) (.text other)

def applicationOf (e : Environment) (v : Value) : Except Failure Application := do
  let v ← part v "application"
  return { name := ← fieldOr v "name" "Application", baseUrl := ← fieldOr v "base_url" e.baseUrl
           description := ← fieldOr v "description" [] }

def accountOf (e : Environment) (v : Value) : Except Failure (Option Tracker.Account) := do
  let v ← part v "jira"
  if v.isGiven then
    return some {
      baseUrl := ← fieldOr v "base_url" (e.get "JIRA_BASE_URL" []), email := ← fieldOr v "email" (e.get "JIRA_EMAIL" [])
      token := e.token, projectKey := ← fieldOr v "project_key" (e.get "JIRA_PROJECT_KEY" [])
      criteriaField := ← v.field "ac_field_name", isCloud := ← v.get (.text "is_cloud") (.bool true) }
  else return none

def outputOf (e : Environment) (v : Value) : Except Failure Output := do
  let v ← part v "output"
  return { directory := ← fieldOr v "dir" (e.get "OUTPUT_DIR" "output"), pages := ← fieldOr v "pages_dir" "pages"
           features := ← fieldOr v "features_dir" "features", steps := ← fieldOr v "steps_dir" "steps" }

def ofValue (e : Environment) (v : Value) : Except Failure Project := do
  let application ← applicationOf e v
  let account ← accountOf e v
  let output ← outputOf e v
  let id ← fieldOr v "project_id" []
  let platform ← fieldOr v "source_platform" "local"
  let storiesDir ← fieldOr v "stories_dir" e.storiesDir
  make id platform { id, application, account, output, storiesDir }

def builtIn (e : Environment) : Project :=
  let hasTracker := e.account.baseUrl.isGiven
  { id := .text "default", application := { name := .text "Application", baseUrl := .text e.baseUrl }
    account := if hasTracker then some e.account else none
    platform := if hasTracker then .tracker else .files
    output := e.output, storiesDir := .text e.storiesDir }

/-- The fields of a project in the order of its description; the token stays secret. -/
def toEntries (p : Project) : List (Value × Value) :=
  let entries (fields : List (Text × Value)) : List (Value × Value) := fields.map fun (k, v) => (.text k, v)
  entries ([
    (("project_id" : Text), p.id),
    ("application", .mapping (entries [
      ("name", p.application.name), ("base_url", p.application.baseUrl), ("description", p.application.description)])),
    ("source_platform", .text p.platform.name),
    ("output", .mapping (entries [
      ("dir", p.output.directory), ("pages_dir", p.output.pages), ("features_dir", p.output.features),
      ("steps_dir", p.output.steps)])),
    ("stories_dir", p.storiesDir)]
    ++ match p.account with
      | none => []
      | some a => [("jira", .mapping (entries [
          ("base_url", a.baseUrl), ("project_key", a.projectKey), ("email", a.email), ("is_cloud", a.isCloud),
          ("ac_field_name", a.criteriaField)]))])

def toYaml (p : Project) : Except Failure Text := (Yaml.textOf p.toEntries).mapError .longNumeral

end Project

end TestWeaver
