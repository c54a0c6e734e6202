import TestWeaver.Text.Blank
import TestWeaver.Text.Case
import TestWeaver.Tracker.Client

/-!
The environment that a project falls back on: variables with texts, and the settings they stand for.
-/
namespace TestWeaver

abbrev Environment := List (Text × Text)

structure Output where
  directory : Value := .text "output"
  pages : Value := .text "pages"
  features : Value := .text "features"
  steps : Value := .text "steps"
  deriving Repr

namespace Environment

def get (e : Environment) (name other : Text) : Text := (e.lookup name).getD other

def isOn (e : Environment) (name : Text) : Bool :=
  Text.lower (e.get name "true").trim == "1" || Text.lower (e.get name "true").trim == "true"
    || Text.lower (e.get name "true").trim == "yes"

def baseUrl (e : Environment) : Text := e.get "BASE_URL" []

def storiesDir (e : Environment) : Text := e.get "STORIES_DIR" "stories"

def logLevel (e : Environment) : Text := e.get "LOG_LEVEL" "INFO"

def defaultProject (e : Environment) : Text := e.get "DEFAULT_PROJECT" "default"

def output (e : Environment) : Output := { directory := .text (e.get "OUTPUT_DIR" "output") }

def token (e : Environment) : Value := .ofOption (e.lookup ("JIRA_API_TOKEN" : Text))

def account (e : Environment) : Tracker.Account :=
  { baseUrl := .text (e.get "JIRA_BASE_URL" []), email := .text (e.get "JIRA_EMAIL" []), token := e.token
    projectKey := .text (e.get "JIRA_PROJECT_KEY" []), isCloud := .bool (e.isOn "JIRA_IS_CLOUD") }

def required : List Text := ["JIRA_BASE_URL", "JIRA_EMAIL", "JIRA_API_TOKEN"]

def missing (e : Environment) : List Text := required.filter fun name => (e.get name []).isEmpty

def isConfigured (e : Environment) : Bool := e.missing.isEmpty

def validate (e : Environment) : Work Bool := do
  if !e.isConfigured then Work.say ("Warning: environment variables not set: " ++ Text.join ", " e.missing)
  return e.isConfigured

end Environment

end TestWeaver
