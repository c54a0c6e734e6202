import TestWeaver.Form.Basic
import TestWeaver.Project.Basic

/-!
The forms of accounts, projects and drafts. The organization of an account is shown with its project.
-/
namespace TestWeaver

open Form

def Tracker.Account.formFields (a : Account) : List (Text × Value) := [
  ("base_url", a.baseUrl), ("email", a.email), ("api_token", a.token), ("project_key", a.projectKey),
  ("is_cloud", a.isCloud)]

def Tracker.Account.ofForm (v : Value) : Account :=
  { baseUrl := field v "base_url", email := field v "email", token := field v "api_token"
    projectKey := valueOr v "project_key" (.text []), criteriaField := field v "ac_field_name"
    isCloud := valueOr v "is_cloud" (.bool true) }

def Application.form (a : Application) : Value := .object [
  ("name", a.name), ("base_url", a.baseUrl), ("description", a.description)]

def Output.form (o : Output) (directoryKey : Text) : Value := .object [
  (directoryKey, o.directory), ("pages_dir", o.pages), ("features_dir", o.features), ("steps_dir", o.steps)]

namespace Project

def formFields (p : Project) : Except Failure (List (Text × Value)) := do
  let organization ← p.account.mapM Tracker.Account.organization
  return [
    ("project_id", p.id), ("application", p.application.form),
    ("jira", match p.account with
      | none => .null
      | some a => .object (a.formFields ++ [(("ac_field_name" : Text), a.criteriaField)])),
    ("source_platform", .text p.platform.name), ("output", p.output.form "dir"), ("stories_dir", p.storiesDir),
    ("organization", orNull organization)]

def form (p : Project) : Except Failure Value := return .object (← p.formFields)

def Draft.ofForm (v : Value) : Except Failure Draft := do
  if !(has v "project_id" && has v "app_name") then throw (.wrongType "a project needs an identity and a name")
  return { id := field v "project_id", name := field v "app_name", baseUrl := valueOr v "base_url" (.text [])
           description := valueOr v "description" (.text []), platform := valueOr v "source_platform" (.text "local")
           directory := valueOr v "output_dir" (.text "output"), storiesDir := valueOr v "stories_dir" (.text "stories") }

end Project

namespace Environment

def form (e : Environment) : Value := .object [
  ("jira", .object e.account.formFields), ("output", e.output.form "output_dir"), ("base_url", .text e.baseUrl),
  ("stories_dir", .text e.storiesDir), ("log_level", .text e.logLevel)]

end Environment

end TestWeaver
