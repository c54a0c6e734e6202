import TestWeaver.Generation.Result
import TestWeaver.Generation.Structure

/-!
Workflows: what can be asked for by name, what each must be told, and what comes of it.
-/
namespace TestWeaver

inductive Workflow where
  | record
  | ticket
  | validate
  | listProjects
  deriving DecidableEq, Repr

structure Inputs where
  recording : Value := .null
  featureName : Value := .null
  story : Value := .null
  key : Value := .null
  testName : Value := .null
  url : Value := .null
  outputDir : Value := .null
  deriving Repr

namespace Workflow

def all : List Workflow := [record, ticket, validate, listProjects]

def name : Workflow → Text
  | record => "record"
  | ticket => "ticket"
  | validate => "validate"
  | listProjects => "list-projects"

def description : Workflow → Text
  | record => "Generate page, feature and steps files from a recording"
  | ticket => "Generate page, feature and steps files from a ticket"
  | validate => "Validate the generated file structure of a test"
  | listProjects => "List all available project configurations"

def ofName? (name : Text) : Option Workflow := all.find? fun w => w.name = name

def needs (i : Inputs) : Workflow → List (Text × Value)
  | record => [("recording", i.recording), ("feature_name", i.featureName), ("story", i.story)]
  | ticket => [("key", i.key)]
  | validate => [("test_name", i.testName)]
  | listProjects => []

def missing? (w : Workflow) (i : Inputs) : Option Text :=
  ((w.needs i).find? fun (_, v) => !v.isGiven).map (·.1)

inductive Status where
  | success
  | failed
  | incomplete
  deriving DecidableEq, Repr

def Status.name : Status → Text
  | .success => "success"
  | .failed => "failed"
  | .incomplete => "partial"

inductive Findings where
  | nothing
  | generation (r : Generation.Result)
  | validation (s : Generation.Structure)
  | projects (ids : List Text)
  deriving Repr

structure Outcome where
  status : Status
  message : Text
  findings : Findings := .nothing
  deriving Repr

def Outcome.failure (message : Text) : Outcome := { status := .failed, message }

end Workflow

end TestWeaver
