import TestWeaver.CommandLine.Help
import TestWeaver.CommandLine.Option

/-!
What a command line asks for: a workflow with its inputs, and a project. Options of the program come before the name of
the workflow, and those of the workflow after it.
-/
namespace TestWeaver.CommandLine

structure Invocation where
  project : Option Text := none
  workflow : Option Workflow := none
  inputs : Inputs := {}
  deriving Repr

def option (name : Text) : Flag := { names := [name] }

def required (name : Text) : Flag := { names := [name], isRequired := true }

def Place.flags : Place → List Flag
  | none => [.help, { names := ["--project", "-p"] }]
  | some .record =>
    [.help, required "--recording", required "--feature-name", required "--story", option "--url", option "--output-dir"]
  | some .ticket => [.help, required "--key", option "--url", option "--output-dir"]
  | some .validate => [.help, required "--name", option "--output-dir"]
  | some .listProjects => [.help]

def inputsOf (r : Reading) : Inputs :=
  let told (name : Text) : Value := .ofOption (r.value? name)
  { recording := told "--recording", featureName := told "--feature-name", story := told "--story", key := told "--key"
    testName := told "--name", url := told "--url", outputDir := told "--output-dir" }

structure Halt where
  place : Place
  stop : Stop
  deriving DecidableEq, Repr

def stopIn (place : Place) (r : Except Stop α) : Except Halt α := r.mapError fun stop => { place, stop }

def unknownCommand (name : Text) : Stop :=
  .misuse ("argument workflow: invalid choice: " ++ name.quoted ++ " (choose from "
    ++ Text.join ", " (Workflow.all.map fun w => w.name.quoted) ++ ")")

def readCommand : Option (List Text) → Except Halt (Option (Workflow × Reading))
  | none | some [] => .ok none
  | some (name :: words) =>
    match Workflow.ofName? name with
    | none => .error { place := none, stop := unknownCommand name }
    | some w => do return some (w, ← stopIn (some w) (readWords (Place.flags (some w)) false words))

def Invocation.ofWords (words : List Text) : Except Halt Invocation := do
  let r ← stopIn none (readWords (Place.flags none) true words)
  let command ← readCommand r.command
  let extras := r.extras ++ ((command.map (·.2.extras)).getD [])
  if !extras.isEmpty then
    throw { place := none, stop := .misuse ("unrecognized arguments: " ++ Text.join " " extras) }
  return { project := r.value? "--project", workflow := command.map (·.1)
           inputs := (command.map fun (_, r) => inputsOf r).getD {} }

end TestWeaver.CommandLine
