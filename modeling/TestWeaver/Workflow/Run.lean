import TestWeaver.Workflow.Overview

/-!
A workflow asked for by name, for a project that may be named too. Naming a known project makes it the active one.
-/
namespace TestWeaver.Workflow

def unknown (name : Text) : Outcome :=
  .failure ("Unknown workflow: " ++ name ++ ". Available: [" ++ Text.join ", " (all.map fun w => w.name.quoted) ++ "]")

def unknownProject (id : Value) : Outcome :=
  .failure ("Project not found: " ++ id.shown ++ ". Run 'list-projects' to see available projects.")

def choose (r : Registry) (e : Environment) (id : Value) : Except Failure (Option Project × Registry) := do
  if id.isGiven then
    let (_, active) ← r.activate id
    return (r.find? id, active)
  else return (r.current e, r)

def runFor (r : Registry) (p : Project) (i : Inputs) : Workflow → Work Outcome
  | record => runRecord p i
  | ticket => runTicket p i
  | validate => runValidate p i
  | listProjects => runListProjects r p

/-- Runs a workflow, unless it is not told what it needs. The registry keeps its active project whatever comes of it. -/
def run (r : Registry) (e : Environment) (name : Text) (id : Value) (i : Inputs) :
    Work (Except Failure Outcome × Registry) := do
  match ofName? name with
  | none => return (.ok (unknown name), r)
  | some w =>
    match choose r e id with
    | .error f => return (.error f, r)
    | .ok (none, r) => return (.ok (unknownProject id), r)
    | .ok (some p, r) =>
      match w.missing? i with
      | some need => return (.ok (.failure ("Validation error: " ++ need ++ " is required")), r)
      | none => return (← Work.attempt (runFor r p i w), r)

end TestWeaver.Workflow
