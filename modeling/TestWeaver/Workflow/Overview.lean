import TestWeaver.Project.Registry
import TestWeaver.Workflow.Generate

/-!
The two workflows that only look: at the files of a test, and at the known projects.
-/
namespace TestWeaver.Workflow

def runValidate (p : Project) (i : Inputs) : Work Outcome := do
  let s ← Generation.validate (p.settings (← Work.files).working) i.testName (p.outputDir i)
  sayAll ([([] : Text), "Structure of " ++ i.testName.shown, ""] ++ s.paths.map fun (artifact, path) =>
    ("  " : Text) ++ artifact.name ++ ": " ++ path ++ " [" ++ (if s.missing.contains path then ("missing" : Text) else "ok") ++ "]")
  if s.isValid then return { status := .success, message := "All artifacts present", findings := .validation s }
  else
    return { status := .failed, message := "Missing " ++ Text.ofNat s.missing.length ++ " artifact(s)"
             findings := .validation s }

def described (current : Project) (id : Text) (p : Project) : List (Except LongNumeral Text) :=
  [.ok ("  " ++ id ++ (if current.id.isSameKey (.text id) then (" (active)" : Text) else [])),
    p.application.name.written.map fun name => "    Application: " ++ name, .ok ("    Source: " ++ p.platform.name),
    p.output.directory.written.map fun directory => "    Output: " ++ directory, .ok ""]

def runListProjects (r : Registry) (current : Project) : Work Outcome := do
  let ids ← Work.ofExcept r.ids
  sayAll [([] : Text), "Available Projects", ""]
  sayEach (ids.flatMap fun id => ((r.find? (.text id)).map (described current id)).getD [])
  return { status := .success, message := "Found " ++ Text.ofNat ids.length ++ " projects", findings := .projects ids }

end TestWeaver.Workflow
