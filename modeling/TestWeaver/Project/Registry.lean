import TestWeaver.Project.Saved

/-!
The projects that are known, each under its identity, and the one that is active. The built-in project is always known.
-/
namespace TestWeaver

structure Registry where
  projects : List (Value × Project)
  active : Option Value := none
  deriving Repr

namespace Registry

def start (e : Environment) : Registry := { projects := [(.text "default", Project.builtIn e)] }

def put (projects : List (Value × Project)) (p : Project) : List (Value × Project) :=
  match projects with
  | [] => [(p.id, p)]
  | (id, q) :: rest => if id.isSameKey p.id then (id, p) :: rest else (id, q) :: put rest p

def register (r : Registry) (p : Project) : Except Failure Registry := do
  p.id.checkKey
  return { r with projects := put r.projects p }

def find? (r : Registry) (id : Value) : Option Project := (r.projects.find? fun (k, _) => k.isSameKey id).map (·.2)

def get (r : Registry) (id : Value) : Except Failure (Option Project) := do
  id.checkKey
  return r.find? id

def activate (r : Registry) (id : Value) : Except Failure (Bool × Registry) := do
  match ← r.get id with
  | some _ => return (true, { r with active := some id })
  | none => return (false, r)

def current (r : Registry) (e : Environment) : Option Project :=
  match r.active.filter Value.isGiven with
  | some id => r.find? id
  | none => (r.find? (.text e.defaultProject)).or (r.find? (.text "default"))

def ids (r : Registry) : Except Failure (List Text) := do
  let ids ← r.projects.mapM fun (id, _) => match id with
    | .text t => .ok t
    | v => .error (.wrongType ("'<' not supported between instances of " ++ v.kindName.quoted ++ " and 'str'"))
  return ids.mergeSort Text.le

def isProjectFile (name : Text) : Bool := ((name.cut? ".y").map (·.2)).any fun rest => rest.endsWith "ml"

def isSkippable : Failure → Bool
  | .file _ | .malformedYaml | .wrongType _ | .lacks .. => true
  | f => f.isRefusedValue

def filesIn (files : Files.Store) (directory : Text) : Except Failure (List Text) := do
  match ← (files.look directory).mapError Failure.ofPath with
  | some .directory => return ((files.entries directory).filter isProjectFile).map fun name => Path.tidy (Path.join directory name)
  | _ => return []

/-- Loads files one after the other and counts them; a file that cannot be loaded is told and left out. What is loaded
before a failure that ends the loading stays known. -/
def loadFiles (e : Environment) (isVerbose : Bool) : List Text → Nat → Registry → Work (Except Failure Nat × Registry)
  | [], loaded, r => return (.ok loaded, r)
  | path :: paths, loaded, r => do
    match ← Work.attempt (Project.load e path) with
    | .error f =>
      if isSkippable f then
        Work.say ("  Warning: Could not load " ++ path ++ ": " ++ f.message)
        loadFiles e isVerbose paths loaded r
      else return (.error f, r)
    | .ok p =>
      match r.register p with
      | .error f => return (.error f, r)
      | .ok r =>
        match p.id.written with
        | .error f => if isVerbose then return (.error (.longNumeral f), r) else loadFiles e isVerbose paths (loaded + 1) r
        | .ok id =>
          if isVerbose then Work.say ("  Loaded project config: " ++ id)
          loadFiles e isVerbose paths (loaded + 1) r

def loadDirectory (r : Registry) (e : Environment) (directory : Value) (isVerbose : Bool) :
    Work (Except Failure Nat × Registry) := do
  let files ← Work.files
  match (directory.orElse (.text Project.directory)).path.bind fun path => filesIn files (Path.tidy path) with
  | .ok paths => loadFiles e isVerbose paths 0 r
  | .error f => return (.error f, r)

def load (r : Registry) (e : Environment) (path : Value) : Work (Project × Registry) := do
  let p ← Project.load e (← Work.ofExcept path.path)
  return (p, ← Work.ofExcept (r.register p))

def save (r : Registry) (id path : Value) : Work Text := do
  match ← Work.ofExcept (r.get id) with
  | none => Work.fail (.invalid ("Project not found: " ++ id.shown))
  | some p =>
    match path with
    | .null => p.save (.text (Path.tidy (Path.join Project.directory (Project.fileName id))))
    | path => p.save path

def usual (e : Environment) : Work (Except Failure Nat × Registry) := (start e).loadDirectory e .null false

end Registry

end TestWeaver
