import TestWeaver.Project.Basic

/-!
Projects in files: one description in each, in a directory of its own unless another path is given.
-/
namespace TestWeaver.Project

def ofContent (e : Environment) (content : Bytes) : Except Failure Project := do
  let v ← Yaml.ofBytes content
  ofValue e (v.orElse (.mapping []))

def load (e : Environment) (path : Text) : Work Project := do
  let content ← Work.ofExcept (((← Work.files).read path).mapError .ofPath)
  Work.ofExcept (ofContent e content)

def directory : Text := "projects/configs"

def fileName (id : Value) : Text := id.shown ++ ".yaml"

def defaultPath (id : Value) : Except Failure Text := do
  let _ ← id.written.mapError .longNumeral
  return directory ++ "/" ++ fileName id

def save (p : Project) (path : Value) : Work Text := do
  let path ← Work.ofExcept (match path with
    | .null => defaultPath p.id
    | path => path.path)
  let (files, failure) := (← Work.files).makeAll (Path.above path)
  Work.setFiles files
  if let some f := failure then Work.fail (.ofPath f)
  -- a description that cannot be written leaves an empty file
  Work.onFiles fun files => files.openForWriting path
  let t ← Work.ofExcept p.toYaml
  Work.onFiles fun files => files.write path t
  return path

end TestWeaver.Project
