import TestWeaver.Session
import TestWeaver.Layout

/-!
Artifacts written to files, in their fixed order. When one of them cannot be written, every file that the run has
opened is removed again, and the failure names the artifact.
-/
namespace TestWeaver.Generation

abbrev Contents := List (Artifact × Text)

structure Writing where
  files : Files.Store
  opened : List Text := []
  records : List Record := []
  deriving Repr

namespace Writing

def note (w : Writing) (r : Record) : Writing := { w with records := w.records ++ [r] }

def written (artifact : Artifact) (path content : Text) : Record :=
  .artifactWritten (.text artifact.name) (.text path) (.int content.length)

def removed (path : Text) : Record := ⟨.warning, "artifact_rollback", [("path", .text path)]⟩

def notRemoved (path error : Text) : Record :=
  ⟨.error, "artifact_rollback_failed", [("path", .text path), ("error", .text error)]⟩

def failed (artifact : Artifact) (path error : Text) : Record :=
  ⟨.error, "artifact_write_failed",
    [("artifact", .text artifact.name), ("path", .text path), ("error", .text error)]⟩

def takeBack (w : Writing) (path : Text) : Writing :=
  if w.files.isFile path then
    match w.files.remove path with
    | .ok files => { w with files }.note (removed path)
    | .error f => w.note (notRemoved path (Failure.ofPath f).message)
  else w

def rollback (w : Writing) : Writing := w.opened.foldl takeBack w

def directoryOf (path : Text) : Text :=
  let head := Path.parent path
  if head.isEmpty then "." else head

def put (w : Writing) (path content : Text) : Writing × Option Files.PathFailure :=
  match w.files.makeDirectories (directoryOf path) with
  | (files, some f) => ({ w with files }, some f)
  | (files, none) =>
    match files.openForWriting path with
    | .error f => ({ w with files }, some f)
    | .ok files =>
      let w := { w with files, opened := w.opened ++ [path] }
      match files.write path content with
      | .error f => (w, some f)
      | .ok files => ({ w with files }, none)

def giveUp (w : Writing) (artifact : Artifact) (path : Text) (f : Failure) : Writing × Failure :=
  match f with
  -- only failures of the file system are foreseen and undone
  | .file _ | .missingKey _ =>
    (w.rollback.note (failed artifact path f.message), .artifactWrite artifact path f.message)
  | f => (w, f)

def putAll (w : Writing) (layout : Layout) (contents : Contents) : List Artifact → Writing × Option Failure
  | [] => (w, none)
  | artifact :: rest =>
    let path := layout.path artifact
    match contents.lookup artifact with
    | none => (fun (w, f) => (w, some f)) (w.giveUp artifact path (.missingKey artifact.name))
    | some content =>
      match w.put path content with
      | (w, some f) => (fun (w, f) => (w, some f)) (w.giveUp artifact path (.ofPath f))
      | (w, none) => (w.note (written artifact path content)).putAll layout contents rest

end Writing

def pathsOf (layout : Layout) : List (Artifact × Text) := Artifact.all.map fun a => (a, layout.path a)

def write (layout : Layout) (contents : Contents) : Work (List (Artifact × Text)) := do
  let (w, failure) := Writing.putAll { files := ← Work.files } layout contents Artifact.all
  Work.setFiles w.files
  Work.log w.records
  match failure with
  | some f => Work.fail f
  | none => return pathsOf layout

end TestWeaver.Generation
