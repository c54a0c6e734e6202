import TestWeaver.Files.Error
import TestWeaver.Path
import TestWeaver.Text.Utf8

/-!
A file system: files and directories at places, given as segments from the root. Operations take paths, and fail
when a path leads nowhere, through a file, or to the wrong sort of thing. An operation may also be refused on paths
with a given end.
-/
namespace TestWeaver.Files

inductive Node where
  | directory
  | file (content : Bytes)
  deriving DecidableEq, Repr

inductive Operation where
  | openForWriting
  | write
  | remove
  | makeDirectories
  deriving DecidableEq, Repr

structure Refusal where
  operation : Operation
  pathEnd : Text
  message : Text
  deriving DecidableEq, Repr

abbrev Place := List Text

structure Store where
  /-- What is at the places below the root; no place is listed twice. -/
  nodes : List (Place × Node) := []
  working : Place := []
  refusals : List Refusal := []
  deriving Repr

inductive PathFailure where
  | embeddedNull
  | unencodable (e : Utf8.EncodeError)
  | failed (e : FileError)
  deriving DecidableEq, Repr

def PathFailure.isExists : PathFailure → Bool
  | .failed (.condition .exists _) => true
  | _ => false

def PathFailure.isAbsence : PathFailure → Bool
  | .failed (.condition .noEntry _) | .failed (.condition .notDirectory _) => true
  | .embeddedNull | .unencodable _ => true
  | .failed _ => false

namespace Store

def node? (s : Store) (place : Place) : Option Node :=
  if place.isEmpty then some .directory else s.nodes.lookup place

def put (s : Store) (place : Place) (node : Node) : Store :=
  { s with nodes := s.nodes.filter (fun (p, _) => p != place) ++ [(place, node)] }

def erase (s : Store) (place : Place) : Store := { s with nodes := s.nodes.filter fun (p, _) => p != place }

def encoded (path : Text) : Except PathFailure Bytes :=
  match Utf8.encode path with
  | .error e => .error (.unencodable e)
  | .ok bytes => if bytes.contains 0 then .error .embeddedNull else .ok bytes

def byteLength (t : Text) : Nat := ((Utf8.encode t).toOption.getD []).length

def nameLimit : Nat := 255
def pathLimit : Nat := 4095

def walk (s : Store) (place : Place) : List Text → Except Condition Place
  | [] => .ok place
  | segment :: rest =>
    match s.node? place with
    | none => .error .noEntry
    | some (.file _) => .error .notDirectory
    | some .directory =>
      if segment = ".." then s.walk place.dropLast rest
      else if nameLimit < byteLength segment then .error .nameTooLong
      else s.walk (place ++ [segment]) rest

def find (s : Store) (path : Text) : Except PathFailure Place := do
  let bytes ← encoded path
  let fail (c : Condition) : PathFailure := .failed (.condition c path)
  if path.isEmpty then throw (fail .noEntry)
  if pathLimit < bytes.length then throw (fail .nameTooLong)
  let place ← (s.walk (if Path.isAbsolute path then [] else s.working) (Path.segments path)).mapError fail
  match s.node? place with
  | some (.file _) => if path.endsWith "/" || path.endsWith "/." then throw (fail .notDirectory) else pure place
  | _ => pure place

def stat (s : Store) (path : Text) : Except PathFailure Node := do
  let place ← s.find path
  match s.node? place with
  | some node => pure node
  | none => throw (.failed (.condition .noEntry path))

def isFile (s : Store) (path : Text) : Bool :=
  match s.stat path with
  | .ok (.file _) => true
  | _ => false

def look (s : Store) (path : Text) : Except PathFailure (Option Node) :=
  match s.stat path with
  | .ok node => .ok (some node)
  | .error f => if f.isAbsence then .ok none else .error f

def isDirectory (s : Store) (path : Text) : Bool :=
  match s.stat path with
  | .ok .directory => true
  | _ => false

def isThere (s : Store) (path : Text) : Bool := (s.stat path).isOk

def refusal? (s : Store) (operation : Operation) (path : Text) : Option FileError :=
  (s.refusals.find? fun r => r.operation = operation ∧ path.endsWith r.pathEnd).map fun r => .refused r.message

def read (s : Store) (path : Text) : Except PathFailure Bytes := do
  match ← s.stat path with
  | .file content => pure content
  | .directory => throw (.failed (.condition .isDirectory path))

def openWith (s : Store) (path : Text) (kept : Bytes → Bytes) : Except PathFailure Store := do
  if let some e := s.refusal? .openForWriting path then throw (.failed e)
  let place ← s.find path
  match s.node? place with
  | some .directory => throw (.failed (.condition .isDirectory path))
  | none =>
    if path.endsWith "/" || path.endsWith "/." then throw (.failed (.condition .isDirectory path))
    else pure (s.put place (.file (kept [])))
  | some (.file content) => pure (s.put place (.file (kept content)))

def openForWriting (s : Store) (path : Text) : Except PathFailure Store := s.openWith path fun _ => []

def openForAdding (s : Store) (path : Text) : Except PathFailure Store := s.openWith path id

def write (s : Store) (path : Text) (content : Text) : Except PathFailure Store := do
  if let some e := s.refusal? .write path then throw (.failed e)
  let bytes ← (Utf8.encode content).mapError .unencodable
  let place ← s.find path
  match s.node? place with
  | some (.file before) => pure (s.put place (.file (before ++ bytes)))
  | _ => pure (s.put place (.file bytes))

def remove (s : Store) (path : Text) : Except PathFailure Store := do
  if let some e := s.refusal? .remove path then throw (.failed e)
  let place ← s.find path
  match s.node? place with
  | none => throw (.failed (.condition .noEntry path))
  | some .directory => throw (.failed (.condition .isDirectory path))
  | some (.file _) => pure (s.erase place)

def makeDirectory (s : Store) (path : Text) : Except PathFailure Store := do
  let place ← s.find path
  match s.node? place with
  | none => pure (s.put place .directory)
  | some _ => throw (.failed (.condition .exists path))

def splitName (path : Text) : Text × Text :=
  let tail := Path.name path
  let head := Path.parent path
  if tail.isEmpty then (Path.parent head, Path.name head) else (head, tail)

def makeLast (s : Store) (path : Text) : Except PathFailure Store :=
  match s.makeDirectory path with
  | .ok s => .ok s
  | .error (.failed e) => if s.isDirectory path then .ok s else .error (.failed e)
  | .error f => .error f

def finishDirectory (s : Store) (path : Text) : Store × Option PathFailure :=
  match s.makeLast path with
  | .ok s => (s, none)
  | .error f => (s, some f)

def makeDirectoriesTo (s : Store) (path : Text) : (depth : Nat) → Store × Option PathFailure
  | 0 => (s, some (.failed (.condition .nameTooLong path)))
  | depth + 1 =>
    match s.refusal? .makeDirectories path with
    | some e => (s, some (.failed e))
    | none =>
      let (head, tail) := splitName path
      if head.isEmpty || tail.isEmpty || s.isThere head then s.finishDirectory path
      else match s.makeDirectoriesTo head depth with
        -- what was made above stays, also when this one fails
        | (s, some f) => if f.isExists then s.finishDirectory path else (s, some f)
        | (s, none) => if tail = "." then (s, none) else s.finishDirectory path

def makeDirectories (s : Store) (path : Text) : Store × Option PathFailure := s.makeDirectoriesTo path (path.length + 1)

def settleDirectory (s : Store) (path : Text) : Except PathFailure Store → Store × Option PathFailure
  | .ok s => (s, none)
  | .error (.failed (.condition .noEntry p)) => (s, some (.failed (.condition .noEntry p)))
  | .error (.failed e) => if s.isDirectory path then (s, none) else (s, some (.failed e))
  | .error f => (s, some f)

def makeAllTo (s : Store) (path : Text) : (depth : Nat) → Store × Option PathFailure
  | 0 => (s, some (.failed (.condition .noEntry path)))
  | depth + 1 =>
    match s.makeDirectory path with
    | .error (.failed (.condition .noEntry p)) =>
      if Path.above path = path then (s, some (.failed (.condition .noEntry p)))
      else match s.makeAllTo (Path.above path) depth with
        | (s, some f) => (s, some f)
        | (s, none) => s.settleDirectory path (s.makeDirectory path)
    | result => s.settleDirectory path result

def makeAll (s : Store) (path : Text) : Store × Option PathFailure := s.makeAllTo path (path.length + 1)

def entries (s : Store) (path : Text) : List Text :=
  match s.find path with
  | .error _ => []
  | .ok place => (s.nodes.filterMap fun (p, _) =>
      if p.dropLast = place then p.getLast? else none).mergeSort Text.le

end Store

end TestWeaver.Files
