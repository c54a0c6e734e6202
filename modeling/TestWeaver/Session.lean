import TestWeaver.Files.Store
import TestWeaver.Log.Record
import TestWeaver.Tracker.Exchange

/-!
A session: the files it works on, the text it can still read from its input, the answers of its tracker, and what it has
logged, printed and asked so far. A piece of work runs in a session; what it did up to a failure stays done.
-/
namespace TestWeaver

structure Session where
  files : Files.Store := {}
  input : Text := []
  tracker : Tracker.Endpoints := {}
  records : List Record := []
  printed : Text := []
  exchanges : List Tracker.Exchange := []
  deriving Repr

abbrev Work := ExceptT Failure (StateM Session)

def Failure.ofPath : Files.PathFailure → Failure
  | .embeddedNull => .invalid "embedded null byte"
  | .unencodable e => .unencodable e
  | .failed e => .file e

namespace Work

def fail (f : Failure) : Work α := throw f

def ofExcept (r : Except Failure α) : Work α := fun session => (r, session)

def log (records : List Record) : Work Unit := modify fun s => { s with records := s.records ++ records }

def say (line : Text) : Work Unit := modify fun s => { s with printed := s.printed ++ line ++ "\n" }

def readInput : Work Text := fun session => (.ok session.input, { session with input := [] })

def files : Work Files.Store := return (← get).files

def setFiles (files : Files.Store) : Work Unit := modify fun s => { s with files }

def onFiles (operation : Files.Store → Except Files.PathFailure Files.Store) : Work Unit := do
  match operation (← files) with
  | .ok files => setFiles files
  | .error f => fail (.ofPath f)

def attempt (work : Work α) : Work (Except Failure α) := fun session =>
  match work session with
  | (result, session) => (.ok result, session)

def runIn (session : Session) (work : Work α) : Except Failure α × Session := work session

end Work

end TestWeaver
