import Std.Time
import TestWeaver.CommandLine.Run
import TestWeaver.Log.Logger

/-!
The program. Files are taken into a store, the command line runs on it, and what the run has changed is put back. There is
no connection to a tracker, which therefore does not answer.
-/
namespace TestWeaver.Program

def settings : List String := [
  "BASE_URL", "OUTPUT_DIR", "STORIES_DIR", "LOG_LEVEL", "DEFAULT_PROJECT", "JIRA_BASE_URL", "JIRA_EMAIL", "JIRA_API_TOKEN",
  "JIRA_PROJECT_KEY", "JIRA_IS_CLOUD"]

def environment : IO Environment := do
  let found ← settings.mapM fun name => return (← IO.getEnv name).map fun value => ((name : Text), (value : Text))
  return found.filterMap id

def stringOf (t : Text) : String := String.ofList (t.chars?.getD [])

def pathAt (place : Files.Place) : String := stringOf ("/" ++ Text.join "/" place)

def entryAt (place : Files.Place) : IO.FS.DirEntry :=
  { root := pathAt place.dropLast, fileName := stringOf (place.getLast?.getD []) }

def takeIn (place : Files.Place) : (depth : Nat) → Files.Store → IO Files.Store
  | 0, s => return s
  | depth + 1, s => do
    try
      let path := (entryAt place).path
      if ← path.isDir then
        (← path.readDir).foldlM (fun s entry => takeIn (place ++ [(entry.fileName : Text)]) depth s) (s.put place .directory)
      else if ← path.pathExists then
        return s.put place (.file (← IO.FS.readBinFile path).toList)
      else return s
    catch _ => return s

def takePath (depth : Nat) (s : Files.Store) (path : Text) : IO Files.Store := do
  let place := Path.resolve s.working path
  let above := (List.range place.length).tail.foldl (fun s n => s.put (place.take n) .directory) s
  takeIn place depth above

def filesFor (words : List Text) : IO Files.Store := do
  let working := Path.segments ((← IO.currentDir).toString : Text)
  let named := match CommandLine.Invocation.ofWords words with
    | .ok i => [i.inputs.recording, i.inputs.outputDir].filterMap Value.text?
    | .error _ => []
  named.foldlM (takePath 3) (← takePath 16 { working } ".")

def putBack (before after : Files.Store) : IO Unit := do
  for (place, node) in after.nodes do
    if before.node? place ≠ some node then
      match node with
      | .directory => IO.FS.createDirAll (pathAt place)
      | .file content => IO.FS.writeBinFile (pathAt place) ⟨content.toArray⟩
  for (place, _) in before.nodes do
    if (after.node? place).isNone then IO.FS.removeFile (pathAt place)

def now : IO Text := return (← Std.Time.PlainDateTime.now).format "uuuu-MM-dd'T'HH:mm:ss.SSSSSS"

def inputFor (words : List Text) : IO Text :=
  match CommandLine.Invocation.ofWords words with
  | .ok { inputs := { recording := .text [.char '-'], .. }, .. } => return ((← (← IO.getStdin).readToEnd) : String)
  | _ => return []

def silent : Tracker.Endpoints := { otherwise := .broken .connection "there is no connection to the tracker" }

def tell (l : Except Failure Logger) (records : List Record) : IO Unit := do
  match l with
  | .error f => IO.eprintln (stringOf f.message)
  | .ok l =>
    for r in records do
      if let .ok (some r) := l.accept r then IO.eprintln (stringOf (r.line (← now) l.name))

def run (words : List Text) : IO UInt32 := do
  let e ← environment
  let files ← filesFor words
  let session : Session := { files, input := ← inputFor words, tracker := silent }
  let (result, after) := (CommandLine.run e words).runIn session
  tell (Logger.ofEnvironment e) after.records
  IO.print (stringOf after.printed)
  putBack files after.files
  match result with
  | .ok exit =>
    IO.eprint (stringOf exit.complaint)
    return exit.code.toUInt32
  | .error f =>
    IO.eprintln (stringOf f.message)
    return 1

end TestWeaver.Program

def main (arguments : List String) : IO UInt32 :=
  TestWeaver.Program.run (arguments.map TestWeaver.Text.ofString)
