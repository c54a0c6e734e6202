import TestWeaver.Project.Environment
import TestWeaver.Text.Case

/-!
Loggers: a record is let through by its level, may not use the names that every record has for itself, and becomes one
line of JSON.
-/
namespace TestWeaver

structure Logger where
  name : Text := "testgen"
  level : Int := 20
  deriving DecidableEq, Repr

namespace Logger

def levels : List (Text × Int) := [
  ("CRITICAL", 50), ("FATAL", 50), ("ERROR", 40), ("WARNING", 30), ("WARN", 30), ("INFO", 20), ("DEBUG", 10), ("NOTSET", 0)]

def levelOf (name : Text) : Int := (levels.lookup name).getD 20

def plainForm : Text := "%(levelname)s:%(name)s:%(message)s"

def levelSetBy (name : Text) : Except Failure Int :=
  -- two names are no levels but are taken: the plain form of a line goes by one, the styles of forms by the other
  if name = "BASIC_FORMAT" then .error (.invalid ("Unknown level: " ++ plainForm.quoted))
  else if name = "_STYLES" then .error (.wrongType "Level not an integer or a valid string")
  else .ok (levelOf name)

def ofEnvironment (e : Environment) : Except Failure Logger := return { level := ← levelSetBy e.logLevel.upper }

def threshold (l : Logger) : Int := if l.level = 0 then 30 else l.level

def reservedNames : List Text := [
  "name", "msg", "args", "levelname", "levelno", "pathname", "filename", "module", "exc_info", "exc_text", "stack_info",
  "lineno", "funcName", "created", "msecs", "relativeCreated", "thread", "threadName", "processName", "process", "message",
  "asctime"]

def reserved (name : Text) : Failure := .missingKey ("Attempt to overwrite " ++ name.quoted ++ " in LogRecord")

def checkNames (fields : List (Text × Value)) : Except Failure Unit :=
  match fields.find? fun (name, _) => reservedNames.contains name with
  | some (name, _) => .error (reserved name)
  | none => .ok ()

def accept (l : Logger) (r : Record) : Except Failure (Option Record) := do
  if (r.level.number : Int) < l.threshold then return none
  checkNames r.fields
  return some r

def rounded : Value → Except Failure Value
  | .real x => .ok (.real (x.keepPlaces 2))
  | v =>
    match v.integer? with
    | some n => .ok (.int n)
    | none => .error (.wrongType ("type " ++ v.kindName ++ " doesn't define __round__ method"))

end Logger

namespace Record

def raised (event kind message : Text) : Record :=
  ⟨.error, event, [("exception", .text (if message.isEmpty then kind else kind ++ ": " ++ message))]⟩

def printable (v : Value) : Value := if (Json.print? v).isSome then v else .text v.shown

def entries (r : Record) (time logger : Text) : List (Value × Value) :=
  let head : List (Text × Value) :=
    [("timestamp", .text time), ("level", .text r.level.name), ("event", .text r.event), ("logger", .text logger)]
  (r.fields.filter fun (name, _) => name != "taskName").foldl
    (fun entries (name, v) => Value.insert entries (.text name) (printable v)) (head.map fun (k, v) => (.text k, v))

def line (r : Record) (time logger : Text) : Text := (Json.print? (.mapping (r.entries time logger))).getD []

end Record

def Logger.writeLine (l : Logger) (path time : Text) (r : Record) : Work Unit := do
  match ← Work.ofExcept (l.accept r) with
  | none => Work.onFiles fun files => files.openForAdding path
  | some r =>
    Work.onFiles fun files => files.openForAdding path
    Work.onFiles fun files => files.write path (r.line time l.name ++ "\n")

end TestWeaver
