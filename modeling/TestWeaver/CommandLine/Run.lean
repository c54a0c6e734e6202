import TestWeaver.CommandLine.Invocation
import TestWeaver.Workflow.Run

/-!
A run of the command line: it prints what happens, and ends with a code and what it has to complain about.
-/
namespace TestWeaver.CommandLine

structure Exit where
  code : Nat
  complaint : Text := []
  deriving DecidableEq, Repr

def Halt.exit (h : Halt) : Work Exit := do
  match h.stop with
  | .help =>
    Work.say h.place.help
    return { code := 0 }
  | .misuse message =>
    return { code := 2, complaint := h.place.usage ++ "\n" ++ h.place.title ++ ": error: " ++ message ++ "\n" }

def exitOf (o : Workflow.Outcome) : Work Exit := do
  let (word, code) : Text × Nat := match o.status with
    | .success => ("SUCCESS", 0)
    | .incomplete => ("WARNING", 0)
    | .failed => ("ERROR", 1)
  Workflow.sayAll ["", word ++ ": " ++ o.message]
  return { code }

def start (e : Environment) (w : Workflow) (i : Invocation) : Work Exit := do
  let (loaded, r) ← Registry.usual e
  let _ ← Work.ofExcept loaded
  let (outcome, _) ← Workflow.run r e w.name (.ofOption i.project) i.inputs
  exitOf (← Work.ofExcept outcome)

def run (e : Environment) (words : List Text) : Work Exit := do
  match Invocation.ofWords words with
  | .error h => h.exit
  | .ok i =>
    match i.workflow with
    | some w => start e w i
    | none =>
      Work.say (Place.help none)
      return { code := 1 }

end TestWeaver.CommandLine
