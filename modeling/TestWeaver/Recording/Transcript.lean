import TestWeaver.Recording.Shape

/-!
A recording read line by line. Every line of the text is accounted for once: it is skipped, or it is a call,
or it is lost and reported. The calls are numbered from one in line order; a recording without any stands for
one navigation to the base page.
-/
namespace TestWeaver

def Action.ofCall (before : Nat) : Recording.Call → Action
  | .navigate url =>
    { id := .whole (before + 1), kind := .navigate, selector := none, value := .text url
      id_counts := Ordinal.isCounting_succ before, selector_given := Action.selector_of_navigation }
  | .act kind selector value given =>
    { id := .whole (before + 1), kind, selector := some selector, value := Value.ofOption value
      id_counts := Ordinal.isCounting_succ before, selector_given := fun _ => ⟨selector, rfl, given⟩ }

namespace Recording

inductive Line where
  | skipped
  | call (shape : Shape) (call : Call)
  | lost (text : Text)
  deriving DecidableEq, Repr

def skippedLeads : List Text := ["//", "#", "import ", "from ", "package ", "/*", "*"]

def isSkippable (line : Text) : Bool := line.isEmpty || skippedLeads.any line.startsWith

def Line.ofTrimmed (table : List Shape) (line : Text) : Line :=
  if isSkippable line then .skipped
  else match recognize? table line with
    | some (shape, c) => .call shape c
    | none => .lost line

structure Transcript where
  lines : List (Nat × Line)
  deriving Repr

namespace Transcript

def ofText (table : List Shape) (text : Text) : Transcript :=
  ⟨text.lines.zipIdx.map fun (line, i) => (i + 1, Line.ofTrimmed table line.trim)⟩

def calls (t : Transcript) : List Call := t.lines.filterMap fun
  | (_, .call _ c) => some c
  | _ => none

def lost (t : Transcript) : List (Nat × Text) := t.lines.filterMap fun
  | (n, .lost text) => some (n, text)
  | _ => none

def isFallback (t : Transcript) : Bool := t.calls.isEmpty

def number (given : Nat) : List Call → List Action
  | [] => []
  | call :: calls => .ofCall given call :: number (given + 1) calls

def actions (t : Transcript) : List Action :=
  if t.isFallback then number 0 [.navigate []] else number 0 t.calls

def lostWarning : Nat × Text → Text
  | (n, line) => "Line " ++ Text.ofNat n ++ " not recognized: " ++ line

def fallbackWarning : Text := "No recognizable actions found; using a single navigation action"

def warnings (t : Transcript) : List Text :=
  t.lost.map lostWarning ++ if t.isFallback then [fallbackWarning] else []

end Transcript

end Recording

end TestWeaver
