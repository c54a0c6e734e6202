import TestWeaver.Value.Shown
import TestWeaver.Text.Halves

/-!
Values written as JSON, in ASCII alone: a space after a comma and after a colon, and an escape for every code point
that is not printable ASCII, in pairs of halves past the first plane.
-/
namespace TestWeaver.Json

def escaped (p : CodePoint) : Text :=
  match p with
  | .char '"' => "\\\""
  | .char '\\' => "\\\\"
  | .char '\n' => "\\n"
  | .char '\r' => "\\r"
  | .char '\t' => "\\t"
  | .char '\x08' => "\\b"
  | .char '\x0c' => "\\f"
  | p =>
    if 0x20 ≤ p.value && p.value < 0x7F then [p]
    else (Text.unitsOf p).flatMap fun u => "\\u" ++ Text.hexadecimal 4 u

def quotedText (t : Text) : Text := "\"" ++ t.flatMap escaped ++ "\""

def numberText (x : Binary64) : Text := x.textWith "Infinity" "NaN"

def keyText? : Value → Option Text
  | .text t => some t
  | .null => some "null"
  | .bool b => some (if b then "true" else "false")
  | .int n => some (Text.ofInt n)
  | .real x => some (numberText x)
  | _ => none

mutual

def print? : Value → Option Text
  | .null => some "null"
  | .bool b => some (if b then "true" else "false")
  | .int n => some (Text.ofInt n)
  | .real x => some (numberText x)
  | .text t => some (quotedText t)
  | .list items => (printItems? items).map fun parts => "[" ++ Text.join ", " parts ++ "]"
  | .pair a b => (print? a).bind fun a => (print? b).map fun b => "[" ++ a ++ ", " ++ b ++ "]"
  | .mapping entries => (printEntries? entries).map fun parts => "\x7b" ++ Text.join ", " parts ++ "\x7d"
  | .shared _ v => print? v
  | _ => none

def printItems? : List Value → Option (List Text)
  | [] => some []
  | v :: vs => (print? v).bind fun part => (printItems? vs).map (part :: ·)

def printEntries? : List (Value × Value) → Option (List Text)
  | [] => some []
  | (k, v) :: rest =>
    (keyText? k).bind fun key => (print? v).bind fun part =>
      (printEntries? rest).map ((quotedText key ++ ": " ++ part) :: ·)

end

end TestWeaver.Json
