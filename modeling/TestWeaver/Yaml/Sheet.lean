import TestWeaver.Yaml.Cursor

/-!
A sheet that a YAML text is written on, and how texts of the four styles are written: long ones are broken at a single
space, or anywhere between quotation marks that allow it.
-/
namespace TestWeaver.Yaml

def bestWidth : Nat := 80

structure Sheet where
  /-- What is written, last first. -/
  pieces : List Text := []
  column : Nat := 0
  afterBlank : Bool := true
  /-- Whether the line holds nothing but what a collection inside may share it with. -/
  isOpen : Bool := true
  named : List Nat := []
  known : List Nat := []
  deriving Repr

namespace Sheet

def text (s : Sheet) : Text := s.pieces.reverse.flatten

def write (s : Sheet) (t : Text) : Sheet := { s with pieces := t :: s.pieces, column := s.column + t.length }

def sign (s : Sheet) (t : Text) : Sheet :=
  { s.write (if s.afterBlank then t else " " ++ t) with afterBlank := false, isOpen := false }

def tightSign (s : Sheet) (t : Text) : Sheet := { s.write t with afterBlank := false, isOpen := false }

def openSign (s : Sheet) (t : Text) : Sheet := { s.sign t with isOpen := s.isOpen }

def breakWith (s : Sheet) (t : Text) : Sheet :=
  { s with pieces := t :: s.pieces, column := 0, afterBlank := true, isOpen := true }

def toIndent (s : Sheet) (indent : Nat) : Sheet :=
  let s := if !s.isOpen || indent < s.column || s.column = indent && !s.afterBlank then s.breakWith "\n" else s
  if s.column < indent then { s.write (List.replicate (indent - s.column) (.char ' ')) with afterBlank := true } else s

def foldTo (s : Sheet) (indent : Nat) : Sheet := { s.toIndent indent with afterBlank := false, isOpen := false }

def runs (t : Text) : List Text := t.splitBy fun a b => isSpace a == isSpace b

def isFold (s : Sheet) (run : Text) : Bool := run == " " && bestWidth < s.column

def plain (s : Sheet) (indent : Nat) (mayFold : Bool) (t : Text) : Sheet :=
  let s := if s.afterBlank || t.isEmpty then s else s.write " "
  (runs t).foldl (fun s run => if mayFold && s.isFold run then s.foldTo indent else s.write run)
    (if t.isEmpty then s else { s with afterBlank := false, isOpen := false })

def breaks (s : Sheet) (run : Text) : Sheet :=
  let s := if run.head? == some (.char '\n') then s.breakWith "\n" else s
  run.foldl (fun s c => s.breakWith [c]) s

def quotedRuns (t : Text) : List Text :=
  t.splitBy fun a b => isSpace a && isSpace b || isBreak a && isBreak b
    || !(isSpace a || isBreak a || a == .char '\'') && !(isSpace b || isBreak b || b == .char '\'')

def singleRuns (indent : Nat) (mayFold : Bool) : (isFirst : Bool) → Sheet → List Text → Sheet
  | _, s, [] => s
  | isFirst, s, run :: rest =>
    let next :=
      if run == "'" then s.write "''"
      else if run.any isBreak then (s.breaks run).toIndent indent
      else if mayFold && !isFirst && !rest.isEmpty && s.isFold run then s.toIndent indent
      else s.write run
    singleRuns indent mayFold false next rest

def single (s : Sheet) (indent : Nat) (mayFold : Bool) (t : Text) : Sheet :=
  (singleRuns indent mayFold true (s.sign "'") (quotedRuns t)).tightSign "'"

def escapeLetter? : CodePoint → Option Char
  | .char '\x00' => some '0'
  | .char '\x07' => some 'a'
  | .char '\x08' => some 'b'
  | .char '\t' => some 't'
  | .char '\n' => some 'n'
  | .char '\x0b' => some 'v'
  | .char '\x0c' => some 'f'
  | .char '\r' => some 'r'
  | .char '\x1b' => some 'e'
  | .char '"' => some '"'
  | .char '\\' => some '\\'
  | .char '\x85' => some 'N'
  | .char '\xa0' => some '_'
  | .char '\u2028' => some 'L'
  | .char '\u2029' => some 'P'
  | _ => none

def isLiteral (c : CodePoint) : Bool :=
  0x20 ≤ c.value && c.value ≤ 0x7E && c != .char '"' && c != .char '\\'

def capitalHex (width n : Nat) : Text := (Text.hexadecimal width n).map CodePoint.capital

def escaped (c : CodePoint) : Text :=
  match escapeLetter? c with
  | some letter => [.char '\\', .char letter]
  | none =>
    if c.value ≤ 0xFF then "\\x" ++ capitalHex 2 c.value
    else if c.value ≤ 0xFFFF then "\\u" ++ capitalHex 4 c.value
    else "\\U" ++ capitalHex 8 c.value

def doubleFold (s : Sheet) (indent : Nat) (pending : Text) (next : Option CodePoint) : Sheet :=
  let s := (s.write (pending ++ "\\")).foldTo indent
  if next == some (.char ' ') then s.write "\\" else s

def doubleFrom (indent : Nat) (mayFold : Bool) : (isFirst : Bool) → (pending : Text) → Sheet → Text → Sheet
  | _, pending, s, [] => s.write pending
  | isFirst, pending, s, c :: rest =>
    let mayFoldHere := mayFold && !isFirst && !rest.isEmpty
    if isLiteral c then
      if mayFoldHere && (isSpace c || pending.isEmpty) && bestWidth < s.column + pending.length then
        doubleFrom indent mayFold false [c] (s.doubleFold indent pending (some c)) rest
      else doubleFrom indent mayFold false (pending ++ [c]) s rest
    else
      let s := (s.write pending).write (escaped c)
      let s := if mayFoldHere && bestWidth + 1 < s.column then s.doubleFold indent [] rest.head? else s
      doubleFrom indent mayFold false [] s rest

def double (s : Sheet) (indent : Nat) (mayFold : Bool) (t : Text) : Sheet :=
  (doubleFrom indent mayFold true [] (s.sign "\"") t).tightSign "\""

def literal (s : Sheet) (indent : Nat) (lines : List Text) : Sheet :=
  lines.foldl (fun s line => (s.toIndent indent).write line |>.breakWith "\n") ((s.sign "|").breakWith "\n")

end Sheet

end TestWeaver.Yaml
