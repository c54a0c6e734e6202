import TestWeaver.Failure

/-!
A place in a YAML text: what is still to be read, and how many code points, lines and columns lie before it. A fault
has a place too, as the text may end, or break off, before it.
-/
namespace TestWeaver.Yaml

def isBreak (c : CodePoint) : Bool :=
  c == .char '\n' || c == .char '\r' || c == .char '\x85' || c == .char '\u2028' || c == .char '\u2029'

def isSpace (c : CodePoint) : Bool := c == .char ' '

def isSpaceOrTab (c : CodePoint) : Bool := c == .char ' ' || c == .char '\t'

def endsLine : Option CodePoint → Bool
  | none => true
  | some c => isBreak c

def endsWord : Option CodePoint → Bool
  | none => true
  | some c => isBreak c || isSpaceOrTab c

def endsTabbedWord : Option CodePoint → Bool
  | none => true
  | some c => isBreak c || isSpace c

def isOneOf (signs : String) (c : CodePoint) : Bool := signs.toList.any fun s => c == .char s

def byteOrderMark : CodePoint := .char '\ufeff'

structure Cursor where
  rest : Text
  index : Nat := 0
  line : Nat := 0
  column : Nat := 0
  deriving Repr

structure Fault where
  index : Nat
  failure : Failure
  deriving Repr

abbrev Scan := Except Fault

namespace Cursor

def refuse (c : Cursor) (f : Failure) : Scan α := .error ⟨c.index, f⟩

def malformed (c : Cursor) : Scan α := c.refuse .malformedYaml

def head? (c : Cursor) : Option CodePoint := c.rest.head?

def ahead? (c : Cursor) (n : Nat) : Option CodePoint := c.rest[n]?

def isAt (c : Cursor) (p : Char) : Bool := c.head? == some (.char p)

def next (c : Cursor) : Cursor :=
  match c.rest with
  | [] => c
  | p :: rest =>
    -- a carriage return before a line feed does not end the line yet
    if isBreak p && !(p == .char '\r' && rest.head? == some (.char '\n')) then
      { rest, index := c.index + 1, line := c.line + 1, column := 0 }
    else { rest, index := c.index + 1, line := c.line, column := if p == byteOrderMark then c.column else c.column + 1 }

def skip (c : Cursor) : Nat → Cursor
  | 0 => c
  | n + 1 => c.next.skip n

def takeWhile (c : Cursor) (p : CodePoint → Bool) : Text × Cursor :=
  let run := c.rest.takeWhile p
  (run, c.skip run.length)

def dropWhile (c : Cursor) (p : CodePoint → Bool) : Cursor := (c.takeWhile p).2

def takeBreak (c : Cursor) : Text × Cursor :=
  match c.rest with
  | .char '\r' :: .char '\n' :: _ => ("\n", c.skip 2)
  | p :: _ =>
    if p == .char '\u2028' || p == .char '\u2029' then ([p], c.next)
    else if isBreak p then ("\n", c.next)
    else ([], c)
  | [] => ([], c)

def isMarked (c : Cursor) (sign : Char) : Bool :=
  c.rest.take 3 == List.replicate 3 (.char sign) && endsWord (c.ahead? 3)

def isSeparator (c : Cursor) : Bool := c.isMarked '-' || c.isMarked '.'

end Cursor

end TestWeaver.Yaml
