import TestWeaver.Text.Blank
import TestWeaver.Text.Halves

/-!
String literals of recorded calls: between two equal quotation marks, on one line, with backslash escapes.

A backslash may stand for itself or guard the code point after it, so a literal may be able to end at several
quotation marks. `closings` lists the ends, the preferred one first: backslashes are paired from the left, and
a quotation mark that a pair guards ends the literal only when no other reading fits.
-/
namespace TestWeaver.Recording

def isQuote : CodePoint → Bool
  | .char '"' | .char '\'' | .char '`' => true
  | _ => false

/-- The ends of a literal whose content so far is `body`, last code point first, and ends in `run`
backslashes. Each end is the whole content and the text after the closing mark. -/
def closingsFrom (quote : CodePoint) (body : Text) (run : Nat) : Text → List (Text × Text)
  | [] => []
  | c :: t =>
    if c = .char '\n' then []
    else if c = quote then
      if run = 0 then [(body.reverse, t)]
      else
        let later := closingsFrom quote (c :: body) 0 t
        if run % 2 = 0 then (body.reverse, t) :: later else later ++ [(body.reverse, t)]
    else closingsFrom quote (c :: body) (if c = .char '\\' then run + 1 else 0) t

def literals : Text → List (Text × Text)
  | [] => []
  | c :: t => if isQuote c then closingsFrom c [] 0 t else []

def controlEscape? : CodePoint → Option CodePoint
  | .char 'n' => some (.char '\n')
  | .char 't' => some (.char '\t')
  | .char 'r' => some (.char '\r')
  | .char 'b' => some (.char '\x08')
  | .char 'f' => some (.char '\x0c')
  | .char 'v' => some (.char '\x0b')
  | _ => none

def isHex (p : CodePoint) : Bool := p.hexValue?.isSome

def bracedEscape? (t : Text) : Option (Text × Nat) :=
  let digits := t.takeWhile isHex
  if 1 ≤ digits.length ∧ digits.length ≤ 6 ∧ t[digits.length]? = some (.char '\x7d') then
    some (match CodePoint.ofNat? (Text.hexadecimalValue digits) with
      | some p => [p]
      -- a number past the last code point stands for its own spelling
      | none => "\\u\x7b" ++ digits ++ "\x7d", digits.length + 1)
  else none

def fixedEscape? (width : Nat) (t : Text) : Option (Text × Nat) :=
  let digits := t.take width
  if digits.length = width ∧ digits.all isHex then
    (CodePoint.ofNat? (Text.hexadecimalValue digits)).map fun p => ([p], width)
  else none

def escapeAfter (c : CodePoint) (t : Text) : Text × Nat :=
  let numeric :=
    if c = .char 'u' then
      match t with
      | .char '\x7b' :: inner => (bracedEscape? inner).map fun (out, n) => (out, n + 2)
      | _ => (fixedEscape? 4 t).map fun (out, n) => (out, n + 1)
    else if c = .char 'x' then (fixedEscape? 2 t).map fun (out, n) => (out, n + 1)
    else none
  numeric.getD ([(controlEscape? c).getD c], 1)

def decodeFrom : (covered : Nat) → Text → Text
  | _, [] => []
  | n + 1, _ :: t => decodeFrom n t
  | 0, c :: t =>
    if c = .char '\\' then
      match t with
      | [] => [c]
      | e :: rest =>
        let (out, n) := escapeAfter e rest
        out ++ decodeFrom n t
    else c :: decodeFrom 0 t

def withoutHalves (t : Text) : Text := t.map fun
  | .half _ => .char '\ufffd'
  | c => c

def unescape (t : Text) : Text := withoutHalves (Text.joinPairs (decodeFrom 0 t))

end TestWeaver.Recording
