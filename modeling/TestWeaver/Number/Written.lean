import TestWeaver.Number.Binary64
import TestWeaver.Number.Limit
import TestWeaver.Text.Blank
import TestWeaver.Text.Numeral

/-!
Numbers as people write them: with blanks around, a sign, and digits of any script.
-/
namespace TestWeaver.Written

/-- What may stand around a number: white space, but not the separators of files and records. -/
def isMargin (c : CodePoint) : Bool :=
  if c.value < 0x80 then 9 ≤ c.value && c.value ≤ 13 || c.value == 0x20 else c.isBlank

def decimalDigit? (c : CodePoint) : Option Nat :=
  match c.digitValue? with
  | some n => some n
  | none => (decimalRanges.find? fun (low, high) => low ≤ c.value && c.value ≤ high).map fun (low, _) => (c.value - low) % 10

def digit? (base : Nat) (c : CodePoint) : Option Nat :=
  ((decimalDigit? c).or c.hexValue?).filter (· < base)

def sign (t : Text) : Bool × Text :=
  match t with
  | .char '-' :: rest => (true, rest)
  | .char '+' :: rest => (false, rest)
  | _ => (false, t)

def baseLetters : Nat → List Char
  | 2 => ['b', 'B']
  | 8 => ['o', 'O']
  | 16 => ['x', 'X']
  | _ => []

def dropBase (base : Nat) (t : Text) : Text :=
  match t with
  | .char '0' :: .char c :: rest => if (baseLetters base).contains c then rest else t
  | _ => t

def natural? (base : Nat) (t : Text) : Option Nat :=
  if t.isEmpty then none else t.foldlM (fun n c => (digit? base c).map fun d => base * n + d) 0

inductive IntegerError where
  | malformed
  | long (e : LongNumeral)
  deriving DecidableEq, Repr

def longRun? (t : Text) : Option LongNumeral :=
  let digits := (t.takeWhile fun c => (decimalDigit? c).isSome).length
  if LongNumeral.limit < digits then some (.given digits) else none

def integer (base : Nat) (t : Text) : Except IntegerError Int :=
  let (negative, digits) := sign (t.dropBoth isMargin)
  match (if base = 10 then longRun? digits else none), natural? base (dropBase base digits) with
  | some e, _ => .error (.long e)
  | none, some n => .ok (if negative then -(n : Int) else n)
  | none, none => .error .malformed

def exponent? : Text → Option Int
  | [] => some 0
  | e :: t =>
    if e = .char 'e' || e = .char 'E' then
      let (negative, digits) := sign t
      (natural? 10 digits).map fun n => if negative then -(n : Int) else n
    else none

def isDigit (c : CodePoint) : Bool := (decimalDigit? c).isSome

def positional? (negative : Bool) (t : Text) : Option Binary64 := do
  let whole := t.takeWhile isDigit
  let rest := t.drop whole.length
  let (places, rest) := match rest with
    | .char '.' :: rest => (rest.takeWhile isDigit, rest.dropWhile isDigit)
    | rest => ([], rest)
  let digits ← natural? 10 (whole ++ places)
  let exponent ← exponent? rest
  return Binary64.ofDecimal negative digits (exponent - places.length)

def real? (t : Text) : Option Binary64 :=
  let (negative, t) := sign (t.dropBoth isMargin)
  if t = "inf" || t = "infinity" then some (.infinite negative)
  else if t = "nan" then some .nan
  else positional? negative t

end TestWeaver.Written
