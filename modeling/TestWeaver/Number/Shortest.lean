import TestWeaver.Number.Binary64

/-!
The shortest decimal that reads back as a given binary number, and its text: positional from 10^-4 up to 10^16,
with a point and at least one place, and with an exponent of at least two digits elsewhere.
-/
namespace TestWeaver

structure Decimal where
  digits : List Char
  point : Int
  deriving DecidableEq, Repr

namespace Binary64

/-- Twice the value and its two rounding bounds, over one denominator: lower bound, value, upper bound. -/
def roundingInterval (mantissa : Nat) (exponent : Int) : Nat × Nat × Nat × Nat :=
  let isLowest := mantissa = Nat.pow 2 52 ∧ exponent > -1074
  let (low, mid, high) := if isLowest then (4 * mantissa - 1, 4 * mantissa, 4 * mantissa + 2)
    else (4 * mantissa - 2, 4 * mantissa, 4 * mantissa + 2)
  let (_, d) := scale 1 1 (exponent - 2)
  let f (n : Nat) : Nat := (scale n 1 (exponent - 2)).1
  (f low, f mid, f high, d)

def nearestOnGrid? (interval : Nat × Nat × Nat × Nat) (even : Bool) (place : Int) : Option Nat :=
  let (low, mid, high, den) := interval
  let up := if 0 ≤ place then 1 else Nat.pow 10 (-place).toNat
  let unit := den * (if 0 ≤ place then Nat.pow 10 place.toNat else 1)
  let (low, mid, high) := (low * up, mid * up, high * up)
  let below := mid / unit
  let inside (k : Nat) : Bool :=
    let x := k * unit
    low < x && x < high || even && (x == low || x == high)
  match inside below, inside (below + 1) with
  | true, true =>
    let short := mid - below * unit
    let excess := (below + 1) * unit - mid
    -- when both are as near, it is the even multiple
    some (if short < excess || short == excess && below % 2 == 0 then below else below + 1)
  | true, false => some below
  | false, true => some (below + 1)
  | false, false => none

def pointOf (num den : Nat) : Int :=
  let guess : Int := ((Nat.toDigits 10 num).length : Int) - ((Nat.toDigits 10 den).length : Int)
  let below (p : Int) : Bool := if 0 ≤ p then num < den * Nat.pow 10 p.toNat else num * Nat.pow 10 (-p).toNat < den
  if below guess then guess else guess + 1

def shortestFrom (interval : Nat × Nat × Nat × Nat) (even : Bool) (point : Int) (count : Nat) : (more : Nat) → Decimal
  | 0 => ⟨['0'], 1⟩
  | more + 1 =>
    let place := point - count
    match nearestOnGrid? interval even place with
    | some k =>
      let digits := Nat.toDigits 10 k
      ⟨(digits.reverse.dropWhile (· == '0')).reverse, place + digits.length⟩
    | none => shortestFrom interval even point (count + 1) more

def shortest (mantissa : Nat) (exponent : Int) : Decimal :=
  let (num, den) := ratio mantissa exponent
  -- seventeen digits always suffice
  shortestFrom (roundingInterval mantissa exponent) (mantissa % 2 == 0) (pointOf num den) 1 17

end Binary64

namespace Decimal

def signedExponent (e : Int) : Text :=
  let digits := Text.ofNat e.natAbs
  (if e < 0 then "e-" else "e+") ++ (if digits.length < 2 then "0" ++ digits else digits)

def text (d : Decimal) : Text :=
  let digits : Text := d.digits.map .char
  let n : Int := d.digits.length
  let zeros (k : Int) : Text := List.replicate k.toNat (.char '0')
  if -4 < d.point ∧ d.point ≤ 16 then
    if d.point ≤ 0 then "0." ++ zeros (-d.point) ++ digits
    else if n ≤ d.point then digits ++ zeros (d.point - n) ++ ".0"
    else digits.take d.point.toNat ++ "." ++ digits.drop d.point.toNat
  else
    digits.take 1 ++ (if 1 < d.digits.length then "." ++ digits.drop 1 else []) ++ signedExponent (d.point - 1)

end Decimal

namespace Binary64

def sign (negative : Bool) : Text := if negative then "-" else ""

def textWith (infinity nan : Text) : Binary64 → Text
  | finite s m e => sign s ++ (if m = 0 then ("0.0" : Text) else (shortest m e).text)
  | infinite s => sign s ++ infinity
  | .nan => nan

def text : Binary64 → Text := textWith "inf" "nan"

end Binary64

end TestWeaver
