import TestWeaver.Text.Basic

/-!
Binary floating-point numbers of 64 bits, as exact data: a finite one is `mantissa * 2 ^ exponent`. Rounding goes
to the nearest number, and of two to the one with the even mantissa; all of it is integer arithmetic.
-/
namespace TestWeaver

inductive Binary64 where
  | finite (negative : Bool) (mantissa : Nat) (exponent : Int)
  | infinite (negative : Bool)
  | nan
  deriving DecidableEq, Repr, Inhabited

namespace Binary64

def zero (negative : Bool) : Binary64 := .finite negative 0 (-1074)

/-- The integer nearest to a quotient, and of two the even one. -/
def roundDiv (num den : Nat) : Nat :=
  let q := num / den
  let twice := 2 * (num % den)
  if twice < den then q else if twice > den then q + 1 else q + q % 2

def scale (num den : Nat) (power : Int) : Nat × Nat :=
  if 0 ≤ power then (num * Nat.pow 2 power.toNat, den) else (num, den * Nat.pow 2 (-power).toNat)

def ofRatio (negative : Bool) (num den : Nat) : Binary64 :=
  if num = 0 then zero negative
  else
    let k : Int := (Nat.log2 num : Int) - (Nat.log2 den : Int)
    let (n, d) := scale num den (53 - k)
    let tight : Int := if n / d < Nat.pow 2 53 then k - 53 else k - 52
    let exponent : Int := if tight < -1074 then -1074 else tight
    let (n, d) := scale num den (-exponent)
    let m := roundDiv n d
    let (m, exponent) := if m = Nat.pow 2 53 then (Nat.pow 2 52, exponent + 1) else (m, exponent)
    if exponent > 971 then .infinite negative else .finite negative m exponent

def ofDecimal (negative : Bool) (digits : Nat) (exponent : Int) : Binary64 :=
  if digits = 0 then zero negative
  else
    let magnitude : Int := (Nat.toDigits 10 digits).length + exponent
    if magnitude > 400 then .infinite negative
    else if magnitude < -400 then zero negative
    else if 0 ≤ exponent then ofRatio negative (digits * Nat.pow 10 exponent.toNat) 1
    else ofRatio negative digits (Nat.pow 10 (-exponent).toNat)

def ofInt (n : Int) : Binary64 := ofRatio (n < 0) n.natAbs 1

def ratio (mantissa : Nat) (exponent : Int) : Nat × Nat := scale mantissa 1 exponent

def neg : Binary64 → Binary64
  | finite s m e => finite (!s) m e
  | infinite s => infinite (!s)
  | nan => nan

def isZero : Binary64 → Bool
  | finite _ m _ => m == 0
  | _ => false

def ofSigned (num : Int) (den : Nat) : Binary64 := ofRatio (num < 0) num.natAbs den

def add : Binary64 → Binary64 → Binary64
  | nan, _ => nan
  | _, nan => nan
  | infinite s, infinite t => if s = t then infinite s else nan
  | infinite s, _ => infinite s
  | _, infinite t => infinite t
  | finite s m e, finite t n f =>
    if m = 0 ∧ n = 0 then zero (s && t)
    else
      let (a, b) := ratio m e
      let (c, d) := ratio n f
      let signed (negative : Bool) (x : Nat) : Int := if negative then -x else x
      ofSigned (signed s (a * d) + signed t (c * b)) (b * d)

def mul : Binary64 → Binary64 → Binary64
  | nan, _ => nan
  | _, nan => nan
  | infinite s, infinite t => infinite (s != t)
  | infinite s, finite t n _ => if n = 0 then nan else infinite (s != t)
  | finite s m _, infinite t => if m = 0 then nan else infinite (s != t)
  | finite s m e, finite t n f =>
    let (a, b) := ratio m e
    let (c, d) := ratio n f
    ofRatio (s != t) (a * c) (b * d)

def keepPlaces (places : Nat) : Binary64 → Binary64
  | finite s m e =>
    let (a, b) := ratio m e
    ofRatio s (roundDiv (a * Nat.pow 10 places) b) (Nat.pow 10 places)
  | x => x

def whole : Binary64 → Nat
  | finite _ m e =>
    let (a, b) := ratio m e
    a / b
  | _ => 0

def toInt? : Binary64 → Option Int
  | finite s m e =>
    let (a, b) := ratio m e
    if a % b = 0 then some (if s then -((a / b : Nat) : Int) else ((a / b : Nat) : Int)) else none
  | _ => none

end Binary64

end TestWeaver
