import TestWeaver.Value.Basic

/-!
Numbers that put things in order, from one onward. A number keeps how it was written, as a whole number, with places
or as the truth value that counts as one; what comes first, and what is the same, is a matter of its value alone.
-/
namespace TestWeaver

inductive Ordinal where
  | whole (n : Nat)
  | real (x : Binary64)
  | truth
  deriving DecidableEq, Repr

namespace Ordinal

def text : Ordinal → Text
  | whole n => Text.ofNat n
  | real x => x.text
  | truth => "True"

def toValue : Ordinal → Value
  | whole n => .int n
  | real x => .real x
  | truth => .bool true

def ofValue? : Value → Option Ordinal
  | .int n => some (whole n.toNat)
  | .real x => some (real x)
  | .bool b => some (if b then truth else whole 0)
  | _ => none

def isCounting : Ordinal → Bool
  | whole n => 0 < n
  | real (.finite negative m e) => !negative && (Binary64.ratio m e).2 ≤ (Binary64.ratio m e).1
  | real (.infinite negative) => !negative
  | real .nan => true
  | truth => true

def ratio? : Ordinal → Option (Nat × Nat)
  | whole n => some (n, 1)
  | real (.finite _ m e) => some (Binary64.ratio m e)
  | real _ => none
  | truth => some (1, 1)

def le (o p : Ordinal) : Bool :=
  match o.ratio?, p.ratio? with
  | some (a, b), some (c, d) => a * d ≤ c * b
  | none, some _ => false
  | _, none => true

def isSame (o p : Ordinal) : Bool :=
  match o.ratio?, p.ratio? with
  | some (a, b), some (c, d) => a * d == c * b
  | none, none => true
  | _, _ => false

theorem le_whole (m n : Nat) : (whole m).le (whole n) = decide (m ≤ n) := by simp [le, ratio?]

theorem isSame_whole (m n : Nat) : (whole m).isSame (whole n) = (m == n) := by simp [isSame, ratio?]

theorem isCounting_succ (n : Nat) : (whole (n + 1)).isCounting = true := by simp [isCounting]

end Ordinal

end TestWeaver
