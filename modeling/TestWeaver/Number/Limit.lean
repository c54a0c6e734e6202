import TestWeaver.Text.Basic

/-!
Numerals of base ten have a greatest length: a longer one is not read, and an integer that would need one is not
written. Other bases have no such limit.
-/
namespace TestWeaver

inductive LongNumeral where
  | given (digits : Nat)
  | needed
  deriving DecidableEq, Repr

namespace LongNumeral

def limit : Nat := 4300

def limitText : Text := "Exceeds the limit (" ++ Text.ofNat limit ++ " digits) for integer string conversion"

def message (e : LongNumeral) : Text :=
  limitText ++ (match e with
    | given digits => ": value has " ++ Text.ofNat digits ++ " digits"
    | needed => []) ++ "; use sys.set_int_max_str_digits() to increase the limit"

def read (digits : Nat) (value : α) : Except LongNumeral α :=
  if limit < digits then .error (.given digits) else .ok value

def isNeededFor (n : Int) : Bool := Nat.pow 10 limit ≤ n.natAbs

end LongNumeral

end TestWeaver
