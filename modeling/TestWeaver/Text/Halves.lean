import TestWeaver.Text.Basic

/-!
Pairs of surrogate halves. A high half and the low half right after it spell one code point together; any other
half stays alone.
-/
namespace TestWeaver.Text

def isHigh (u : Fin 2048) : Bool := u.val < 1024

def pairOf (high low : Fin 2048) : CodePoint :=
  (CodePoint.ofNat? (0x10000 + high * 0x400 + (low - 0x400 : Nat))).getD (.half high)

def joinPairs : Text → Text
  | .half u :: .half v :: t =>
    if isHigh u && !isHigh v then pairOf u v :: joinPairs t else .half u :: joinPairs (.half v :: t)
  | c :: t => c :: joinPairs t
  | [] => []

def unitsOf (p : CodePoint) : List Nat :=
  let n := p.value
  if n < 0x10000 then [n] else [0xD800 + (n - 0x10000) / 0x400, 0xDC00 + (n - 0x10000) % 0x400]

end TestWeaver.Text
