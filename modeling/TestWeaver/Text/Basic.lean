/-!
Text as a sequence of code points.

A code point is a Unicode scalar value or an unpaired surrogate half. Halves reach a text only through
escapes that name them, and no UTF-8 file can hold one, so whether a text can be stored is a property of it.
-/
namespace TestWeaver

inductive CodePoint where
  | char (c : Char)
  | half (u : Fin 2048)
  deriving DecidableEq, Repr, Inhabited

abbrev Text := List CodePoint

namespace CodePoint

def value : CodePoint → Nat
  | .char c => c.toNat
  | .half u => 0xD800 + u

def ofNat? (n : Nat) : Option CodePoint :=
  if 0xD800 ≤ n ∧ n < 0xE000 then some (.half (Fin.ofNat 2048 (n - 0xD800)))
  else if n < 0x110000 then some (.char (Char.ofNat n))
  else none

def isSmall : CodePoint → Bool
  | .char c => 'a' ≤ c && c ≤ 'z'
  | .half _ => false

def isCapital : CodePoint → Bool
  | .char c => 'A' ≤ c && c ≤ 'Z'
  | .half _ => false

def isDigit : CodePoint → Bool
  | .char c => '0' ≤ c && c ≤ '9'
  | .half _ => false

def isLetter (p : CodePoint) : Bool := p.isSmall || p.isCapital

def isAlnum (p : CodePoint) : Bool := p.isLetter || p.isDigit

def digitValue? : CodePoint → Option Nat
  | .char c => if '0' ≤ c ∧ c ≤ '9' then some (c.toNat - '0'.toNat) else none
  | .half _ => none

def hexValue? : CodePoint → Option Nat
  | .char c =>
    if '0' ≤ c ∧ c ≤ '9' then some (c.toNat - '0'.toNat)
    else if 'a' ≤ c ∧ c ≤ 'f' then some (c.toNat - 'a'.toNat + 10)
    else if 'A' ≤ c ∧ c ≤ 'F' then some (c.toNat - 'A'.toNat + 10)
    else none
  | .half _ => none

def capital : CodePoint → CodePoint
  | .char c => .char c.toUpper
  | p => p

def small : CodePoint → CodePoint
  | .char c => .char c.toLower
  | p => p

end CodePoint

namespace Text

def ofString (s : String) : Text := s.toList.map .char

instance : Coe String Text := ⟨ofString⟩

def ofNat (n : Nat) : Text := ofString (toString n)

def ofInt (n : Int) : Text := ofString (toString n)

def chars? : Text → Option (List Char)
  | [] => some []
  | .char c :: t => (chars? t).map (c :: ·)
  | .half _ :: _ => none

def startsWith (t lead : Text) : Bool := lead.isPrefixOf t

def afterLead? : (t lead : Text) → Option Text
  | t, [] => some t
  | [], _ :: _ => none
  | b :: t, a :: lead => if a = b then afterLead? t lead else none

def endsWith (t tail : Text) : Bool := tail.isSuffixOf t

def contains : (t part : Text) → Bool
  | [], part => part.isEmpty
  | c :: t, part => part.isPrefixOf (c :: t) || contains t part

def cut? : (t part : Text) → Option (Text × Text)
  | [], part => if part.isEmpty then some ([], []) else none
  | c :: t, part =>
    match afterLead? (c :: t) part with
    | some rest => some ([], rest)
    | none => (cut? t part).map fun (before, rest) => (c :: before, rest)

def replaceFrom (old new : Text) : Nat → Text → Text
  | _, [] => []
  | n + 1, _ :: t => replaceFrom old new n t
  | 0, c :: t =>
    if old.isPrefixOf (c :: t) then new ++ replaceFrom old new (old.length - 1) t
    else c :: replaceFrom old new 0 t

def replace (t old new : Text) : Text := replaceFrom old new 0 t

def splitOn : (t : Text) → (sep : CodePoint) → List Text
  | [], _ => [[]]
  | c :: t, sep =>
    if c = sep then [] :: splitOn t sep
    else match splitOn t sep with
      | [] => [[c]]
      | part :: parts => (c :: part) :: parts

def join (sep : Text) (parts : List Text) : Text := List.intercalate sep parts

def unlines (lines : List Text) : Text := join [.char '\n'] lines

def dropTail (p : CodePoint → Bool) (t : Text) : Text := (t.reverse.dropWhile p).reverse

def dropBoth (p : CodePoint → Bool) (t : Text) : Text := dropTail p (t.dropWhile p)

def runs (p : CodePoint → Bool) (t : Text) : List Text := go [] t
where
  go (run : Text) : Text → List Text
    | [] => if run.isEmpty then [] else [run.reverse]
    | c :: t =>
      if p c then go (c :: run) t
      else if run.isEmpty then go [] t
      else run.reverse :: go [] t

def search (read : Option CodePoint → Text → Option α) : Option CodePoint → Text → Option α
  | before, [] => read before []
  | before, c :: t =>
    match read before (c :: t) with
    | some a => some a
    | none => search read (some c) t

def le : Text → Text → Bool
  | [], _ => true
  | _ :: _, [] => false
  | a :: s, b :: t => a.value < b.value || a.value == b.value && le s t

def decimalValue (t : Text) : Nat := t.foldl (fun n c => 10 * n + (c.digitValue?.getD 0)) 0

def hexadecimalValue (t : Text) : Nat := t.foldl (fun n c => 16 * n + (c.hexValue?.getD 0)) 0

def hexadecimal (width n : Nat) : Text :=
  let digits := (Nat.toDigits 16 n).map CodePoint.char
  List.replicate (width - digits.length) (.char '0') ++ digits

end Text

end TestWeaver
