import TestWeaver.Number.Limit
import TestWeaver.Value.Basic
import TestWeaver.Text.Halves

/-!
Tokens of a JSON text: six marks, texts, and atoms. An atom is a number, one of the three words, or one of the
words for a number that is none. What is no token is a token of its own, after which none follows.
-/
namespace TestWeaver.Json

inductive Token where
  | openList
  | closeList
  | openMapping
  | closeMapping
  | comma
  | colon
  | text (t : Text)
  | atom (v : Value)
  | long (digits : Nat)
  | broken
  deriving Repr

def mark? : CodePoint → Option Token
  | .char '[' => some .openList
  | .char ']' => some .closeList
  | .char '\x7b' => some .openMapping
  | .char '\x7d' => some .closeMapping
  | .char ',' => some .comma
  | .char ':' => some .colon
  | _ => none

def isSpace : CodePoint → Bool
  | .char ' ' | .char '\t' | .char '\n' | .char '\r' => true
  | _ => false

def isAtomPart (p : CodePoint) : Bool :=
  p.isAlnum || p == .char '-' || p == .char '+' || p == .char '.'

structure Numeral where
  negative : Bool
  whole : Text
  places : Option Text
  exponent : Option Int

def exponent? (t : Text) : Option Int :=
  let (negative, digits) := match t with
    | .char '-' :: rest => (true, rest)
    | .char '+' :: rest => (false, rest)
    | _ => (false, t)
  if digits.isEmpty || !digits.all CodePoint.isDigit then none
  else
    let n : Int := Text.decimalValue digits
    some (if negative then -n else n)

def isExponentMark (p : CodePoint) : Bool := p == .char 'e' || p == .char 'E'

def Numeral.ofText? (t : Text) : Option Numeral :=
  let (negative, t) := match t with
    | .char '-' :: rest => (true, rest)
    | _ => (false, t)
  let whole := t.takeWhile CodePoint.isDigit
  let t := t.drop whole.length
  if whole.isEmpty || whole.head? == some (.char '0') && 1 < whole.length then none
  else
    let (places, t) := match t with
      | .char '.' :: rest => (some (rest.takeWhile CodePoint.isDigit), rest.dropWhile CodePoint.isDigit)
      | _ => (none, t)
    if places == some [] then none
    else match t with
      | [] => some ⟨negative, whole, places, none⟩
      | c :: rest =>
        if isExponentMark c then (exponent? rest).map fun e => ⟨negative, whole, places, some e⟩ else none

def Numeral.value (n : Numeral) : Value :=
  match n.places, n.exponent with
  | none, none =>
    let k : Int := Text.decimalValue n.whole
    .int (if n.negative then -k else k)
  | places, exponent =>
    let places := places.getD []
    .real (Binary64.ofDecimal n.negative (Text.decimalValue (n.whole ++ places))
      (exponent.getD 0 - places.length))

def atom? (t : Text) : Option Value :=
  if t = "null" then some .null
  else if t = "true" then some (.bool true)
  else if t = "false" then some (.bool false)
  else if t = "NaN" then some (.real .nan)
  else if t = "Infinity" then some (.real (.infinite false))
  else if t = "-Infinity" then some (.real (.infinite true))
  else (Numeral.ofText? t).map Numeral.value

def namedEscape? : CodePoint → Option CodePoint
  | .char 'n' => some (.char '\n')
  | .char 't' => some (.char '\t')
  | .char 'r' => some (.char '\r')
  | .char 'b' => some (.char '\x08')
  | .char 'f' => some (.char '\x0c')
  | .char '"' => some (.char '"')
  | .char '\\' => some (.char '\\')
  | .char '/' => some (.char '/')
  | _ => none

def escape? (letter : CodePoint) (t : Text) : Option (CodePoint × Nat) :=
  if letter = .char 'u' then
    let digits := t.take 4
    if digits.length = 4 && digits.all fun d => d.hexValue?.isSome then
      (CodePoint.ofNat? (Text.hexadecimalValue digits)).map fun p => (p, 4)
    else none
  else (namedEscape? letter).map fun p => (p, 0)

/-- Decodes the content of a text after skipping the `covered` code points of the escape before it. -/
def decodeFrom? : (covered : Nat) → Text → Option Text
  | _, [] => some []
  | n + 1, _ :: t => decodeFrom? n t
  | 0, c :: t =>
    if c = .char '\\' then
      match t with
      | [] => none
      | letter :: rest => (escape? letter rest).bind fun (p, n) => (decodeFrom? (n + 1) t).map (p :: ·)
    else (decodeFrom? 0 t).map (c :: ·)

def decode? (content : Text) : Option Text := (decodeFrom? 0 content).map Text.joinPairs

def goesOn : Text → Bool
  | .char '.' :: d :: _ => d.isDigit
  | e :: sign :: rest =>
    isExponentMark e && (sign.isDigit || (sign == .char '-' || sign == .char '+') && rest.head?.any CodePoint.isDigit)
  | _ => false

def longInteger? (t : Text) : Option Nat :=
  let t := (t.afterLead? "-").getD t
  let digits := t.takeWhile CodePoint.isDigit
  if LongNumeral.limit < digits.length && digits.head? != some (.char '0') && !goesOn (t.drop digits.length) then
    some digits.length
  else none

def ofRun (t : Text) : Token :=
  match longInteger? t, atom? t with
  | some n, _ => .long n
  | none, some v => .atom v
  | none, none => .broken

inductive Mode where
  | between
  | inAtom (done : Text)
  | inText (done : Text)
  | guarded (done : Text)

def tokensFrom (mode : Mode) (found : List Token) : Text → List Token
  | [] => match mode with
    | .between => found.reverse
    | .inAtom done => (ofRun done.reverse :: found).reverse
    | _ => (.broken :: found).reverse
  | c :: t =>
    let stop (found : List Token) : List Token := (.broken :: found).reverse
    match mode with
    | .inText done =>
      if c = .char '"' then
        match decode? done.reverse with
        | some content => tokensFrom .between (.text content :: found) t
        | none => stop found
      else if c = .char '\\' then tokensFrom (.guarded (c :: done)) found t
      else if c.value < 0x20 then stop found
      else tokensFrom (.inText (c :: done)) found t
    | .guarded done => tokensFrom (.inText (c :: done)) found t
    | .inAtom done =>
      if isAtomPart c then tokensFrom (.inAtom (c :: done)) found t
      else
        let found := ofRun done.reverse :: found
        if isSpace c then tokensFrom .between found t
        else match mark? c with
          | some m => tokensFrom .between (m :: found) t
          | none => stop found
    | .between =>
      if isSpace c then tokensFrom .between found t
      else if c = .char '"' then tokensFrom (.inText []) found t
      else if isAtomPart c then tokensFrom (.inAtom [c]) found t
      else match mark? c with
        | some m => tokensFrom .between (m :: found) t
        | none => stop found

def tokens (t : Text) : List Token := tokensFrom .between [] t

end TestWeaver.Json
