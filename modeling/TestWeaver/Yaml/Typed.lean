import TestWeaver.Number.Written
import TestWeaver.Text.Base64
import TestWeaver.Text.Case
import TestWeaver.Value.Access
import TestWeaver.Yaml.Kind
import TestWeaver.Yaml.Scalar

/-!
Scalars as values of their kinds. A tag may claim a kind that the text does not look like; then reading it fails.
-/
namespace TestWeaver.Yaml

def withoutGroups (t : Text) : Text := t.filter (· != .char '_')

def first (t : Text) : Except Failure CodePoint :=
  match t with
  | c :: _ => .ok c
  | [] => .error (.outOfRange "string index out of range")

def signed (t : Text) : Except Failure (Bool × Text) := do
  let _ ← first t
  return Written.sign t

def boolOf (t : Text) : Except Failure Value :=
  let word := Text.lower t
  if Look.isOne ["yes", "true", "on"] word then .ok (.bool true)
  else if Look.isOne ["no", "false", "off"] word then .ok (.bool false)
  else .error (.missingKey word)

def excerptLength : Nat := 200

def integerIn (base : Nat) (t : Text) : Except Failure Int :=
  match Written.integer base t with
  | .ok n => .ok n
  | .error (.long e) => .error (.longNumeral e)
  | .error .malformed =>
    .error (.invalid ("invalid literal for int() with base " ++ Text.ofNat base ++ ": " ++ t.quoted.take excerptLength))

def sixties (parts : List Int) : Int := parts.foldl (fun n part => 60 * n + part) 0

def absoluteInt (t : Text) : Except Failure Int := do
  if t = "0" then return 0
  match Text.afterLead? t "0b", Text.afterLead? t "0x" with
  | some digits, _ => integerIn 2 digits
  | _, some digits => integerIn 16 digits
  | none, none =>
    if (← first t) == .char '0' then integerIn 8 t
    else if t.any (· == .char ':') then return sixties (← (Text.splitOn t (.char ':')).mapM (integerIn 10))
    else integerIn 10 t

def intOf (t : Text) : Except Failure Value := do
  let (negative, t) ← signed (withoutGroups t)
  let n ← absoluteInt t
  return .int (if negative then -n else n)

def realOf (t : Text) : Except Failure Binary64 :=
  match Written.real? t with
  | some x => .ok x
  | none => .error (.invalid ("could not convert string to float: " ++ t.quoted))

def sixtyReals (base : Nat) (sum : Binary64) : List Binary64 → Except Failure Binary64
  | [] => .ok sum
  | x :: xs =>
    match Binary64.ofInt base with
    -- there are no more places than a number has room for
    | .infinite _ => .error (.overflow "int too large to convert to float")
    | unit => sixtyReals (60 * base) (sum.add (x.mul unit)) xs

def nanSign : Text := ".nan"

def isNan (t : Text) : Bool := (Written.sign (Text.lower (withoutGroups t))).2 == nanSign

def absoluteReal (t : Text) : Except Failure Binary64 :=
  if t = ".inf" then .ok (.infinite false)
  else if t = nanSign then .ok .nan
  else if t.any (· == .char ':') then do
    sixtyReals 1 (.zero false) (← (Text.splitOn t (.char ':')).mapM realOf).reverse
  else realOf t

def floatOf (t : Text) : Except Failure Value := do
  let (negative, t) ← signed (Text.lower (withoutGroups t))
  let x ← absoluteReal t
  return .real (if negative then x.neg else x)

def require (condition : Bool) (message : Text) : Except Failure Unit :=
  if condition then .ok () else .error (.invalid message)

def dateOf (year month day : Nat) : Except Failure Date := do
  require (1 ≤ year) "year 0 is out of range"
  require (1 ≤ month && month ≤ 12) "month must be in 1..12"
  require (1 ≤ day && day ≤ Date.daysIn year month) "day is out of range for month"
  return { year, month, day }

def offsetOf : Text → Except Failure (Option Int)
  | [] => .ok none
  | sign :: rest =>
    if sign == .char 'Z' then .ok (some 0)
    else do
      let (hours, minutes) := match Text.cut? rest ":" with
        | some (hours, minutes) => (hours, minutes)
        | none => (rest, [])
      let seconds : Int := 3600 * Text.decimalValue hours + 60 * Text.decimalValue minutes
      let offset := if sign == .char '-' then -seconds else seconds
      require (seconds < 86400)
        ("offset must be a timedelta strictly between -timedelta(hours=24) and timedelta(hours=24), not "
          ++ Moment.quotedSpan offset ++ ".")
      return some offset

def microseconds (fraction : Text) : Nat :=
  let digits := fraction.take 6
  Text.decimalValue digits * Nat.pow 10 (6 - digits.length)

def timestampOf (t : Text) : Except Failure Value :=
  match TimestampText.ofText? t with
  | none => .error (.lacks "NoneType" "groupdict")
  | some s => do
    let n := Text.decimalValue
    if s.hour.isEmpty then return .date (← dateOf (n s.year) (n s.month) (n s.day))
    else
      let offset ← offsetOf s.zone
      let date ← dateOf (n s.year) (n s.month) (n s.day)
      require (n s.hour ≤ 23) "hour must be in 0..23"
      require (n s.minute ≤ 59) "minute must be in 0..59"
      require (n s.second ≤ 59) "second must be in 0..59"
      return .moment { date, hour := n s.hour, minute := n s.minute, second := n s.second
                       microsecond := microseconds s.fraction, offset }

def isAscii (t : Text) : Bool := t.all fun c => c.value < 0x80

def binarySigns (held padding : Nat) : Text → Option Text
  | [] => if held % 4 = 0 then some [] else none
  | c :: t =>
    if c == .char '=' then
      if 2 ≤ held % 4 && 4 ≤ held % 4 + padding + 1 then some [] else binarySigns held (padding + 1) t
    else if (Base64.signValue? c).isSome then (binarySigns (held + 1) 0 t).map (c :: ·)
    else binarySigns held padding t

def binaryOf (t : Text) : Except Failure Value :=
  match (if isAscii t then binarySigns 0 0 t else none) with
  | some signs => .ok (.bytes (Base64.decode signs))
  | none => .error .malformedYaml

def scalarValue (k : Kind) (t : Text) : Except Failure Value :=
  match k with
  | .null => .ok .null
  | .bool => boolOf t
  | .int => intOf t
  | .float => floatOf t
  | .binary => binaryOf t
  | .timestamp => timestampOf t
  | .text => .ok (.text t)
  | _ => .error .malformedYaml

end TestWeaver.Yaml
