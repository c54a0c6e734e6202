import TestWeaver.Text.Numeral
import TestWeaver.Text.Basic

/-!
The kinds of nodes. A scalar without a tag has the kind that its text looks like; kinds of the same look are told
apart by the order of the tests.
-/
namespace TestWeaver.Yaml

inductive Kind where
  | null
  | bool
  | int
  | float
  | binary
  | timestamp
  | orderedMapping
  | pairs
  | set
  | text
  | sequence
  | mapping
  | merge
  | default
  | unknown
  deriving DecidableEq, Repr

namespace Kind

def tagLead : Text := "tag:yaml.org,2002:"

def ofTag (tag : Text) : Kind :=
  match (tag.afterLead? tagLead).bind fun t => [
      (("null" : Text), null), ("bool", bool), ("int", int), ("float", float), ("binary", binary),
      ("timestamp", timestamp), ("omap", orderedMapping), ("pairs", pairs), ("set", set), ("str", text),
      ("seq", sequence), ("map", mapping), ("merge", merge), ("value", default)].lookup t with
  | some k => k
  | none => unknown

end Kind

namespace Look

def line (t : Text) : Text := if 1 < t.length && t.getLast? == some (.char '\n') then t.dropLast else t

def isOne (spellings : List String) (t : Text) : Bool := spellings.any fun s => t == Text.ofString s

def isDigitOr (sign : Char) (c : CodePoint) : Bool := c.isDigit || c == .char sign

def isGrouped (c : CodePoint) : Bool := isDigitOr '_' c

def dropSign : Text → Text
  | .char '+' :: t => t
  | .char '-' :: t => t
  | t => t

def isBool (t : Text) : Bool :=
  isOne ["yes", "Yes", "YES", "no", "No", "NO", "true", "True", "TRUE", "false", "False", "FALSE",
    "on", "On", "ON", "off", "Off", "OFF"] t

def isNull (t : Text) : Bool := isOne ["~", "null", "Null", "NULL", ""] t

def isExponent : Text → Bool
  | [] => true
  | e :: sign :: digits =>
    (e == .char 'e' || e == .char 'E') && (sign == .char '+' || sign == .char '-') && !digits.isEmpty
      && digits.all CodePoint.isDigit
  | _ => false

def isSixtieth : Text → Bool
  | [d] => d.isDigit
  | [c, d] => (c.digitValue?.any fun n => n < 6) && d.isDigit
  | _ => false

def isBeforeColon (parts : List Text) : Bool := !parts.isEmpty && parts.all isSixtieth

def isGroupedRun (t : Text) : Bool := t.head?.any CodePoint.isDigit && t.all isGrouped

def isPositional (t : Text) : Bool :=
  match t.cut? "." with
  | some (whole, rest) => isGroupedRun whole && isExponent (rest.dropWhile isGrouped)
  | none => false

def isFraction : Text → Bool
  | .char '.' :: d :: rest => d.isDigit && isExponent (rest.dropWhile isGrouped)
  | _ => false

def isSixtyFloat (t : Text) : Bool :=
  match Text.splitOn t (.char ':') with
  | first :: middle :: rest =>
    let parts := middle :: rest
    isGroupedRun first && (match parts.getLast?.bind fun last => last.cut? "." with
      | some (whole, places) => isBeforeColon (parts.dropLast ++ [whole]) && places.all isGrouped
      | none => false)
  | _ => false

def isFloat (t : Text) : Bool :=
  isPositional (dropSign t) || isFraction t || isSixtyFloat (dropSign t)
    || isOne [".inf", ".Inf", ".INF"] (dropSign t) || isOne [".nan", ".NaN", ".NAN"] t

def isBinaryPart (c : CodePoint) : Bool := c == .char '0' || c == .char '1' || c == .char '_'

def isOctalPart (c : CodePoint) : Bool := c == .char '_' || c.digitValue?.any fun n => n < 8

def isHexPart (c : CodePoint) : Bool := c == .char '_' || c.hexValue?.isSome

def isPlainInt (t : Text) : Bool := t.head? != some (.char '0') && isGroupedRun t

def isUnsignedInt : Text → Bool
  | [.char '0'] => true
  | .char '0' :: .char 'b' :: digits => !digits.isEmpty && digits.all isBinaryPart
  | .char '0' :: .char 'x' :: digits => !digits.isEmpty && digits.all isHexPart
  | .char '0' :: digits => digits.all isOctalPart
  | t =>
    isPlainInt t || (match Text.splitOn t (.char ':') with
      | first :: middle :: rest => isPlainInt first && isBeforeColon (middle :: rest)
      | _ => false)

def isInt (t : Text) : Bool := isUnsignedInt (dropSign t)

end Look

structure TimestampText where
  year : Text
  month : Text
  day : Text
  hour : Text := []
  minute : Text := []
  second : Text := []
  fraction : Text := []
  zone : Text := []
  deriving DecidableEq, Repr

namespace TimestampText

def shortNumber? (t : Text) : Option (Text × Text) :=
  match t with
  | c :: d :: rest => if !c.isDigit then none else if d.isDigit then some ([c, d], rest) else some ([c], d :: rest)
  | [c] => if c.isDigit then some ([c], []) else none
  | [] => none

def fixedNumber? (width : Nat) (t : Text) : Option (Text × Text) :=
  if (t.take width).length = width && (t.take width).all CodePoint.isDigit then some (t.take width, t.drop width) else none

def sign? (sign : Char) (t : Text) : Option Text := t.afterLead? [.char sign]

def isBlank (c : CodePoint) : Bool := c == .char ' ' || c == .char '\t'

def afterGap? : Text → Option Text
  | .char 'T' :: t => some t
  | .char 't' :: t => some t
  | c :: t => if isBlank c then some (t.dropWhile isBlank) else none
  | [] => none

def isZone : Text → Bool
  | [.char 'Z'] => true
  | sign :: t =>
    (sign == .char '+' || sign == .char '-') && (match shortNumber? t with
      | some (_, []) => true
      | some (_, .char ':' :: minutes) => fixedNumber? 2 minutes == some (minutes, [])
      | _ => false)
  | [] => false

def time? (t : Text) (date : TimestampText) : Option TimestampText := do
  let (hour, t) ← shortNumber? t
  let (minute, t) ← (sign? ':' t).bind (fixedNumber? 2)
  let (second, t) ← (sign? ':' t).bind (fixedNumber? 2)
  let (fraction, t) := match t with
    | .char '.' :: rest => (rest.takeWhile CodePoint.isDigit, rest.dropWhile CodePoint.isDigit)
    | t => ([], t)
  let zone := t.dropWhile isBlank
  if t.isEmpty || isZone zone then some { date with hour, minute, second, fraction, zone } else none

def ofLine? (t : Text) : Option TimestampText := do
  let (year, t) ← fixedNumber? 4 t
  let (month, t) ← (sign? '-' t).bind shortNumber?
  let (day, t) ← (sign? '-' t).bind shortNumber?
  let date : TimestampText := { year, month, day }
  if t.isEmpty then some date else (afterGap? t).bind fun t => time? t date

def ofText? (t : Text) : Option TimestampText := ofLine? (Look.line t)

end TimestampText

def Look.isTimestamp (t : Text) : Bool :=
  (TimestampText.ofLine? t).any fun s => !s.hour.isEmpty || s.month.length == 2 && s.day.length == 2

def Kind.ofLine (t : Text) : Kind :=
  if Look.isBool t then .bool
  else if Look.isFloat t then .float
  else if Look.isInt t then .int
  else if t = "<<" then .merge
  else if Look.isNull t then .null
  else if Look.isTimestamp t then .timestamp
  else if t = "=" then .default
  else if t = "!" || t = "&" || t = "*" then .unknown
  else .text

def Kind.ofPlain (t : Text) : Kind := .ofLine (Look.line t)

end TestWeaver.Yaml
