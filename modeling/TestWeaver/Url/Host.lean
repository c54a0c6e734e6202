import TestWeaver.Text.Quoted
import TestWeaver.Text.Numeral

/-!
Hosts between square brackets: an address of eight groups of hexadecimal digits, a run of zero groups left out at
most once, or a host of a future form that a letter `v` announces.
-/
namespace TestWeaver.Url

inductive UrlError where
  | brackets
  | notAnAddress (host : Text)
  | bracketedOctets
  | futureForm
  | compatibility (authority : Text)
  deriving DecidableEq, Repr

def UrlError.message : UrlError → Text
  | brackets => "Invalid IPv6 URL"
  | notAnAddress host => host.quoted ++ " does not appear to be an IPv4 or IPv6 address"
  | bracketedOctets => "An IPv4 address cannot be in brackets"
  | futureForm => "IPvFuture address is invalid"
  | compatibility authority =>
    "netloc '" ++ authority ++ "' contains invalid characters under NFKC normalization"

def isOctet (t : Text) : Bool :=
  !t.isEmpty && t.all CodePoint.isDigit && t.length ≤ 3 && (t.length == 1 || t.head? != some (.char '0'))
    && Text.decimalValue t ≤ 255

def isOctetAddress (t : Text) : Bool :=
  let parts := Text.splitOn t (.char '.')
  parts.length == 4 && parts.all isOctet

def isGroup (t : Text) : Bool := 1 ≤ t.length && t.length ≤ 4 && t.all fun p => p.hexValue?.isSome

def innerGaps (parts : List Text) : List Nat :=
  (parts.zipIdx.filter fun (part, i) => part.isEmpty && 0 < i && i + 1 < parts.length).map (·.2)

def areGroups (parts : List Text) : Bool :=
  match innerGaps parts with
  | [] => parts.length == 8 && parts.all isGroup
  | [gap] =>
    let before := parts.take gap
    let after := parts.drop (gap + 1)
    -- an empty part at an end only goes with a gap right beside it
    let before := if before == [[]] then [] else before
    let after := if after == [[]] then [] else after
    before.length + after.length ≤ 7 && before.all isGroup && after.all isGroup
  | _ => false

def hasZone (t : Text) : Bool :=
  match t.cut? "%" with
  | none => true
  | some (_, zone) => !zone.isEmpty && !zone.contains "%"

def withoutZone (t : Text) : Text := t.takeWhile (· != .char '%')

def isGroupAddress (t : Text) : Bool :=
  let parts := Text.splitOn (withoutZone t) (.char ':')
  let last := parts.getLast?.getD []
  let groups : List Text := if last.contains "." then parts.dropLast ++ (["0", "0"] : List Text) else parts
  !t.contains "/" && hasZone t && 3 ≤ parts.length && groups.length ≤ 9
    && (!last.contains "." || isOctetAddress last) && areGroups groups

def isFutureForm (t : Text) : Bool :=
  match t with
  | .char 'v' :: t =>
    let version := t.takeWhile fun p => p.hexValue?.isSome
    match t.drop version.length with
    | .char '.' :: rest => !version.isEmpty && !rest.isEmpty && rest.all (· != .char '\n')
    | _ => false
  | _ => false

def checkBracketed (host : Text) : Except UrlError Unit :=
  if host.startsWith "v" then if isFutureForm host then .ok () else .error .futureForm
  else if isOctetAddress host then .error .bracketedOctets
  else if isGroupAddress host then .ok ()
  else .error (.notAnAddress host)

end TestWeaver.Url
