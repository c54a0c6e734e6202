import TestWeaver.Text.Base64
import TestWeaver.Value.Shown
import TestWeaver.Yaml.Kind
import TestWeaver.Yaml.Sheet

/-!
Values as YAML texts in block style, in the order of their entries. A text is plain where it can be, and quoted where it
would read as something else; anything but ASCII is escaped. A thing with several places is written once, with a name,
and the name stands in the other places.
-/
namespace TestWeaver.Yaml

inductive Style where
  | plain
  | single
  | double
  deriving DecidableEq, Repr

namespace Style

def isLineEnd (c : CodePoint) : Bool := isBreak c && c != .char '\r'

def hasIndicator : (before : Option CodePoint) → Text → Bool
  | _, [] => false
  | before, c :: rest =>
    c == .char ':' && endsWord rest.head? || c == .char '#' && endsWord before || hasIndicator (some c) rest

def hasLeadIndicator : Text → Bool
  | [] => false
  | c :: rest =>
    isOneOf "#,[]\x7b\x7d&*!|>'\"%@\x60" c || isOneOf "?:-" c && endsWord rest.head?

def isMultiline (t : Text) : Bool := t.any isLineEnd

def isSpecial (t : Text) : Bool := !t.all fun c => c == .char '\n' || 0x20 ≤ c.value && c.value ≤ 0x7E

def isEdge (c : Option CodePoint) : Bool := c.any fun c => isSpace c || isLineEnd c

def hasBrokenSpace (t : Text) : Bool :=
  (t.zip (t.drop 1)).any fun (a, b) => isSpace a && isLineEnd b || isLineEnd a && isSpace b

def allowsPlain (t : Text) : Bool :=
  !(isEdge t.head? || isEdge t.getLast? || isMultiline t || isSpecial t || t.startsWith "---" || t.startsWith "..."
    || hasLeadIndicator t || hasIndicator t.head? (t.drop 1))

def allowsSingle (t : Text) : Bool := !(hasBrokenSpace t || isSpecial t)

def ofText (isKey : Bool) (t : Text) : Style :=
  if Kind.ofPlain t = .text && allowsPlain t && !(isKey && t.isEmpty) then plain
  else if allowsSingle t && !(isKey && isMultiline t) then single
  else double

end Style

structure Meetings where
  once : List Nat := []
  again : List Nat := []
  deriving Repr

def Meetings.add (m : Meetings) (label : Nat) : Meetings :=
  if m.again.contains label then m else { m with again := m.again ++ [label] }

mutual

def Meetings.through (m : Meetings) : Value → Meetings
  | .list items | .members items => m.throughEach items
  | .pair a b => (m.through a).through b
  | .mapping entries => m.throughEntries entries
  | .shared label v =>
    if !v.isTold then m
    else if m.once.contains label then m.add label
    else { m with once := label :: m.once }.through v
  | .again label => m.add label
  | _ => m

def Meetings.throughEach (m : Meetings) : List Value → Meetings
  | [] => m
  | v :: vs => (m.through v).throughEach vs

def Meetings.throughEntries (m : Meetings) : List (Value × Value) → Meetings
  | [] => m
  | (k, v) :: rest => ((m.through k).through v).throughEntries rest

end

def Sheet.nameOf? (s : Sheet) (label : Nat) : Option Text :=
  (s.named.idxOf? label).map fun n => "id" ++ Text.padded 3 (n + 1)

def Sheet.putName (s : Sheet) (label : Nat) : Sheet × Bool :=
  match s.nameOf? label with
  | none => (s, true)
  | some name =>
    if s.known.contains label then (s.sign ("*" ++ name), false)
    else ({ s with known := label :: s.known }.sign ("&" ++ name), true)

def plainText? : Value → Option Text
  | .null => some "null"
  | .bool b => some (if b then "true" else "false")
  | .int n => some (Text.ofInt n)
  | .real x =>
    let t := x.textWith ".inf" ".nan"
    some (if t.contains "e" && !t.contains "." then t.replace "e" ".0e" else t)
  | .date d => some d.text
  | .moment m => some m.text
  | _ => none

def keyWidth : Nat := 128

def tagWidth : Value → Nat
  | .null | .bool _ => 6
  | .int _ | .text _ => 5
  | .real _ => 7
  | .date _ | .moment _ => 11
  | _ => 8

/-- Whether a key goes without a mark of its own. A date or a moment always does, whatever its name. -/
def isSimpleKey (k : Value) : Bool :=
  match k with
  | .text t => !t.isEmpty && !Style.isMultiline t && t.length + tagWidth k < keyWidth
  | .shared .. => true
  | k => (plainText? k).any fun t => t.length + tagWidth k < keyWidth

def base64Lines : (fuel : Nat) → Text → List Text
  | 0, _ => []
  | fuel + 1, t => if t.isEmpty then [] else t.take 76 :: base64Lines fuel (t.drop 76)

namespace Sheet

def putText (s : Sheet) (indent : Nat) (isKey : Bool) (t : Text) : Sheet :=
  match Style.ofText isKey t with
  | .plain => s.plain indent (!isKey) t
  | .single => s.single indent (!isKey) t
  | .double => s.double indent (!isKey) t

def putScalar (s : Sheet) (indent : Nat) (isKey : Bool) (v : Value) : Sheet :=
  match v with
  | .text t => s.putText indent isKey t
  | .bytes b =>
    let t := Base64.encode b
    if t.isEmpty then (s.sign "!!binary").double indent true [] else (s.sign "!!binary").literal indent (base64Lines t.length t)
  | v => s.plain indent (!isKey) ((plainText? v).getD [])

def putSimpleKey (s : Sheet) (indent : Nat) (k : Value) : Sheet :=
  match k with
  | .shared label v =>
    let (s, isDue) := s.putName label
    if isDue then s.putScalar indent true v else s
  | k => s.putScalar indent true k

mutual

def put (s : Sheet) (indent : Nat) (isLoose : Bool) : Value → Sheet
  | .list [] => (s.sign "[").tightSign "]"
  | .mapping [] => (s.sign "\x7b").tightSign "\x7d"
  | .members [] => ((s.sign "!!set").sign "\x7b").tightSign "\x7d"
  | .list (v :: vs) => s.putItems (if isLoose && !s.isOpen then indent else indent + 2) (v :: vs)
  | .mapping (e :: es) => s.putEntries (indent + 2) (e :: es)
  | .members (v :: vs) => (s.sign "!!set").putMembers (indent + 2) (v :: vs)
  | .pair a b =>
    let s := s.sign "!!python/tuple"
    let inner := if isLoose then indent else indent + 2
    let s := ((s.toIndent inner).openSign "-").put inner false a
    ((s.toIndent inner).openSign "-").put inner false b
  | .shared label v =>
    let (s, isDue) := s.putName label
    if isDue then s.put indent isLoose v else s
  | .again label => (s.putName label).1
  | v => s.putScalar (indent + 2) false v

def putItems (s : Sheet) (indent : Nat) : List Value → Sheet
  | [] => s
  | v :: vs => (((s.toIndent indent).openSign "-").put indent false v).putItems indent vs

def putEntries (s : Sheet) (indent : Nat) : List (Value × Value) → Sheet
  | [] => s
  | (k, v) :: es =>
    let s := s.toIndent indent
    if isSimpleKey k then ((((s.putSimpleKey (indent + 2) k).tightSign ":").put indent true v).putEntries indent es)
    else
      let s := ((s.openSign "?").put indent true k).toIndent indent
      ((s.openSign ":").put indent true v).putEntries indent es

def putMembers (s : Sheet) (indent : Nat) : List Value → Sheet
  | [] => s
  | v :: vs =>
    let s := s.toIndent indent
    if isSimpleKey v then
      (((s.putSimpleKey (indent + 2) v).tightSign ":").plain (indent + 2) true "null").putMembers indent vs
    else
      let s := ((s.openSign "?").put indent true v).toIndent indent
      ((s.openSign ":").plain (indent + 2) true "null").putMembers indent vs

end

end Sheet

def textOf (entries : List (Value × Value)) : Except LongNumeral Text :=
  if Value.hasTooLong entries then .error .needed
  else
    let sheet : Sheet := { named := (({} : Meetings).throughEntries entries).again }
    .ok ((sheet.putEntries 0 entries).toIndent 0).text

end TestWeaver.Yaml
