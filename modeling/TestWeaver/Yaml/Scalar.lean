import TestWeaver.Yaml.Cursor

/-!
The texts of scalars: plain ones, quoted ones and blocks. Lines are folded: a single break becomes a space, and of
several breaks the first is dropped.
-/
namespace TestWeaver.Yaml

def folded (first : Text) (others : Text) : Text :=
  if first == "\n" then (if others.isEmpty then " " else others) else first ++ others

def endsKey (inFlow : Bool) : Option CodePoint → Bool
  | none => true
  | some c => endsWord (some c) || inFlow && isOneOf ",[]\x7b\x7d" c

def plainLength (inFlow : Bool) : Text → Nat
  | [] => 0
  | c :: rest =>
    if endsWord (some c) || c == .char ':' && endsKey inFlow rest.head? || inFlow && isOneOf ",?[]\x7b\x7d" c then 0
    else plainLength inFlow rest + 1

def plainBreaks : (fuel : Nat) → Text → Cursor → Option Text × Cursor
  | 0, breaks, c => (some breaks, c)
  | fuel + 1, breaks, c =>
    if c.isAt ' ' then plainBreaks fuel breaks c.next
    else
      let (br, next) := c.takeBreak
      if br.isEmpty then (some breaks, c)
      else if next.isSeparator then (none, next)
      else plainBreaks fuel (breaks ++ br) next

def plainSpaces (c : Cursor) : Text × Bool × Cursor :=
  let (spaces, c) := c.takeWhile isSpace
  let (br, next) := c.takeBreak
  if br.isEmpty then (spaces, false, c)
  else if next.isSeparator then ([], true, next)
  else match plainBreaks next.rest.length [] next with
    | (none, c) => ([], true, c)
    | (some breaks, c) => (folded br breaks, true, c)

def plainFrom (inFlow : Bool) (indent : Int) : (fuel : Nat) → (t spaces : Text) → (broken : Bool) → Cursor → Text × Bool × Cursor
  | 0, t, _, broken, c => (t, broken, c)
  | fuel + 1, t, spaces, broken, c =>
    let n := plainLength inFlow c.rest
    if c.isAt '#' || n = 0 then (t, broken, c)
    else
      let t := t ++ spaces ++ c.rest.take n
      let (spaces, broken, c) := plainSpaces (c.skip n)
      if spaces.isEmpty || c.isAt '#' || !inFlow && (c.column : Int) < indent then (t, broken, c)
      else plainFrom inFlow indent fuel t spaces broken c

def plain (inFlow : Bool) (indent : Int) (c : Cursor) : Text × Bool × Cursor :=
  plainFrom inFlow indent c.rest.length [] [] false c

inductive Quote where
  | single
  | double
  deriving DecidableEq, Repr

def Quote.sign : Quote → CodePoint
  | single => .char '\''
  | double => .char '"'

def quotedBreaks : (fuel : Nat) → Text → Cursor → Scan (Text × Cursor)
  | 0, breaks, c => .ok (breaks, c)
  | fuel + 1, breaks, c =>
    if c.isSeparator then (c.skip 3).malformed
    else
      let c := c.dropWhile isSpaceOrTab
      let (br, next) := c.takeBreak
      if br.isEmpty then .ok (breaks, c) else quotedBreaks fuel (breaks ++ br) next

def quotedSpaces (c : Cursor) : Scan (Text × Cursor) := do
  let (spaces, c) := c.takeWhile isSpaceOrTab
  if c.head?.isNone then c.malformed
  else
    let (br, next) := c.takeBreak
    if br.isEmpty then .ok (spaces, c)
    else
      let (breaks, c) ← quotedBreaks next.rest.length [] next
      .ok (folded br breaks, c)

def namedEscape? : CodePoint → Option CodePoint
  | .char '0' => some (.char '\x00')
  | .char 'a' => some (.char '\x07')
  | .char 'b' => some (.char '\x08')
  | .char 't' | .char '\t' => some (.char '\t')
  | .char 'n' => some (.char '\n')
  | .char 'v' => some (.char '\x0b')
  | .char 'f' => some (.char '\x0c')
  | .char 'r' => some (.char '\r')
  | .char 'e' => some (.char '\x1b')
  | .char ' ' => some (.char ' ')
  | .char '"' => some (.char '"')
  | .char '\\' => some (.char '\\')
  | .char '/' => some (.char '/')
  | .char 'N' => some (.char '\x85')
  | .char '_' => some (.char '\xa0')
  | .char 'L' => some (.char '\u2028')
  | .char 'P' => some (.char '\u2029')
  | _ => none

def escapeWidth? : CodePoint → Option Nat
  | .char 'x' => some 2
  | .char 'u' => some 4
  | .char 'U' => some 8
  | _ => none

def unnumbered (n : Nat) : Failure :=
  if n < 0x80000000 then .invalid "chr() arg not in range(0x110000)"
  else .overflow "Python int too large to convert to C int"

def escape (c : Cursor) : Scan (Text × Cursor) :=
  match c.rest with
  | [] => c.malformed
  | p :: rest =>
    match namedEscape? p, escapeWidth? p with
    | some named, _ => .ok ([named], c.next)
    | none, some width =>
      let digits := (rest.take width).takeWhile fun d => d.hexValue?.isSome
      let after := c.skip (digits.length + 1)
      if digits.length < width then after.malformed
      else match CodePoint.ofNat? (Text.hexadecimalValue digits) with
        | some p => .ok ([p], after)
        | none => after.refuse (unnumbered (Text.hexadecimalValue digits))
    | none, none =>
      if isBreak p then
        let next := c.takeBreak.2
        quotedBreaks next.rest.length [] next
      else c.malformed

def quotedRun (q : Quote) : (fuel : Nat) → Text → Cursor → Scan (Text × Cursor)
  | 0, t, c => .ok (t, c)
  | fuel + 1, t, c =>
    let (run, c) := c.takeWhile fun p => !(endsWord (some p) || isOneOf "'\"\\" p)
    let t := t ++ run
    match q, c.head? with
    | .single, some (.char '\'') =>
      if c.ahead? 1 == some (.char '\'') then quotedRun q fuel (t ++ "'") (c.skip 2) else .ok (t, c)
    | .single, some p => if isOneOf "\"\\" p then quotedRun q fuel (t ++ [p]) c.next else .ok (t, c)
    | .double, some (.char '\'') => quotedRun q fuel (t ++ "'") c.next
    | .double, some (.char '\\') => do
      let (escaped, c) ← escape c.next
      quotedRun q fuel (t ++ escaped) c
    | _, _ => .ok (t, c)

def quotedFrom (q : Quote) : (fuel : Nat) → Text → Cursor → Scan (Text × Cursor)
  | 0, _, c => c.malformed
  | fuel + 1, t, c => do
    if c.head? == some q.sign then return (t, c.next)
    let (spaces, c) ← quotedSpaces c
    let (run, c) ← quotedRun q (c.rest.length + 1) [] c
    quotedFrom q fuel (t ++ spaces ++ run) c

def quoted (q : Quote) (c : Cursor) : Scan (Text × Cursor) := do
  let (run, c) ← quotedRun q (c.rest.length + 1) [] c.next
  quotedFrom q (c.rest.length + 1) run c

inductive Chomping where
  | clip
  | strip
  | keep
  deriving DecidableEq, Repr

def chomping? : Option CodePoint → Option Chomping
  | some (.char '+') => some .keep
  | some (.char '-') => some .strip
  | _ => none

def increment? (c : Option CodePoint) : Option Nat := c.bind CodePoint.digitValue?

def blockHeader (c : Cursor) : Scan ((Chomping × Option Nat) × Cursor) := do
  let (chomping, increment, c) := match chomping? c.head? with
    | some chomping => match increment? c.next.head? with
      | some n => (chomping, some n, c.skip 2)
      | none => (chomping, none, c.next)
    | none => match increment? c.head? with
      | some n => match chomping? c.next.head? with
        | some chomping => (chomping, some n, c.skip 2)
        | none => (.clip, some n, c.next)
      | none => (.clip, none, c)
  if increment == some 0 || !endsTabbedWord c.head? then c.malformed else .ok ((chomping, increment), c)

def lineRest (c : Cursor) : Scan Cursor :=
  let c := c.dropWhile isSpace
  let c := if c.isAt '#' then c.dropWhile fun p => !isBreak p else c
  if endsLine c.head? then .ok c.takeBreak.2 else c.malformed

def blockIndent : (fuel : Nat) → Text → (widest : Nat) → Cursor → Text × Nat × Cursor
  | 0, breaks, widest, c => (breaks, widest, c)
  | fuel + 1, breaks, widest, c =>
    if c.isAt ' ' then blockIndent fuel breaks (max widest c.next.column) c.next
    else
      let (br, next) := c.takeBreak
      if br.isEmpty then (breaks, widest, c) else blockIndent fuel (breaks ++ br) widest next

def toIndent (indent : Nat) (c : Cursor) : Cursor :=
  c.skip (min (indent - c.column) (c.rest.takeWhile isSpace).length)

def blockBreaks (indent : Nat) : (fuel : Nat) → Text → Cursor → Text × Cursor
  | 0, breaks, c => (breaks, c)
  | fuel + 1, breaks, c =>
    let c := toIndent indent c
    let (br, next) := c.takeBreak
    if br.isEmpty then (breaks, c) else blockBreaks indent fuel (breaks ++ br) next

/-- The text of a block without the breaks at its end, its last break, and the breaks after that. -/
structure BlockText where
  text : Text
  last : Text
  breaks : Text

def blockLines (isFolded : Bool) (indent : Nat) : (fuel : Nat) → BlockText → Cursor → BlockText × Cursor
  | 0, b, c => (b, c)
  | fuel + 1, b, c =>
    if c.column = indent ∧ c.head?.isSome then
      let startsSolid := !c.head?.any isSpaceOrTab
      let (line, c) := c.takeWhile fun p => !isBreak p
      let text := b.text ++ b.breaks ++ line
      let (last, c) := c.takeBreak
      let (breaks, c) := blockBreaks indent (c.rest.length + 1) [] c
      if c.column = indent ∧ c.head?.isSome then
        let isFold := isFolded && last == "\n" && startsSolid && !c.head?.any isSpaceOrTab
        let joint : Text := if isFold then (if breaks.isEmpty then " " else []) else last
        blockLines isFolded indent fuel { text := text ++ joint, last, breaks } c
      else ({ text, last, breaks }, c)
    else (b, c)

def block (isFolded : Bool) (indent : Int) (c : Cursor) : Scan (Text × Cursor) := do
  let ((chomping, increment), c) ← blockHeader c.next
  let c ← lineRest c
  let least := max 1 (indent + 1).toNat
  let (breaks, indent, c) := match increment with
    | none =>
      let (breaks, widest, c) := blockIndent (c.rest.length + 1) [] 0 c
      (breaks, max least widest, c)
    | some n =>
      let indent := least + n - 1
      let (breaks, c) := blockBreaks indent (c.rest.length + 1) [] c
      (breaks, indent, c)
  let (b, c) := blockLines isFolded indent (c.rest.length + 1) { text := [], last := [], breaks } c
  .ok (match chomping with
    | .strip => b.text
    | .clip => b.text ++ b.last
    | .keep => b.text ++ b.last ++ b.breaks, c)

end TestWeaver.Yaml
