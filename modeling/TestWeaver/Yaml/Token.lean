import TestWeaver.Yaml.Scalar
import TestWeaver.Yaml.Source

/-!
Tokens of a YAML text. Block collections have no marks of their own: where they start and end follows from the columns
of what is in them. A key has no mark either, and is known by the colon after it; so every token that may start
a key is remembered until its line ends.
-/
namespace TestWeaver.Yaml

inductive Token where
  | version (major : Nat)
  | handle (name lead : Text)
  | otherDirective
  | documentStart
  | documentEnd
  | streamEnd
  | blockSequence
  | blockMapping
  | blockEnd
  | openSequence
  | closeSequence
  | openMapping
  | closeMapping
  | comma
  | item
  | key
  | value
  | alias (name : Text)
  | anchor (name : Text)
  | tag (handle : Option Text) (suffix : Text)
  | scalar (t : Text) (isPlain : Bool)
  deriving DecidableEq, Repr

structure PossibleKey where
  position : Nat
  required : Bool
  index : Nat
  line : Nat
  column : Nat
  deriving Repr

structure Scanner where
  cursor : Cursor
  depth : Nat := 0
  tokens : List Token := []
  count : Nat := 0
  indent : Int := -1
  outer : List Int := []
  keyAllowed : Bool := true
  keys : List (Nat × PossibleKey) := []
  deriving Repr

namespace Scanner

abbrev Step := Scan Scanner

def inFlow (s : Scanner) : Bool := s.depth != 0

def put (s : Scanner) (t : Token) : Scanner := { s with tokens := t :: s.tokens, count := s.count + 1 }

def insert (s : Scanner) (position : Nat) (t : Token) : Scanner :=
  { s with tokens := s.tokens.insertIdx (s.count - position) t, count := s.count + 1 }

def putSign (s : Scanner) (t : Token) (width : Nat) : Scanner := { s.put t with cursor := s.cursor.skip width }

def keyLimit : Nat := 1024

def isStale (s : Scanner) (k : PossibleKey) : Bool :=
  k.line != s.cursor.line || keyLimit < s.cursor.index - k.index

def dropStale (s : Scanner) : Step :=
  if s.keys.any fun (_, k) => s.isStale k && k.required then s.cursor.malformed
  else .ok { s with keys := s.keys.filter fun (_, k) => !s.isStale k }

def dropKey (s : Scanner) : Step :=
  if (s.keys.lookup s.depth).any (·.required) then s.cursor.malformed
  else .ok { s with keys := s.keys.filter fun (depth, _) => depth != s.depth }

def saveKey (s : Scanner) : Step :=
  if s.keyAllowed then do
    let s ← s.dropKey
    let c := s.cursor
    let key := { position := s.count, required := !s.inFlow && s.indent == c.column, index := c.index, line := c.line
                 column := c.column : PossibleKey }
    return { s with keys := (s.depth, key) :: s.keys }
  else .ok s

def unwindTo (column : Int) (s : Scanner) : List Int → Scanner
  | [] => s
  | indent :: outer => if column < s.indent then unwindTo column { s.put .blockEnd with indent, outer } outer else s

def unwind (s : Scanner) (column : Int) : Scanner := if s.inFlow then s else unwindTo column s s.outer

def deepen (s : Scanner) (column : Int) : Scanner := { s with outer := s.indent :: s.outer, indent := column }

def openBlock (s : Scanner) (t : Token) : Scanner :=
  let column : Int := s.cursor.column
  if s.indent < column then (s.deepen column).put t else s

def toToken : (fuel : Nat) → Scanner → Scanner
  | 0, s => s
  | fuel + 1, s =>
    let c := s.cursor.dropWhile isSpace
    let c := if c.isAt '#' then c.dropWhile fun p => !isBreak p else c
    let (br, next) := c.takeBreak
    if br.isEmpty then { s with cursor := c }
    else toToken fuel { s with cursor := next, keyAllowed := s.keyAllowed || !s.inFlow }

def isNamePart (c : CodePoint) : Bool := c.isAlnum || c == .char '-' || c == .char '_'

def isUriPart (c : CodePoint) : Bool := c.isAlnum || isOneOf "-;/?:@&=+$,_.!~*'()[]" c

def escapedBytes : (fuel : Nat) → Cursor → Scan (Bytes × Cursor)
  | 0, c => .ok ([], c)
  | fuel + 1, c =>
    if c.isAt '%' then
      match (c.ahead? 1).bind CodePoint.hexValue?, (c.ahead? 2).bind CodePoint.hexValue? with
      | some high, some low => do
        let (bytes, c) ← escapedBytes fuel (c.skip 3)
        return ((16 * high + low).toUInt8 :: bytes, c)
      | none, _ => (c.skip 1).malformed
      | some _, none => (c.skip 2).malformed
    else .ok ([], c)

def uriFrom : (fuel : Nat) → Text → Cursor → Scan (Text × Cursor)
  | 0, t, c => .ok (t, c)
  | fuel + 1, t, c => do
    let (run, c) := c.takeWhile isUriPart
    if c.isAt '%' then
      let (bytes, c) ← escapedBytes (c.rest.length + 1) c
      match Utf8.decode bytes with
      | .ok escaped => uriFrom fuel (t ++ run ++ escaped) c
      | .error _ => c.malformed
    else return (t ++ run, c)

def uri (c : Cursor) : Scan (Text × Cursor) := do
  let (t, after) ← uriFrom (c.rest.length + 1) [] c
  if after.index = c.index then c.malformed else return (t, after)

def handleName (c : Cursor) : Scan (Text × Cursor) :=
  if !c.isAt '!' then c.malformed
  else
    let (name, after) := c.next.takeWhile isNamePart
    if after.isAt '!' then .ok ("!" ++ name ++ "!", after.next)
    else if name.isEmpty && c.next.isAt ' ' then .ok ("!", c.next)
    else after.malformed

def number (c : Cursor) : Scan (Nat × Cursor) :=
  let (digits, c) := c.takeWhile CodePoint.isDigit
  if digits.isEmpty then c.malformed
  else match LongNumeral.read digits.length (Text.decimalValue digits) with
    | .ok n => .ok (n, c)
    | .error e => c.refuse (.longNumeral e)

def versionDirective (c : Cursor) : Scan (Token × Cursor) := do
  let (major, c) ← number (c.dropWhile isSpace)
  if !c.isAt '.' then c.malformed
  let (_, c) ← number c.next
  if endsTabbedWord c.head? then return (.version major, c) else c.malformed

def tagDirective (c : Cursor) : Scan (Token × Cursor) := do
  let (name, c) ← handleName (c.dropWhile isSpace)
  if !c.isAt ' ' then c.malformed
  let (lead, c) ← uri (c.dropWhile isSpace)
  if endsTabbedWord c.head? then return (.handle name lead, c) else c.malformed

def directive (s : Scanner) : Step := do
  let s := s.unwind (-1)
  let s ← s.dropKey
  let (name, c) := s.cursor.next.takeWhile isNamePart
  if name.isEmpty || !endsTabbedWord c.head? then c.malformed
  let (token, c) ←
    if name = "YAML" then versionDirective c
    else if name = "TAG" then tagDirective c
    else pure (.otherDirective, c.dropWhile fun p => !isBreak p)
  return { s.put token with keyAllowed := false, cursor := ← lineRest c }

def reference (token : Text → Token) (s : Scanner) : Step := do
  let s ← s.saveKey
  let (name, c) := s.cursor.next.takeWhile isNamePart
  if name.isEmpty || !(endsWord c.head? || c.head?.any (isOneOf "?:,]\x7d%@\x60")) then c.malformed
  else return { s.put (token name) with keyAllowed := false, cursor := c }

def hasHandle (t : Text) : Bool := (t.takeWhile fun p => !endsTabbedWord (some p)).contains (.char '!')

def tag (s : Scanner) : Step := do
  let s ← s.saveKey
  let c := s.cursor
  let (token, c) ←
    if c.ahead? 1 == some (.char '<') then do
      let (suffix, c) ← uri (c.skip 2)
      if c.isAt '>' then pure (Token.tag none suffix, c.next) else c.malformed
    else if endsWord (c.ahead? 1) then pure (.tag none "!", c.next)
    else do
      let (name, c) ← if hasHandle c.next.rest then handleName c else pure (("!" : Text), c.next)
      let (suffix, c) ← uri c
      pure (.tag (some name) suffix, c)
  if endsTabbedWord c.head? then return { s.put token with keyAllowed := false, cursor := c } else c.malformed

def streamEnd (s : Scanner) : Step := do
  let s ← (s.unwind (-1)).dropKey
  return { s.put .streamEnd with keyAllowed := false, keys := [] }

def separator (s : Scanner) (t : Token) : Step := do
  let s ← (s.unwind (-1)).dropKey
  return { s.putSign t 3 with keyAllowed := false }

def openFlow (s : Scanner) (t : Token) : Step := do
  let s ← s.saveKey
  return { s.putSign t 1 with depth := s.depth + 1, keyAllowed := true }

def closeFlow (s : Scanner) (t : Token) : Step := do
  let s ← s.dropKey
  if s.inFlow then return { s.putSign t 1 with depth := s.depth - 1, keyAllowed := false } else s.cursor.malformed

def comma (s : Scanner) : Step := do
  let s ← s.dropKey
  return { s.putSign .comma 1 with keyAllowed := true }

def item (s : Scanner) : Step := do
  if !s.inFlow && !s.keyAllowed then s.cursor.malformed
  let s := if s.inFlow then s else s.openBlock .blockSequence
  let s ← s.dropKey
  return { s.putSign .item 1 with keyAllowed := true }

def key (s : Scanner) : Step := do
  if !s.inFlow && !s.keyAllowed then s.cursor.malformed
  let s := if s.inFlow then s else s.openBlock .blockMapping
  let s ← s.dropKey
  return { s.putSign .key 1 with keyAllowed := !s.inFlow }

def value (s : Scanner) : Step := do
  match s.keys.lookup s.depth with
  | some k =>
    let s := { s with keys := s.keys.filter fun (depth, _) => depth != s.depth }
    let s := s.insert k.position .key
    let s := if !s.inFlow && s.indent < (k.column : Int) then (s.deepen k.column).insert k.position .blockMapping else s
    return { s.putSign .value 1 with keyAllowed := false }
  | none =>
    if !s.inFlow && !s.keyAllowed then s.cursor.malformed
    let s := if s.inFlow then s else s.openBlock .blockMapping
    let s ← s.dropKey
    return { s.putSign .value 1 with keyAllowed := !s.inFlow }

def blockScalar (s : Scanner) (isFolded : Bool) : Step := do
  let s ← s.dropKey
  let (t, cursor) ← block isFolded s.indent s.cursor
  return { s.put (.scalar t false) with keyAllowed := true, cursor }

def quotedScalar (s : Scanner) (q : Quote) : Step := do
  let s ← s.saveKey
  let (t, cursor) ← quoted q s.cursor
  return { s.put (.scalar t false) with keyAllowed := false, cursor }

def plainScalar (s : Scanner) : Step := do
  let s ← s.saveKey
  let (t, keyAllowed, cursor) := plain s.inFlow (s.indent + 1) s.cursor
  return { s.put (.scalar t true) with keyAllowed, cursor }

def indicators : String := "-?:,[]\x7b\x7d#&*!|>'\"%@\x60"

def startsPlain (s : Scanner) (p : CodePoint) : Bool :=
  !(endsWord (some p) || isOneOf indicators p)
    || !endsWord (s.cursor.ahead? 1) && (p == .char '-' || !s.inFlow && isOneOf "?:" p)

def other (s : Scanner) (p : CodePoint) : Step := if s.startsPlain p then s.plainScalar else s.cursor.malformed

def isAlone (s : Scanner) : Bool := endsWord (s.cursor.ahead? 1)

def token (s : Scanner) : Step :=
  let c := s.cursor
  match c.head? with
  | none => s.streamEnd
  | some p =>
    if c.column = 0 && p == .char '%' then s.directive
    else if c.column = 0 && c.isMarked '-' then s.separator .documentStart
    else if c.column = 0 && c.isMarked '.' then s.separator .documentEnd
    else match p with
      | .char '[' => s.openFlow .openSequence
      | .char '\x7b' => s.openFlow .openMapping
      | .char ']' => s.closeFlow .closeSequence
      | .char '\x7d' => s.closeFlow .closeMapping
      | .char ',' => s.comma
      | .char '-' => if s.isAlone then s.item else s.other p
      | .char '?' => if s.inFlow || s.isAlone then s.key else s.other p
      | .char ':' => if s.inFlow || s.isAlone then s.value else s.other p
      | .char '*' => s.reference .alias
      | .char '&' => s.reference .anchor
      | .char '!' => s.tag
      | .char '|' => if s.inFlow then s.other p else s.blockScalar false
      | .char '>' => if s.inFlow then s.other p else s.blockScalar true
      | .char '\'' => s.quotedScalar .single
      | .char '"' => s.quotedScalar .double
      | p => s.other p

def lookedAhead (s : Scanner) : Nat :=
  if s.cursor.column = 0 ∧ (s.cursor.isAt '-' ∨ s.cursor.isAt '.') then s.cursor.index + 2 else s.cursor.index

/-- Goes on to the next token. A text may break off at its end, with a failure of its own; that failure shows as soon as
something there is looked at. -/
def step (broken : Option Failure) (s : Scanner) : Except Failure Scanner := do
  let limit := s.cursor.index + s.cursor.rest.length
  let within (index : Nat) : Except Failure Unit := match broken with
    | some f => if limit ≤ index then .error f else .ok ()
    | none => .ok ()
  let settle (r : Step) : Except Failure Scanner := match r with
    | .ok s => do
      within s.cursor.index
      return s
    | .error e => do
      within e.index
      throw e.failure
  let s ← settle (.ok (s.toToken (s.cursor.rest.length + 1)))
  within s.lookedAhead
  let s ← settle s.dropStale
  settle (s.unwind s.cursor.column).token

/-- How many tokens are settled: no key can be put before or among them any more. -/
def settled (s : Scanner) : Nat := s.keys.foldl (fun n (_, k) => min n k.position) s.count

end Scanner

structure TokenRun where
  tokens : List Token
  ending : Failure
  deriving Repr

namespace Scanner

def runBefore (s : Scanner) (count : Nat) (ending : Failure) : TokenRun :=
  { tokens := (s.tokens.drop (s.count - count)).reverse, ending }

def scan (broken : Option Failure) : (fuel settled : Nat) → Scanner → TokenRun
  | 0, settled, s => s.runBefore settled .malformedYaml
  | fuel + 1, settled, s =>
    if s.tokens.head? == some .streamEnd then s.runBefore s.count .malformedYaml
    else match s.dropStale with
      | .error e => s.runBefore settled e.failure
      | .ok s => match s.step broken with
        | .error f => s.runBefore s.settled f
        | .ok next => scan broken fuel s.settled next

end Scanner

def start (t : Text) : Cursor :=
  let c : Cursor := { rest := t }
  if c.head? == some byteOrderMark then c.next else c

def tokens (source : Source) : TokenRun :=
  Scanner.scan source.broken (source.text.length + 2) 0 { cursor := start source.text }

end TestWeaver.Yaml
