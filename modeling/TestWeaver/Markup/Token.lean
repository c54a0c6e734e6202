import TestWeaver.Markup.Reference
import TestWeaver.Text.Case
import TestWeaver.Text.Quoted

/-!
Tokens of a marked-up text: running text, tags, and what breaks running text without being shown. What looks like
markup and is not complete is running text; only two sorts of sections with no known meaning, and references by numbers
of too many digits, make a text unreadable.
-/
namespace TestWeaver.Markup

inductive Token where
  | text (t : Text)
  | start (name : Text)
  | close (name : Text)
  | empty (name : Text)
  | aside
  | verbatim (t : Text)
  deriving DecidableEq, Repr

inductive Rejection where
  | unnamedSection (start : Text)
  | unknownSection (name : Text)
  deriving DecidableEq, Repr

def Rejection.message : Rejection → Text
  | unnamedSection start => "expected name token at " ++ start.quoted
  | unknownSection name => "unknown status keyword " ++ name.quoted ++ " in marked section"

inductive MarkupError where
  | rejected (r : Rejection)
  | number (e : LongNumeral)
  deriving DecidableEq, Repr

abbrev Piece := Option (List Token × Text)

def endMark : CodePoint := .char '>'

def afterMark? (t : Text) : Option Text := (t.cut? [endMark]).map (·.2)

def endsTagName (c : CodePoint) : Bool :=
  c == .char '\t' || c == .char '\n' || c == .char '\r' || c == .char '\x0c' || c == .char ' ' || c == .char '/'
    || c == endMark || c == .char '\x00'

def tagName? (t : Text) : Option (Text × Text) :=
  if t.head?.any CodePoint.isLetter then
    let name := t.takeWhile fun c => !endsTagName c
    some (name, t.drop name.length)
  else none

def isQuote (c : CodePoint) : Bool := c == .char '"' || c == .char '\''

def isEqualSign (c : CodePoint) : Bool := c == .char '='

abbrev Place := Option CodePoint × Text

def after (before : Option CodePoint) (t : Text) (n : Nat) : Place :=
  (if n = 0 then before else (t.take n).getLast?, t.drop n)

def gapLength : Text → Nat
  | .char '/' :: .char '>' :: _ => 0
  | c :: rest => if c == .char '/' || c.isBlank then gapLength rest + 1 else 0
  | [] => 0

def isBare (c : CodePoint) : Bool := c != endMark && !c.isBlank

def valueLength (t : Text) : Nat :=
  let lead := (t.takeWhile CodePoint.isBlank).length
  let signs := ((t.drop lead).takeWhile isEqualSign).length
  let blanks := ((t.drop (lead + signs)).takeWhile CodePoint.isBlank).length
  let rest := t.drop (lead + signs + blanks)
  if signs = 0 then 0
  else match rest with
    | quote :: inner =>
      if isQuote quote then
        let content := inner.takeWhile (· != quote)
        if content.length < inner.length then lead + signs + blanks + content.length + 2
        -- a quotation that does not close is no value: the value is empty if a blank stands before it, or starts
        -- with the last of several equal signs
        else if 0 < blanks then lead + signs + blanks
        else if 1 < signs then lead + signs + (rest.takeWhile isBare).length
        else 0
      else lead + signs + blanks + (rest.takeWhile isBare).length
    | [] => lead + signs + blanks

def nameLength : Place → Nat
  | (some before, c :: rest) =>
    if (isQuote before || before == .char '/' || before.isBlank) && !(c.isBlank || c == .char '/' || c == endMark) then
      1 + (rest.takeWhile fun c => !(c.isBlank || c == .char '/' || isEqualSign c || c == endMark)).length
    else 0
  | _ => 0

def attributes : (fuel : Nat) → Place → List Text × Place
  | 0, place => ([], place)
  | fuel + 1, (before, t) =>
    let name := nameLength (before, t)
    if name = 0 then ([], (before, t))
    else
      let (before, t) := after before t name
      let n := valueLength t
      let value := t.take n
      let (before, t) := after before t n
      let (values, place) := attributes fuel (after before t (gapLength t))
      (value :: values, place)

def isTagGoingOn (c : CodePoint) : Bool := c.isLetter || isEqualSign c || c == .char '/'

def startPiece (name : Text) (t rest : Text) : Piece :=
  match rest with
  | .char '>' :: rest => some ([.start (Text.lower name)], rest)
  | .char '/' :: .char '>' :: rest => some ([.empty (Text.lower name)], rest)
  | [] => none
  | c :: _ => if isTagGoingOn c then none else some ([.text (.char '<' :: t.take (t.length - rest.length))], rest)

def startTag (t : Text) : Except LongNumeral Piece :=
  match tagName? t with
  | none => .ok none
  | some (name, rest) =>
    let (values, _, rest) := attributes rest.length (after name.getLast? rest (gapLength rest))
    match startPiece name t rest with
    | none => .ok none
    | some found => match values.findSome? longNumeral? with
      | some e => .error e
      | none => .ok (some found)

def isEndNamePart (c : CodePoint) : Bool := isNamePart c || c == .char ':' || c == .char '_'

def plainEndTag? (t : Text) : Piece :=
  let t := t.dropBlank
  let name := t.takeWhile isEndNamePart
  if !t.head?.any CodePoint.isLetter then none
  else match Text.dropBlank (t.drop name.length) with
    | .char '>' :: rest => some ([.close (Text.lower name)], rest)
    | _ => none

def endTag? (t : Text) : Piece :=
  (afterMark? t).bind fun rest =>
    match plainEndTag? t with
    | some piece => some piece
    | none => match tagName? t with
      | some (name, tail) => some ([.close (Text.lower name)], (afterMark? tail).getD rest)
      | none => if t.head? == some endMark then some ([], rest) else some ([.aside], rest)

def afterParts? : (parts : Text) → Text → Option Text
  | [], t => some t
  | p :: parts, t =>
    match Text.dropBlank t with
    | c :: rest => if c = p then afterParts? parts rest else none
    | [] => none

def cutAt? (lead parts : Text) : Text → Option (Text × Text)
  | [] => none
  | c :: t =>
    match (Text.afterLead? (c :: t) lead).bind (afterParts? parts) with
    | some rest => some ([], rest)
    | none => (cutAt? lead parts t).map fun (before, rest) => (c :: before, rest)

def comment? (t : Text) : Piece := (cutAt? "--" ">" t).map fun (_, rest) => ([.aside], rest)

def isSectionPart (c : CodePoint) : Bool := isNamePart c || c == .char '_'

def documentSections : List Text := ["temp", "cdata", "ignore", "include", "rcdata"]

def conditionSections : List Text := ["if", "else", "endif"]

def sectionToken (content : Text) : Token :=
  match (Text.afterCaselessly? "cdata[".toList content) with
  | some t => .verbatim t
  | none => .aside

def excerptLength : Nat := 20

def markedSection (t : Text) : Except Rejection Piece :=
  let name := t.takeWhile isSectionPart
  let spaced := t.take (name.length + ((t.drop name.length).takeWhile CodePoint.isBlank).length)
  let found (cut : Option (Text × Text)) : Piece := cut.map fun (content, rest) => ([sectionToken content], rest)
  if t.isEmpty then .ok none
  else if !t.head?.any CodePoint.isLetter then .error (.unnamedSection (("<![" ++ t : Text).take excerptLength))
  else if spaced.length = t.length then .ok none
  else if documentSections.contains (Text.lower name) then .ok (found (cutAt? "]" "]>" t))
  else if conditionSections.contains (Text.lower name) then .ok (found (cutAt? "]" ">" t))
  else .error (.unknownSection spaced)

def declaration (t : Text) : Except Rejection Piece :=
  match t with
  | .char '[' :: rest => markedSection rest
  | t => .ok ((afterMark? ((Text.afterCaselessly? "doctype".toList t).getD t)).map fun rest => ([.aside], rest))

def piece (t : Text) : Except MarkupError Piece :=
  match t with
  | .char '/' :: rest => .ok (endTag? rest)
  | .char '?' :: rest => .ok ((afterMark? rest).map fun rest => ([.aside], rest))
  | .char '!' :: rest =>
    match Text.afterLead? rest "--" with
    | some rest => .ok (comment? rest)
    | none => (declaration rest).mapError .rejected
  | t => if t.head?.any CodePoint.isLetter then (startTag t).mapError .number else .ok (some ([.text "<"], t))

def spoiltLength (t : Text) : Nat :=
  let upTo (c : CodePoint) := (t.takeWhile (· != c)).length
  if upTo endMark < t.length then upTo endMark + 1 else if upTo (.char '<') < t.length then upTo (.char '<') else 0

def rawElements : List Text := ["script", "style"]

def afterRaw? (name : Text) : Text → Option Text
  | [] => none
  | c :: t =>
    match (Text.afterLead? (c :: t) "</").bind plainEndTag? with
    | some ([.close other], _) => if other = name then some (c :: t) else afterRaw? name t
    | _ => afterRaw? name t

def pastRaw (tokens : List Token) (rest : Text) : Text :=
  match tokens with
  | [.start name] => if rawElements.contains name then (afterRaw? name rest).getD [] else rest
  | _ => rest

/-- What an ampersand opens, given from after it: the text that it stands for, and the text after it. A number that
is none is running text as far as the hash, unless the document is read to its `final` end or has no semicolon left;
then all the rest is running text. -/
def reference (final : Bool) (t : Text) : Except LongNumeral (Text × Text) :=
  match t with
  | .char '#' :: digits =>
    match numbered? digits with
    | some found => found.number.map fun n => ([ofNumber n], found.rest)
    | none => .ok (if final || !digits.contains (.char ';') then ("&" ++ t, []) else ("&#", digits))
  | [c] => .ok (if c.isLetter then ([c], []) else ("&", [c]))
  | t =>
    match named? t with
    | some found => .ok found
    | none => .ok (if t.head?.any CodePoint.isLetter then ("&" ++ t, []) else ("&", t))

def isUnfinishedNumber : Text → Bool
  | .char '#' :: digits => (numbered? digits).isNone
  | _ => false

def isPlain (c : CodePoint) : Bool := c != .char '<' && c != .char '&'

/-- Reads on; the first piece that does not come to its end, or a number that is none, starts the `final` reading. -/
def tokensFrom : (fuel : Nat) → (final : Bool) → Text → Except MarkupError (List Token)
  | 0, _, _ => .ok []
  | _, _, [] => .ok []
  | fuel + 1, final, .char '&' :: t => do
    let (shown, rest) ← (reference final t).mapError .number
    return .text shown :: (← tokensFrom fuel (final || isUnfinishedNumber t) rest)
  | fuel + 1, final, .char '<' :: t => do
    match ← piece t with
    | some (tokens, rest) => return tokens ++ (← tokensFrom fuel final (pastRaw tokens rest))
    | none =>
      let n := spoiltLength t
      return .text (.char '<' :: t.take n) :: (← tokensFrom fuel true (t.drop n))
  | fuel + 1, final, t =>
    let run := t.takeWhile isPlain
    (tokensFrom fuel final (t.drop run.length)).map (.text run :: ·)

def tokens (t : Text) : Except MarkupError (List Token) := tokensFrom (t.length + 1) false t

end TestWeaver.Markup
