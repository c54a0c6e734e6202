import TestWeaver.Naming.Words
import TestWeaver.Text.Word

/-!
Readable names of selectors. Rules look for the part of a selector that names the element; the first rule, in
their fixed order, that finds a non-empty part decides, and without one the whole selector is the name.
-/
namespace TestWeaver.Naming

inductive Rule where
  | text
  | placeholder
  | label
  | id
  | role
  | hasText
  | name
  | placeholderAttribute
  | ariaLabel
  | title
  | value
  | styleClass
  | testId
  deriving DecidableEq, Repr

def isMark (p : CodePoint) : Bool := p == .char '"' || p == .char '\''

def dropMark : Text → Text
  | c :: t => if isMark c then t else c :: t
  | [] => []

def takeIdentifier? (t : Text) : Option Text :=
  let found := t.takeWhile CodePoint.isWordOrHyphen
  if found.isEmpty then none else some found

def takeMarked? : Text → Option Text
  | c :: t =>
    let content := t.takeWhile fun p => !isMark p
    if isMark c && !content.isEmpty && content.length < t.length then some content else none
  | [] => none

def afterSign? (t : Text) : Option Text := (t.dropBlank.afterLead? "=").map Text.dropBlank

def attribute? (name : Text) (whole : Bool) (selector : Text) : Option Text :=
  Text.search (fun before t =>
    -- a whole attribute name has no word code point and no hyphen before it
    if whole && before.any CodePoint.isWordOrHyphen then none
    else ((t.afterLead? name).bind afterSign?).bind takeMarked?) none selector

def spaceJoints (t : Text) : Text :=
  t.map fun p => if p == .char '-' || p == .char '_' then .char ' ' else p

def idWords : List String := ["btn", "button", "input", "field", "link", "txt", "id"]

def dropIdWord (t : Text) : Text :=
  let back := t.reverse
  let last := back.takeWhile fun p => p != .char '-' && p != .char '_'
  if last.length < t.length && idWords.any (fun w => Text.isCaselessly w last.reverse) then
    t.take (t.length - last.length - 1)
  else t

def accessibleRun : Text → Text
  | [] => []
  | [c] => if isMark c || c == .char ']' then [] else [c]
  | c :: d :: t =>
    -- a line feed cannot be guarded
    if c == .char '\\' && d != .char '\n' then c :: d :: accessibleRun t
    else if isMark c || c == .char ']' then []
    else c :: accessibleRun (d :: t)

def roleName? (selector : Text) : Option Text := do
  let t ← selector.afterLead? "role="
  let word := t.takeWhile CodePoint.isWord
  let t ← Text.afterLead? (t.drop word.length) "["
  let t ← t.dropBlank.afterLead? "name"
  let t ← t.dropBlank.afterLead? "="
  let name := accessibleRun (dropMark t.dropBlank)
  if word.isEmpty then none
  else if !name.isEmpty then some name
  -- where only blanks stand, the last of them is the name
  else (t.takeWhile CodePoint.isBlank).getLast?.map fun blank => [blank]

namespace Rule

def all : List Rule := [text, placeholder, label, id, role, hasText, name, placeholderAttribute, ariaLabel, title,
  value, styleClass, testId]

def word : Rule → Text
  | text => "text"
  | placeholder => "placeholder"
  | label => "label"
  | id => "id"
  | role => "role"
  | hasText => "has-text"
  | name => "name"
  | placeholderAttribute => "placeholder-attr"
  | ariaLabel => "aria-label"
  | title => "title"
  | value => "value"
  | styleClass => "class"
  | testId => "data-testid"

def extract? : Rule → Text → Option Text
  | text, s => s.afterLead? "text="
  | placeholder, s => s.afterLead? "placeholder="
  | label, s => s.afterLead? "label="
  | id, s => ((s.afterLead? "#").bind takeIdentifier?).map dropIdWord
  | role, s => roleName? s
  | hasText, s => Text.search (fun _ t => (t.afterLead? ":has-text(").bind fun t => takeMarked? (Text.dropBlank t))
      none s
  | name, s => attribute? "name" true s
  | placeholderAttribute, s => attribute? "placeholder" false s
  | ariaLabel, s => attribute? "aria-label" false s
  | title, s => attribute? "title" false s
  | value, s => attribute? "value" true s
  | styleClass, s => ((s.afterLead? ".").bind takeIdentifier?).map spaceJoints
  | testId, s => (Text.search (fun _ t =>
      (((t.afterLead? "data-testid").orElse fun _ => t.afterLead? "data-test-id").bind afterSign?).bind fun t =>
        takeIdentifier? (dropMark t)) none s).map spaceJoints

end Rule

def findings (selector : Text) : List (Rule × Text) :=
  Rule.all.filterMap fun r => (r.extract? selector).map fun found => (r, found)

def rawName (selector : Text) : Text :=
  (Rule.all.findSome? fun r => (r.extract? selector).filter fun found => !found.isEmpty).getD selector

def readable (selector : Text) : Text :=
  let cleaned := clean (rawName selector)
  let joined := cleaned.filter (· != .char ' ')
  if cleaned.isEmpty then "Element"
  else if joined.all CodePoint.isDigit then "Number" ++ joined
  else
    let name := pascal cleaned
    if name.head?.any CodePoint.isDigit then "Element" ++ name else name

end TestWeaver.Naming
