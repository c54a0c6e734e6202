import TestWeaver.Recording.Role
import TestWeaver.Action

/-!
The call shapes that a recording may hold, one per line: a navigation, an accessor followed by a gesture, or a
flat gesture. A shape reads a line by trying the ends of its literals and of its argument lists in order of
preference; the first that lets the rest of the line fit decides.
-/
namespace TestWeaver.Recording

inductive Call where
  | navigate (url : Text)
  | act (kind : Kind) (selector : Text) (value : Option Text) (given : selector ≠ [])
  deriving DecidableEq, Repr

namespace Call

def kind : Call → Kind
  | navigate _ => .navigate
  | act kind .. => kind

def selector : Call → Option Text
  | navigate _ => none
  | act _ selector .. => some selector

def value : Call → Option Text
  | navigate url => some url
  | act _ _ value _ => value

end Call

inductive Accessor where
  | locator
  | role
  | text
  | placeholder
  | label
  deriving DecidableEq, Repr

inductive Gesture where
  | click
  | fill
  | select
  | check
  | press
  deriving DecidableEq, Repr

inductive Shape where
  | navigation
  | chained (accessor : Accessor) (gesture : Gesture)
  | flat (gesture : Gesture)
  deriving DecidableEq, Repr

namespace Accessor

def spellings : Accessor → List Text
  | locator => ["locator"]
  | role => ["getByRole", "get_by_role"]
  | text => ["getByText", "get_by_text"]
  | placeholder => ["getByPlaceholder", "get_by_placeholder"]
  | label => ["getByLabel", "get_by_label"]

def name (a : Accessor) : Text := a.spellings.headD []

def tag : Accessor → Text
  | locator | role => []
  | text => "text="
  | placeholder => "placeholder="
  | label => "label="

end Accessor

namespace Gesture

def spellings : Gesture → List Text
  | click => ["click"]
  | fill => ["fill"]
  | select => ["selectOption", "select_option"]
  | check => ["check"]
  | press => ["press"]

def name (g : Gesture) : Text := g.spellings.headD []

def kind : Gesture → Kind
  | click => .click
  | fill => .fill
  | select => .select
  | check => .check
  | press => .press

def takesValue : Gesture → Bool
  | click | check => false
  | fill | select | press => true

end Gesture

namespace Shape

def name : Shape → Text
  | navigation => "navigate"
  | chained a g => a.name ++ "." ++ g.name
  | flat g => g.name

def kind : Shape → Kind
  | navigation => .navigate
  | chained _ g => g.kind
  | flat g => g.kind

end Shape

def afterReceiver (t : Text) : Text :=
  let t := match t.afterLead? "await" with
    | some (c :: rest) => if c.isBlank then Text.dropBlank rest else t
    | _ => t
  (t.afterLead? "self.page." <|> t.afterLead? "page.").getD t

def isStatementEnd (t : Text) : Bool :=
  match t.dropBlank with
  | [] => true
  | c :: rest => c == .char ';' && Text.isBlank rest

def afterParentheses : Text → List Text
  | [] => []
  | c :: t =>
    if c = .char '\n' then []
    else if c = .char ')' then t :: afterParentheses t
    else afterParentheses t

def afterArguments (t : Text) : List Text :=
  match t with
  | .char ')' :: rest => [rest]
  -- further arguments run up to one of the closing parentheses
  | _ => match t.dropBlank with
    | .char ',' :: rest => afterParentheses rest
    | _ => []

def afterCall? (names : List Text) (t : Text) : Option Text :=
  names.findSome? fun name => t.afterLead? (name ++ "(")

def literalArguments (t : Text) : List (Text × Text) := literals t.dropBlank

def gestureToEnd? (g : Gesture) (t : Text) : Option (Option Text) :=
  match t.dropBlank with
  | .char '.' :: t => (afterCall? g.spellings t).bind fun t =>
    if g.takesValue then
      (literalArguments t).findSome? fun (value, rest) =>
        if (afterArguments rest).any isStatementEnd then some (some value) else none
    else match t.dropWhile (· != .char ')') with
      | _ :: rest => if isStatementEnd rest then some none else none
      | [] => none
  | _ => none

def roleArguments (t : Text) : List (Text × Text) := (go [] t).reverse
where
  go (before : Text) : Text → List (Text × Text)
    | [] => []
    | c :: t =>
      if c = .char '\n' then []
      else if c = .char ')' then (before.reverse, t) :: go (c :: before) t
      else go (c :: before) t

def Shape.captures? (shape : Shape) (line : Text) : Option (Text × Option Text) :=
  let t := afterReceiver line
  match shape with
  | .navigation => (afterCall? ["navigate", "goto"] t).bind fun t =>
    (literalArguments t).findSome? fun (url, rest) =>
      if (afterArguments rest).any isStatementEnd then some (url, none) else none
  | .chained .role g => (afterCall? Accessor.role.spellings t).bind fun t =>
    (roleArguments t).findSome? fun (args, rest) => (gestureToEnd? g rest).map fun value => (args, value)
  | .chained a g => (afterCall? a.spellings t).bind fun t =>
    (literalArguments t).findSome? fun (given, rest) =>
      (afterArguments rest).findSome? fun rest => (gestureToEnd? g rest).map fun value => (given, value)
  | .flat g => (afterCall? g.spellings t).bind fun t =>
    (literalArguments t).findSome? fun (given, rest) =>
      if g.takesValue then
        match rest.dropBlank with
        | .char ',' :: rest => (literalArguments rest).findSome? fun (value, rest) =>
          if (afterArguments rest).any isStatementEnd then some (given, some value) else none
        | _ => none
      else if (afterArguments rest).any isStatementEnd then some (given, none) else none

def Call.act? (kind : Kind) (selector : Text) (value : Option Text) : Option Call :=
  if given : selector ≠ [] then some (.act kind selector value given) else none

def Shape.read? (shape : Shape) (line : Text) : Option Call :=
  (shape.captures? line).bind fun (given, value) =>
    match shape with
    | .navigation => some (.navigate (unescape given))
    | .chained .role g => (roleSelector? given).bind fun s => Call.act? g.kind s (value.map unescape)
    | .chained .locator g => Call.act? g.kind (unescape given).trim (value.map unescape)
    | .chained a g =>
      let text := unescape given
      if text.isBlank then none else Call.act? g.kind (a.tag ++ text) (value.map unescape)
    | .flat g => Call.act? g.kind (unescape given).trim (value.map unescape)

def defaultShapes : List Shape := [
  .navigation,
  .chained .locator .click, .chained .locator .fill, .chained .locator .select, .chained .locator .check,
  .chained .locator .press,
  .chained .role .click, .chained .role .fill,
  .chained .text .click,
  .chained .placeholder .fill,
  .chained .label .click, .chained .label .fill, .chained .label .press, .chained .label .check,
  .flat .click, .flat .fill, .flat .select, .flat .check, .flat .press]

def Shape.ofName? (name : Text) : Option Shape := defaultShapes.find? fun s => s.name == name

def recognize? (table : List Shape) (line : Text) : Option (Shape × Call) :=
  table.findSome? fun shape => (shape.read? line).map fun call => (shape, call)

end TestWeaver.Recording
