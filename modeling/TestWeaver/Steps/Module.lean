import TestWeaver.Feature.Step
import TestWeaver.Layout
import TestWeaver.Text.Word

/-!
The step definitions that bind the steps of a feature to the methods of a page. The handler of the precondition
comes first; in a recording the handler of the closing step comes last.
-/
namespace TestWeaver.Steps

inductive StepType where
  | given
  | when
  | then
  deriving DecidableEq, Repr

namespace StepType

def name : StepType → Text
  | given => "given"
  | when => "when"
  | «then» => "then"

def all : List StepType := [given, when, «then»]

def ofName? (t : Text) : Option StepType := all.find? fun s => s.name == t

end StepType

structure Handler where
  types : List StepType
  pattern : Text
  function : Text
  method : Option Text := none
  parameter : Option Text := none
  argument : Value := .null
  parsed : Bool := false
  deriving Repr

structure Module where
  className : Text
  pageClass : Text
  pageModule : Text
  featureFile : Text
  fixture : Text
  handlers : List Handler := []
  deriving Repr

def Module.referenced (m : Module) : List Text :=
  m.handlers.filterMap fun h => h.method.filter fun name => !name.isEmpty

def isSmallOrDigit (p : CodePoint) : Bool := p.isSmall || p.isDigit

/-- The name of a step as a function, of at most sixty code points before a number. It starts with a small letter,
and not like the name of a test. -/
def functionStem (text : Text) : Text :=
  let joined := Text.join "_" (Text.runs isSmallOrDigit text.lower)
  let named : Text := if joined.isEmpty then "step" else joined
  let safe := if named.head?.any CodePoint.isDigit || named.startsWith "test" then "step_" ++ named else named
  Text.dropTail (· == .char '_') (safe.take 60)

def candidate (stem : Text) : Nat → Text
  | 0 => stem
  | n + 1 => stem ++ "_" ++ Text.ofNat (n + 2)

def freshName (taken : List Text) (text : Text) : Text :=
  let stem := functionStem text
  -- among one more candidates than taken names there is a free one
  (((List.range (taken.length + 1)).map (candidate stem)).find? fun name => !taken.contains name).getD stem

def freshNames (taken : List Text) : List Text → List Text × List Text
  | [] => ([], taken)
  | text :: rest =>
    let name := freshName taken text
    let (names, taken) := freshNames (taken ++ [name]) rest
    (name :: names, taken)

def patternOf (a : Action) : Text × Option Text :=
  match a.kind with
  | .fill => ("user enters \"\x7btext\x7d\" into " ++ Naming.spoken a.names.readable, some "text")
  | .select => ("user selects \"\x7boption\x7d\" from " ++ Naming.spoken a.names.readable, some "option")
  | _ => (a.names.phrase, none)

def Module.ofLayout (l : Layout) : Module where
  className := l.className
  pageClass := l.pageClass
  pageModule := l.pageImport
  featureFile := l.featureReference
  fixture := l.pageModule

def Module.taken (m : Module) : List Text := m.fixture :: m.handlers.map (·.function)

def Module.add (m : Module) (h : Handler) : Module := { m with handlers := m.handlers ++ [h] }

def Module.start (c : Context) (l : Layout) : Module × Context :=
  let m := Module.ofLayout l
  let pattern := Feature.preconditionText l.className
  (m.add { types := [.given], pattern, method := some Naming.navigationMethod
           function := freshName m.taken ("navigate to " ++ l.className ++ " page") },
    (c.emit .glue .step pattern).2)

def Module.addAction (m : Module) (c : Context) (a : Action) : Module × Context :=
  let (pattern, parameter) := patternOf a
  let (fresh, c) := c.emit .glue .step pattern
  if fresh then
    (m.add { types := [.when], pattern, function := freshName m.taken a.names.phrase
             method := some a.names.method, parameter, parsed := parameter.isSome }, c)
  else (m, c)

def Module.addActions (m : Module) (c : Context) : List Action → Module × Context
  | [] => (m, c)
  | a :: rest =>
    if a.isNavigation || !c.isDeclared a then m.addActions c rest
    else
      let (m, c) := m.addAction c a
      m.addActions c rest

def Module.ofActions (c : Context) (actions : List Action) (l : Layout) : Module × Context :=
  let (m, c) := Module.start c l
  let (m, c) := m.addActions c (Action.inOrder actions)
  (m.add { types := [.then], pattern := Feature.closingText, function := freshName m.taken "verify page updated" },
    (c.emit .glue .step Feature.closingText).2)

abbrev StepUses := List (Text × List StepType)

def StepUses.note (uses : StepUses) (text : Text) (type : StepType) : StepUses :=
  match uses with
  | [] => [(text, [type])]
  | (t, types) :: rest =>
    if t = text then (t, if types.contains type then types else types ++ [type]) :: rest
    else (t, types) :: note rest text type

def typeOf? (keyword : Text) : Option StepType := StepType.ofName? keyword.lower

def StepUses.noteScenario (uses : StepUses) (current : StepType) : List Text → StepUses
  | [] => uses
  | step :: rest =>
    let (keyword, text) := Feature.splitStep step
    -- a step that only goes on has the type of the one before it
    let current := (typeOf? keyword).getD current
    noteScenario (uses.note text current) current rest

def usesOf (r : Requirement) : StepUses := r.scenarios.foldl (fun uses s => uses.noteScenario .given s.steps) []

def arrivals : List Text := ["is on", "navigates to", "navigate to", "opens", "open"]

def isArrival (t : Text) : Bool :=
  (Text.search (fun before t =>
    if before.any CodePoint.isWord then none
    else if arrivals.any fun words =>
      match t.afterLead? words with
      | some rest =>
        !rest.head?.any CodePoint.isWord && Text.hasWordAfter words.getLast? "page" (rest.takeWhile (· != .char '\n'))
      | none => false
    then some () else none) none t).isSome

def elementActions (c : Context) (r : Requirement) (actions : List Action) : List (Text × Action) :=
  let onElements := (Action.inOrder actions).filter fun a => !a.isNavigation
  let pairs := ((r.elements.zip onElements).filter fun (_, a) => c.isDeclared a).map fun (e, a) => (e.name.lower, a)
  pairs.mergeSort fun p q => q.1.length ≤ p.1.length

def actionFor? (named : List (Text × Action)) (text : Text) : Option Action :=
  let lower := text.lower
  (named.find? fun (name, _) => lower.contains name).map (·.2)

def handlerOf (named : List (Text × Action)) (taken : List Text) (text : Text) (types : List StepType) : Handler :=
  let plain : Handler :=
    { types := StepType.all.filter types.contains, pattern := text, function := freshName taken text }
  if isArrival text.lower then { plain with method := some Naming.navigationMethod }
  else match actionFor? named text with
    | none => plain
    | some a =>
      { plain with
        method := some a.names.method
        argument := if a.kind.isParameterized then a.value.orElse (.text []) else .null }

def Module.addUses (m : Module) (c : Context) (named : List (Text × Action)) : StepUses → Module × Context
  | [] => (m, c)
  | (text, types) :: rest =>
    let (fresh, c) := c.emit .glue .step text
    if fresh then (m.add (handlerOf named m.taken text types)).addUses c named rest
    else m.addUses c named rest

def Module.ofRequirement (c : Context) (r : Requirement) (actions : List Action) (l : Layout) : Module × Context :=
  let (m, c) := Module.start c l
  m.addUses c (elementActions c r actions) (usesOf r)

end TestWeaver.Steps
