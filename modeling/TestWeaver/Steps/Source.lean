import TestWeaver.Steps.Module
import TestWeaver.Page.Source

/-!
The source text of step definitions: a fixture that binds the page object, and a function for each handler with a
decorator for each of its types.
-/
namespace TestWeaver.Steps

inductive Body where
  | call (method passed : Text)
  | note (literal : Text)
  deriving DecidableEq, Repr

structure HandlerSource where
  types : List Text
  pattern : Text
  parsed : Bool
  function : Text
  parameter : Option Text
  body : Body
  deriving DecidableEq, Repr

structure Source where
  className : Text
  pageClass : Text
  pageModule : Text
  featureFile : Text
  featureLiteral : Text
  fixture : Text
  handlers : List HandlerSource
  deriving DecidableEq, Repr

def given? (t : Option Text) : Option Text := t.filter fun t => !t.isEmpty

def passed (parameter : Option Text) (argument : Value) : Text := parameter.getD ((Page.literal? argument).getD [])

def passedNote (pattern : Text) : Text := Text.quoted ("Step passed: " ++ pattern)

def Handler.source (h : Handler) : HandlerSource :=
  let parameter := given? h.parameter
  { types := h.types.map (·.name), pattern := h.pattern.quoted, parsed := h.parsed, function := h.function, parameter
    body := match given? h.method with
      | some method => .call method (passed parameter h.argument)
      | none => .note (passedNote h.pattern) }

def Module.source (m : Module) : Source :=
  { className := m.className, pageClass := m.pageClass, pageModule := m.pageModule, featureFile := m.featureFile
    featureLiteral := m.featureFile.quoted, fixture := m.fixture, handlers := m.handlers.map Handler.source }

def HandlerSource.decorator (h : HandlerSource) (type : Text) : Text :=
  "@" ++ type ++ "(" ++ (if h.parsed then "parsers.parse(" ++ h.pattern ++ ")" else h.pattern) ++ ")"

def HandlerSource.bodyLine (h : HandlerSource) (fixture : Text) : Text :=
  match h.body with
  | .call method passed => "    " ++ fixture ++ "." ++ method ++ "(" ++ passed ++ ")"
  | .note literal => "    logger.info(" ++ literal ++ ")"

def HandlerSource.arguments (h : HandlerSource) (fixture : Text) : Text :=
  match h.parameter with
  | some parameter => fixture ++ ", " ++ parameter
  | none => fixture

def HandlerSource.lines (h : HandlerSource) (fixture : Text) : List Text :=
  h.types.map h.decorator ++ ["def " ++ h.function ++ "(" ++ h.arguments fixture ++ "):", h.bodyLine fixture]

def Source.types (s : Source) : List Text := (s.handlers.flatMap fun h => h.types).eraseDups

def Source.imports (s : Source) : List Text :=
  let parsers : List Text := if s.handlers.any fun h => h.parsed then ["parsers"] else []
  (s.types ++ parsers ++ [Text.ofString "scenarios"]).mergeSort Text.le

def Source.head (s : Source) : List Text := [
  "\"\"\"",
  "Step definitions for " ++ s.className ++ ".",
  "",
  "Binds " ++ s.featureFile ++ " steps to " ++ s.pageClass ++ " methods.",
  "\"\"\"",
  "import logging",
  "",
  "import pytest",
  "from pytest_bdd import " ++ Text.join ", " s.imports,
  "",
  "from " ++ s.pageModule ++ " import " ++ s.pageClass,
  "",
  "logger = logging.getLogger(__name__)",
  "",
  "scenarios(" ++ s.featureLiteral ++ ")",
  "",
  "",
  "@pytest.fixture",
  "def " ++ s.fixture ++ "(page):",
  "    \"\"\"" ++ s.pageClass ++ " bound to the Playwright page fixture.\"\"\"",
  "    return " ++ s.pageClass ++ "(page)"]

def Source.text (s : Source) : Text :=
  Page.sourceOf (s.head ++ s.handlers.flatMap fun h => [[], []] ++ h.lines s.fixture)

def Module.text (m : Module) : Text := m.source.text

end TestWeaver.Steps
