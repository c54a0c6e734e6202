import TestWeaver.Page.Module
import TestWeaver.Value.Shown

/-!
The source text of a page module: a class with the constants, a constructor, a helper that resolves the two tagged
kinds of selectors, and the methods. What was recorded stands in it as literals.
-/
namespace TestWeaver.Page

def sourceOf (lines : List Text) : Text := Text.unlines lines ++ "\n"

structure MethodSource where
  name : Text
  kind : Kind
  readable : Text
  constant : Text
  default : Option Text
  deriving DecidableEq, Repr

structure Source where
  className : Text
  story : Text
  path : Text
  constants : List (Text × Text)
  methods : List MethodSource
  deriving DecidableEq, Repr

def literal? : Value → Option Text
  | .null => none
  | v => some v.quoted

def Method.source (m : Method) : MethodSource :=
  { name := m.name, kind := m.kind, readable := m.readable, constant := m.constant.getD "None"
    default := literal? m.default }

def Module.source (m : Module) : Source :=
  { className := m.className, story := m.storyKey.shown, path := m.path.quoted
    constants := m.constants.map fun c => (c.name, c.selector.quoted), methods := m.methods.map Method.source }

def MethodSource.parameters (m : MethodSource) (p : Primitive) : Text :=
  match p.parameter, m.default with
  | some parameter, some value => "self, " ++ parameter ++ ": str = " ++ value
  | some parameter, none => "self, " ++ parameter ++ ": str"
  | none, _ => "self"

def MethodSource.lines (m : MethodSource) : List Text :=
  match primitive? m.kind with
  | none => [
      "    def " ++ m.name ++ "(self) -> None:",
      "        logger.info(\"Navigating to " ++ m.readable ++ " page\")",
      "        self.page.goto(BASE_URL + self.PAGE_PATH)",
      "        logger.info(\"Navigated to %s\", self.page.url)"]
  | some p => [
      "    def " ++ m.name ++ "(" ++ m.parameters p ++ ") -> None:",
      "        logger.info(\"" ++ p.starting ++ m.readable ++ "\")",
      "        self._locate(self." ++ m.constant ++ ")." ++ p.call,
      "        logger.info(\"" ++ p.done ++ m.readable ++ "\")"]

def Source.head (s : Source) : List Text := [
  "\"\"\"",
  "Page object for " ++ s.className ++ ".",
  "",
  "Auto-generated page object; regenerate instead of editing.",
  "Story: " ++ s.story,
  "\"\"\"",
  "import logging",
  "import os",
  "",
  "from playwright.sync_api import Locator, Page",
  "",
  "logger = logging.getLogger(__name__)",
  "",
  "BASE_URL = os.getenv(\"BASE_URL\", \"\")",
  "",
  "",
  "class " ++ Naming.pageClass s.className ++ ":",
  "    \"\"\"Page object for " ++ s.className ++ ".\"\"\"",
  "",
  "    PAGE_PATH = " ++ s.path,
  ""]

def constantLine (c : Text × Text) : Text := "    " ++ c.1 ++ " = " ++ c.2

def constantLines (constants : List (Text × Text)) : List Text :=
  if constants.isEmpty then [] else constants.map constantLine ++ [[]]

def helperLines : List Text := [
  "    def __init__(self, page: Page):",
  "        self.page = page",
  "",
  "    def _locate(self, selector: str) -> Locator:",
  "        \"\"\"Resolve placeholder= and label= selectors to accessor locators.\"\"\"",
  "        if selector.startswith(\"placeholder=\"):",
  "            return self.page.get_by_placeholder(selector[len(\"placeholder=\"):])",
  "        if selector.startswith(\"label=\"):",
  "            return self.page.get_by_label(selector[len(\"label=\"):])",
  "        return self.page.locator(selector)"]

def Source.text (s : Source) : Text :=
  sourceOf (s.head ++ constantLines s.constants ++ helperLines ++ s.methods.flatMap fun method => [] :: method.lines)

def Module.text (m : Module) : Text := m.source.text

end TestWeaver.Page
