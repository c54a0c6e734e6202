import TestWeaver.Generation.Write
import TestWeaver.Page.Source
import TestWeaver.Feature.Source
import TestWeaver.Steps.Source

/-!
What the two ways to generate have in common: where a project wants its artifacts, the three documents of a run, and
the result of writing them.
-/
namespace TestWeaver.Generation

structure Settings where
  baseUrl : Value := .text []
  pagesDir : Value := .text "pages"
  featuresDir : Value := .text "features"
  stepsDir : Value := .text "steps"
  working : List Text := []
  deriving Repr

def pagesName (v : Value) : Except Failure Text :=
  match v with
  | .bytes _ => .error (.wrongType "a bytes-like object is required, not 'str'")
  | v => v.textFor "strip"

def startName (v : Value) : Except Failure Text :=
  match v with
  | .null => .ok []
  | v => v.path

def Settings.layout (s : Settings) (className : Text) : Except Failure Layout := do
  let pages ← pagesName s.pagesDir
  let features ← s.featuresDir.path
  let steps ← startName s.stepsDir
  return { outputDir := [], className, directories := ⟨pages, features, steps⟩, working := s.working }

def Settings.placed (s : Settings) (outputDir : Value) (className : Text) : Except Failure Layout := do
  let directories : Directories := ⟨← s.pagesDir.path, ← s.featuresDir.path, ← s.stepsDir.path⟩
  return { outputDir := ← outputDir.path, className, directories, working := s.working }

inductive Mode where
  | recording
  | ticket
  deriving DecidableEq, Repr

def Mode.name : Mode → Text
  | recording => "recording"
  | ticket => "ticket"

structure Documents where
  page : Page.Module
  specification : Feature.Document
  steps : Steps.Module
  deriving Repr

def Documents.contents (d : Documents) : Contents :=
  [(.page, d.page.text), (.specification, d.specification.text), (.glue, d.steps.text)]

structure Result where
  className : Text
  files : List (Artifact × Text)
  warnings : List Text
  constants : List Text
  methods : List Text
  steps : List Text
  skippedDuplicates : Nat
  storyKey : Value
  mode : Mode
  deriving Repr

def Result.completed (r : Result) : Record :=
  .generation (.text r.className) (.text r.mode.name) none (.int r.constants.length) (.int r.methods.length)
    (.int r.steps.length) (.int r.skippedDuplicates) r.storyKey

def finish (s : Settings) (c : Context) (outputDir : Value) (d : Documents) (mode : Mode) (storyKey : Value)
    (warnings : List Text) : Work Result := do
  let layout ← Work.ofExcept (s.placed outputDir d.page.className)
  let files ← write layout d.contents
  let result : Result :=
    { className := d.page.className, files, warnings
      constants := d.page.constants.map (·.name), methods := d.page.methods.map (·.name)
      steps := d.steps.handlers.map (·.pattern), skippedDuplicates := c.skippedCount, storyKey, mode }
  Work.log [result.completed]
  return result

def need (v : Value) (name : Text) : Except Failure Text := do
  if !v.isGiven then throw (.missingInput name)
  let t ← v.textFor "strip"
  if t.isBlank then throw (.missingInput name)
  return t

def logNotes (c : Context) (before : Nat) : Work Unit := Work.log ((c.notes.drop before).map Record.ofNote)

def buildPage (s : Settings) (actions : List Action) (className : Text) (storyKey pageUrl : Value) :
    Work (Page.Module × Context) := do
  let (page, c) ← Work.ofExcept (Page.Module.build {} actions s.baseUrl className storyKey pageUrl)
  logNotes c 0
  return (page, c)

end TestWeaver.Generation
