import TestWeaver.Generation.Result

/-!
Whether the three files of a test are there.
-/
namespace TestWeaver.Generation

structure Structure where
  paths : List (Artifact × Text)
  missing : List Text
  deriving DecidableEq, Repr

def Structure.isThere (s : Structure) (artifact : Artifact) : Bool :=
  s.paths.any fun (a, path) => a = artifact && !s.missing.contains path

def Structure.isValid (s : Structure) : Bool := Artifact.all.all s.isThere

def structureOf (files : Files.Store) (layout : Layout) : Structure :=
  let paths := pathsOf layout
  { paths, missing := (paths.map (·.2)).filter fun path => !files.isFile path }

def classNameOf (name : Value) : Except Failure Text := ((name.orElse (.text [])).matched).map Naming.className

def validate (s : Settings) (testName outputDir : Value) : Work Structure := do
  let layout ← Work.ofExcept (do s.placed outputDir (← classNameOf testName))
  return structureOf (← Work.files) layout

end TestWeaver.Generation
