import TestWeaver.Path
import TestWeaver.Context

/-!
Where the page, the feature and the steps of one test live: one file each, in its own directory under the output
directory, named after the class.
-/
namespace TestWeaver

structure Directories where
  pages : Text := "pages"
  features : Text := "features"
  steps : Text := "steps"
  deriving DecidableEq, Repr

structure Layout where
  outputDir : Text
  className : Text
  directories : Directories := {}
  working : List Text := []
  deriving DecidableEq, Repr

namespace Layout

def pageClass (l : Layout) : Text := Naming.pageClass l.className

def stem (l : Layout) : Text := Naming.snake l.className

def pageModule (l : Layout) : Text := Naming.snake l.pageClass

def pageImport (l : Layout) : Text :=
  (Text.dropBoth (· == Path.slash) l.directories.pages).replace "/" "." ++ "." ++ l.pageModule

def featureName (l : Layout) : Text := l.stem ++ ".feature"

def pagePath (l : Layout) : Text :=
  Path.join (Path.join l.outputDir l.directories.pages) (l.pageModule ++ ".py")

def featurePath (l : Layout) : Text := Path.join (Path.join l.outputDir l.directories.features) l.featureName

def stepsPath (l : Layout) : Text :=
  Path.join (Path.join l.outputDir l.directories.steps) ("test_" ++ l.stem ++ "_steps.py")

def featureReference (l : Layout) : Text :=
  Path.relative l.working (Path.join l.directories.features l.featureName) l.directories.steps

def path (l : Layout) : Artifact → Text
  | .page => l.pagePath
  | .specification => l.featurePath
  | .glue => l.stepsPath

end Layout

end TestWeaver
