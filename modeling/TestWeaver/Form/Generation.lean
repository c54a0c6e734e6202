import TestWeaver.Form.Basic
import TestWeaver.Generation.Result
import TestWeaver.Generation.Structure

/-!
The forms of what a generation and a check of its files come to.
-/
namespace TestWeaver.Generation

open Form

def pathsForm (paths : List (Artifact × Text)) : Value := .object (paths.map fun (a, path) => (a.name, .text path))

def Result.form (g : Result) : Value := .object [
  ("class_name", .text g.className), ("files", pathsForm g.files), ("warnings", texts g.warnings),
  ("constants", texts g.constants), ("methods", texts g.methods), ("steps", texts g.steps),
  ("skipped_duplicates", nat g.skippedDuplicates), ("story_key", g.storyKey), ("mode", .text g.mode.name)]

def Structure.formFields (s : Structure) : List (Text × Value) := [
  ("page_exists", .bool (s.isThere .page)), ("feature_exists", .bool (s.isThere .specification)),
  ("steps_exist", .bool (s.isThere .glue)), ("paths", pathsForm s.paths), ("missing_files", texts s.missing)]

end TestWeaver.Generation
