import TestWeaver.Json.Printer
import TestWeaver.Recording.Transcript
import TestWeaver.Requirement.Synthesis

/-!
Log records: a level, an event, and named values in order. What the parser and the generation context note down has
a record each.
-/
namespace TestWeaver

inductive Level where
  | debug
  | info
  | warning
  | error
  deriving DecidableEq, Repr

namespace Level

def name : Level → Text
  | debug => "DEBUG"
  | info => "INFO"
  | warning => "WARNING"
  | error => "ERROR"

def number : Level → Nat
  | debug => 10
  | info => 20
  | warning => 30
  | error => 40

end Level

structure Record where
  level : Level
  event : Text
  fields : List (Text × Value)
  deriving Repr

namespace Record

def lineRecords (line : Nat × Recording.Line) : List Record :=
  match line with
  | (_, .skipped) => []
  | (n, .call shape _) => [⟨.debug, "line_parsed", [("line_number", .int n), ("pattern", .text shape.name)]⟩]
  | (n, .lost text) => [⟨.warning, "line_unrecognized", [("line_number", .int n), ("text", .text text)]⟩]

def durationField (duration : Option Value) : List (Text × Value) :=
  (duration.map fun v => (("duration_ms" : Text), v)).toList

def parsing (parser : Value) (duration : Option Value) (actions lost isFallback : Value) : Record :=
  { level := if isFallback.isGiven then .warning else .info
    event := "parsing_completed"
    fields := [(("parser" : Text), parser)] ++ durationField duration
      ++ [(("actions" : Text), actions), ("unrecognized", lost), ("fallback_used", isFallback)] }

def ofTranscript (t : Recording.Transcript) : List Record :=
  t.lines.flatMap lineRecords
    ++ [parsing (.text "recording") none (.int t.actions.length) (.int t.lost.length) (.bool t.isFallback)]

def duplicate (scope part value : Value) : Record :=
  ⟨.info, "duplicate_skipped", [("scope", scope), ("unit", part), ("value", value)]⟩

def artifactWritten (artifact path size : Value) : Record :=
  ⟨.info, "artifact_written", [("artifact", artifact), ("path", path), ("size_bytes", size)]⟩

def generation (className mode : Value) (duration : Option Value) (constants methods steps skipped storyKey : Value) :
    Record :=
  { level := .info
    event := "generation_completed"
    fields := [(("class_name" : Text), className), ("mode", mode)] ++ durationField duration
      ++ [(("constants" : Text), constants), ("methods", methods), ("steps", steps), ("skipped_duplicates", skipped),
        ("story_key", storyKey)] }

def ofNote : Note → Record
  | .duplicate artifact part value => duplicate (.text artifact.name) (.text part.name) (.text value)
  | .methodSkipped selector method =>
    ⟨.warning, "method_skipped",
      [("reason", .text "no constant declared for selector"), ("selector", .text selector), ("method", .text method)]⟩

def ofStory (s : Story) (r : Requirement) : Record :=
  ⟨.info, "story_synthesized",
    [("story_key", s.key), ("elements", .int r.elements.length), ("scenarios", .int r.scenarios.length),
      ("criteria", .int (Requirement.givenCriteria s).length)]⟩

end Record

end TestWeaver
