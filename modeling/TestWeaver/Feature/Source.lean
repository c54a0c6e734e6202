import TestWeaver.Feature.Document
import TestWeaver.Text.Blank
import TestWeaver.Value.Access

/-!
The text of a feature document. Values stand in table cells, where a backslash, a bar and a line end are escaped.
-/
namespace TestWeaver.Feature

def escapeCell : CodePoint → Text
  | .char '\\' => "\\\\"
  | .char '|' => "\\|"
  | .char '\n' => "\\n"
  | c => [c]

def cell (value : Text) : Text := (Text.withLineFeeds value).flatMap escapeCell

def cellOf (v : Value) : Except Failure Text := if v.isGiven then (v.textFor "replace").map cell else .ok []

def row (cells : List Text) : Text := "      | " ++ Text.join " | " cells ++ " |"

def Examples.lines (e : Examples) : List Text :=
  if e.columns.isEmpty then [] else ["", "    Examples:", row e.columns, row (e.values.map fun v => cell v.shown)]

def Examples.check (e : Examples) : Except Failure Unit :=
  if e.columns.isEmpty then .ok () else e.values.forM fun v => (cellOf v).map fun _ => ()

def Document.check (d : Document) : Except Failure Unit := d.blocks.forM fun b => b.examples.check

def indent (t : Text) : Text := "    " ++ t

def Block.header (b : Block) : Text :=
  "  " ++ (if b.isOutline then ("Scenario Outline" : Text) else "Scenario") ++ ": " ++ b.name

def Block.lines (b : Block) (precondition closing : Option Step) : List Text :=
  b.header :: (precondition.toList ++ b.steps ++ closing.toList).map (fun s => indent s.line)
    ++ b.examples.lines ++ [[]]

def describe (line : Text) : Text := "  " ++ line.trim

def Document.head (d : Document) : List Text :=
  Text.join " " d.tags :: ("Feature: " ++ d.name) :: d.description.map describe ++ [[]]

def Document.backgroundLines (d : Document) : List Text :=
  match d.background, d.precondition with
  | true, some s => ["  Background:", indent s.line, ""]
  | _, _ => []

def Document.text (d : Document) : Text :=
  let precondition := if d.background then none else d.precondition
  Text.unlines (d.head ++ d.backgroundLines ++ d.blocks.flatMap fun b => b.lines precondition d.closing)

end TestWeaver.Feature
