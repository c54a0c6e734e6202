import TestWeaver.Feature.Document
import TestWeaver.Text.Blank

/-!
Steps of a requirement: a keyword in any letter case and the text after it. A step without a keyword goes on from
the step before it.
-/
namespace TestWeaver.Feature

def stepWords : List String := ["given", "when", "then", "and", "but"]

def keyword? (t : Text) : Option (Text × Text) :=
  stepWords.findSome? fun word =>
    match Text.afterCaselessly? word.toList t with
    | some (c :: rest) => if c.isBlank then some (t.take word.length, Text.trim rest) else none
    | _ => none

def splitStep (step : Text) : Text × Text := (keyword? step.trim).getD ("And", step.trim)

def Step.ofText (step : Text) : Step :=
  let (keyword, text) := splitStep step
  ⟨keyword, text, none⟩

def Block.ofScenario (s : Scenario) : Block := { name := s.name, steps := s.steps.map Step.ofText }

def Document.ofRequirement (c : Context) (r : Requirement) (className : Text) (storyKey : Value) :
    Document × Context :=
  ({ name := className ++ " Test"
     tags := ticketTags storyKey className
     description := r.description.lines.filter fun line => !line.isBlank
     precondition := some ⟨"Given", preconditionText className, none⟩
     blocks := r.scenarios.map Block.ofScenario
     background := true }, (c.emit .specification .step (preconditionText className)).2)

end TestWeaver.Feature
