import TestWeaver.Requirement.Detect
import TestWeaver.Feature.Step

/-!
Scenarios of a requirement. A criterion that is written in steps keeps them; from any other, steps are made that use
every element and expect what the criterion says should be. Edge cases follow in any case.
-/
namespace TestWeaver.Requirement

def startStep : Text := "Given user is on the application page"

def scenarioName (criterion : Text) : Text :=
  let line := criterion.squeeze
  if 50 < line.length then "Verify " ++ line.take 50 ++ "..." else "Verify " ++ line

def isStepLine (line : Text) : Bool :=
  Feature.stepWords.any fun word =>
    match Text.afterCaselessly? word.toList line with
    | some rest => !rest.head?.any CodePoint.isWord
    | none => false

def interactionPhrase (e : Element) : Text :=
  match e.interaction with
  | .type => "user enters valid data in " ++ e.name
  | .click => "user clicks on " ++ e.name
  | .select => "user selects value from " ++ e.name
  | .check => "user checks " ++ e.name
  | .press => "user presses key on " ++ e.name

def actSteps : List Text → List Text
  | [] => []
  | phrase :: rest => ("When " ++ phrase) :: rest.map fun p => "And " ++ p

def afterShould? (criterion : Text) : Option Text :=
  Text.search (fun before t =>
    if before.any CodePoint.isWord then none
    else (Text.afterCaselessly? "should".toList t).filter fun rest => !rest.head?.any CodePoint.isWord) none criterion

def closingMarks : List CodePoint := [.char '.', .char '!', .char ';']

def expectedResult (criterion : Text) : Text :=
  let clause := Text.dropTail closingMarks.contains (((afterShould? criterion).map Text.squeeze).getD [])
  if clause.isEmpty then "complete successfully" else clause

def stepLines (criterion : Text) : List Text := (criterion.lines.map Text.trim).filter isStepLine

def actionSteps (criterion : Text) (elements : List Element) : List Text :=
  if elements.isEmpty then ["When user performs actions for \"" ++ criterion.trim ++ "\""]
  else actSteps (elements.map interactionPhrase)

def detailedSteps (criterion : Text) (elements : List Element) : List Text :=
  let steps := stepLines criterion
  if !steps.isEmpty then steps
  else startStep :: "And the page is fully loaded" :: actionSteps criterion elements
    ++ [("Then the system should " ++ expectedResult criterion : Text)]

def emptyFields : Scenario where
  name := "Verify validation with empty fields"
  steps := [startStep, "When user leaves required fields empty", "And user attempts to proceed",
    "Then appropriate validation messages should be displayed", "And the action should not proceed"]

def invalidData : Scenario where
  name := "Verify validation with invalid data"
  steps := [startStep, "When user enters invalid data in fields", "And user attempts to proceed",
    "Then validation errors should be displayed", "And invalid fields should be highlighted"]

def responsiveness : Scenario where
  name := "Verify UI responsiveness"
  steps := [startStep, "When the page loads", "Then all elements should be visible",
    "And the layout should be proper", "And no visual glitches should occur"]

def errorHandling : Scenario where
  name := "Verify error handling"
  steps := [startStep, "When an error condition occurs", "Then appropriate error message should be displayed",
    "And user should be able to recover", "And application should remain stable"]

def edgeCases (issueType : Option Text) : List Scenario :=
  [emptyFields, invalidData] ++ (if isFeature issueType then [responsiveness] else []) ++ [errorHandling]

def happyPath (summary : Text) : Scenario where
  name := "Verify " ++ summary ++ " - Happy Path"
  steps := [startStep, "And all prerequisites are met", "When user performs the main action",
    "Then the action should complete successfully", "And expected result should be displayed"]

def allElements (elements : List Element) : Scenario where
  name := "Verify all UI elements are functional"
  steps := startStep :: (actSteps (elements.map fun e => "user interacts with " ++ e.name)
    ++ [.ofString "Then all elements should respond correctly", .ofString "And no errors should occur"])

def defaults (summary : Text) (elements : List Element) : List Scenario :=
  happyPath summary :: if elements.isEmpty then [] else [allElements elements]

end TestWeaver.Requirement
