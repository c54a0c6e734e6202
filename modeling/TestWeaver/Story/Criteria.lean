import TestWeaver.Text.Blank
import TestWeaver.Text.Case
import TestWeaver.Text.Numeral

/-!
Acceptance criteria in free text. A criterion starts at a line with a marker, a bullet, a number, a label, a box or
a step keyword, and takes the unmarked lines after it; what is too short to say anything is left out.
-/
namespace TestWeaver.Criteria

def dropCross : Text → Text
  | .char 'x' :: t => t
  | .char 'X' :: t => t
  | t => t

def afterBox? (t : Text) : Option Text :=
  (t.afterLead? "[").bind fun inner =>
    (Text.afterLead? (Text.dropBlank (dropCross (Text.dropBlank inner))) "]").map Text.dropBlank

def isLabelEnd (c : CodePoint) : Bool := c == .char ':' || c == .char '.' || c.isBlank

def afterLabel? (t : Text) : Option Text := do
  let rest ← Text.afterCaselessly? "ac".toList t
  let rest := rest.dropBlank
  let tail := rest.dropWhile CodePoint.isDecimal
  if tail.length < rest.length && tail.head?.any isLabelEnd then some (tail.dropWhile isLabelEnd) else none

def afterNumber? (t : Text) : Option Text :=
  let rest := t.dropWhile CodePoint.isDecimal
  if rest.length < t.length then
    match rest with
    | .char '.' :: [] => some []
    | .char '.' :: c :: rest => if c.isBlank then some rest else none
    | _ => none
  else none

def afterBullet? : Text → Option Text
  | .char '•' :: rest => some rest
  | .char '-' :: c :: rest => if c.isBlank then some rest else none
  | .char '*' :: c :: rest => if c.isBlank then some rest else none
  | _ => none

def afterMarker? (line : Text) : Option Text :=
  afterBullet? line <|> afterNumber? line <|> afterLabel? line <|> afterBox? line

def openingWords : List String := ["given", "when", "then", "and"]

def startsStep (line : Text) : Bool :=
  openingWords.any fun word => ((Text.afterCaselessly? word.toList line).bind List.head?).any CodePoint.isBlank

/-- The first part of the criterion that a line opens; it is empty when the marker stands alone. -/
def opened? (line : Text) : Option Text :=
  match afterMarker? line with
  | some rest => some rest.trim
  | none => if startsStep line then some line else none

def minimalLength : Nat := 10

def plainLength : Nat := 15

def joined (parts : List Text) : Text := Text.join " " parts

def closed (parts : List Text) : List Text :=
  if minimalLength ≤ (joined parts).length then [joined parts] else []

def group (parts : List Text) : List Text → List Text
  | [] => closed parts
  | line :: rest =>
    match opened? line with
    | some opening => closed parts ++ group (if opening.isEmpty then [] else [opening]) rest
    | none => group (if !parts.isEmpty || plainLength < line.length then parts ++ [line] else parts) rest

def ofText (t : Text) : List Text :=
  group [] (((Text.splitOn t.trim (.char '\n')).map Text.trim).filter fun line => !line.isEmpty)

def afterWords? : List String → Text → Option Text
  | [], t => some t
  | [w], t => Text.afterCaselessly? w.toList t
  | w :: ws, t => (Text.afterCaselessly? w.toList t).bind fun rest => afterWords? ws (Text.dropBlank rest)

def bodyAfter? (t : Text) : Option Text :=
  let run := t.takeWhile fun c => c == .char ':' || c.isBlank
  let kept := Text.dropTail (· != .char '\n') run
  if kept.isEmpty then none else some (t.drop kept.length)

def headings : List (List (List String)) := [
  [["acceptance", "criteria"], ["ac"]],
  [["definition", "of", "done"], ["dod"]],
  [["requirements"], ["criteria"]]]

def paragraphUnder? (heading : List (List String)) (t : Text) : Option Text :=
  (Text.search (fun _ t => heading.findSome? fun words => (afterWords? words t).bind bodyAfter?) none t).map fun body =>
    ((body.cut? "\n\n").map (·.1)).getD body

def sectionOf (description : Text) : Text :=
  ((headings.findSome? fun heading => paragraphUnder? heading description).map Text.trim).getD []

end TestWeaver.Criteria
