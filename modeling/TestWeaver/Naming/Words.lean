import TestWeaver.Text.Case
import TestWeaver.Text.Blank

/-!
Words of names. A name is taken apart where its capitals start new words, and put together again in one of
three ways: spoken, with underscores, or with a capital for each word.
-/
namespace TestWeaver.Naming

def risesAfter (a : CodePoint) (t : Text) : Bool := (a.isSmall || a.isDigit) && t.head?.any CodePoint.isCapital

def acronymEndsAfter (a : CodePoint) : Text → Bool
  | b :: c :: _ => a.isCapital && b.isCapital && c.isSmall
  | _ => false

def separate (separator : CodePoint) (test : CodePoint → Text → Bool) : Text → Text
  | [] => []
  | a :: t => if test a t then a :: separator :: separate separator test t else a :: separate separator test t

def spoken (name : Text) : Text :=
  (separate (.char ' ') (fun a t => risesAfter a t || acronymEndsAfter a t) name).lower.trim

def upperSnake (name : Text) : Text := (separate (.char '_') risesAfter name).upper

def alnumWords (t : Text) : List Text := Text.runs CodePoint.isAlnum t

def snake (name : Text) : Text := Text.join "_" (alnumWords (spoken name))

def capitalized : Text → Text
  | [] => []
  | c :: t => c.upper ++ Text.lower t

def pascal (t : Text) : Text := (t.words.map capitalized).flatten

def controlWords : List Text := ["button", "btn", "input", "field", "link", "checkbox", "radio"]

def cleanWords (raw : Text) : List Text :=
  let words := alnumWords raw
  match words.getLast? with
  | some last => if 2 ≤ words.length ∧ Text.lower last ∈ controlWords then words.dropLast else words
  | none => []

def clean (raw : Text) : Text := Text.join " " (cleanWords raw)

def hasInnerCapital : Text → Bool
  | a :: b :: t => a.isSmall && b.isCapital || hasInnerCapital (b :: t)
  | _ => false

def className (t : Text) : Text :=
  match alnumWords t with
  | [] => "DefaultClass"
  | words =>
    let name := match words with
      | [c :: rest] => if hasInnerCapital (c :: rest) then c.capital :: rest else capitalized (c :: rest)
      | _ => (words.map capitalized).flatten
    if name.head?.any CodePoint.isDigit then "Class" ++ name else name

def pageClass (className : Text) : Text := if className.endsWith "Page" then className else className ++ "Page"

end TestWeaver.Naming
