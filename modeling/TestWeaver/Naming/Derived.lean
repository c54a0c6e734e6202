import TestWeaver.Naming.Readable
import TestWeaver.Action

/-!
The names that an action is generated under, derived from its selector, its kind and its number: a constant for
the selector, a method for the gesture, a phrase for the step.
-/
namespace TestWeaver

namespace Naming

def constant (readable id : Text) : Text := upperSnake readable ++ "_" ++ id

def navigationMethod : Text := "navigateTo"

def without (words : List Text) (ifNone name : Text) : Text :=
  let rest := words.foldl (fun t w => t.replace w []) name
  if rest.isEmpty then ifNone else rest

def fillMethod (name : Text) : Text :=
  let lower := name.lower
  if lower.contains "search" then "search" ++ without ["Search"] "Field" name
  else if lower.contains "email" then "enterEmail"
  else if lower.contains "password" then "enterPassword"
  else if lower.contains "username" then "enterUsername"
  else "enter" ++ name

def checkMethod (name : Text) : Text :=
  let lower := name.lower
  if lower.contains "toggle" || lower.contains "switch" then
    "toggle" ++ without ["Toggle", "Switch"] "Option" name
  else "check" ++ name

def method (kind : Kind) (readable id : Text) : Text :=
  -- the bare name says nothing, so it gives way to the number of the action
  let name := if readable = "Value" then "Field" ++ id else readable
  match kind with
  | .navigate => navigationMethod
  | .click => "click" ++ name
  | .fill => fillMethod name
  | .select => "select" ++ name
  | .check => checkMethod name
  | .press => "pressKeyOn" ++ name

def phrase (kind : Kind) (readable : Text) : Text :=
  match kind with
  | .click => "user clicks on " ++ spoken readable
  | .fill => "user enters text into " ++ spoken readable
  | .select => "user selects option from " ++ spoken readable
  | .check => "user checks " ++ spoken readable
  | .press => "user presses key on " ++ spoken readable
  | .navigate => "user navigates to page"

def readableOf (a : Action) : Text :=
  if a.isNavigation then "Page" else readable a.target

def names (a : Action) : Names :=
  let readable := readableOf a
  { readable, constant := constant readable a.id.text, method := method a.kind readable a.id.text,
    phrase := phrase a.kind readable }

end Naming

def Action.resolve (a : Action) : Action := { a with names := Naming.names a }

end TestWeaver
