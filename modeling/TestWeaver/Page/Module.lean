import TestWeaver.Context
import TestWeaver.Page.Path

/-!
The page object of a recording or a requirement: a constant for each selector and a method for each gesture, after
the entry point that navigates to the page.
-/
namespace TestWeaver.Page

structure Constant where
  name : Text
  selector : Text
  deriving DecidableEq, Repr

structure Method where
  name : Text
  kind : Kind
  readable : Text
  constant : Option Text := none
  parameter : Option Text := none
  default : Value := .null
  deriving Repr

structure Module where
  className : Text
  storyKey : Value
  path : Text
  constants : List Constant := []
  methods : List Method := []
  deriving Repr

structure Primitive where
  parameter : Option Text
  call : Text
  starting : Text
  done : Text
  deriving DecidableEq, Repr

def primitive? : Kind → Option Primitive
  | .navigate => none
  | .click => some ⟨none, "click()", "Clicking on ", "Clicked on "⟩
  | .fill => some ⟨some "text", "fill(text)", "Entering text into ", "Entered text into "⟩
  | .select => some ⟨some "option", "select_option(option)", "Selecting option from ", "Selected option from "⟩
  | .check => some ⟨none, "check()", "Checking ", "Checked "⟩
  | .press => some ⟨some "key", "press(key)", "Pressing key on ", "Pressed key on "⟩

def defaultKey : Text := "Enter"

def methodOf (a : Action) (constant : Text) : Method where
  name := a.names.method
  kind := a.kind
  readable := a.names.readable
  constant := some constant
  parameter := (primitive? a.kind).bind (·.parameter)
  default := if a.kind = .press then a.value.orElse (.text defaultKey) else .null

def Module.addConstant (m : Module) (c : Context) (a : Action) : Module × Context :=
  let (newSelector, c) := c.emit .page .selector a.target
  if newSelector then
    let (newName, c) := c.emit .page .constant a.names.constant
    if newName then
      ({ m with constants := m.constants ++ [⟨a.names.constant, a.target⟩] },
        c.declareConstant a.target a.names.constant)
    else (m, c)
  else (m, c)

def Module.addMethod (m : Module) (c : Context) (a : Action) : Module × Context :=
  match c.constantFor? (some a.target) with
  | none => (m, c.noteMethodSkipped a.target a.names.method)
  | some constant =>
    let (newMethod, c) := c.emit .page .method a.names.method
    if newMethod then ({ m with methods := m.methods ++ [methodOf a constant] }, c.declare a) else (m, c)

def Module.addElement (m : Module) (c : Context) (a : Action) : Module × Context :=
  let (m, c) := m.addConstant c a
  m.addMethod c a

def Module.addActions (m : Module) (c : Context) (navigated : Bool) : List Action → Module × Context
  | [] => (m, c)
  | a :: rest =>
    if a.isNavigation then
      -- only the first navigation owns the entry point
      if navigated then m.addActions (c.emit .page .method Naming.navigationMethod).2 true rest
      else m.addActions (c.declare a) true rest
    else
      let (m, c) := m.addElement c a
      m.addActions c navigated rest

def firstAddress (actions : List Action) : Value :=
  (((actions.filter Action.isNavigation).map (·.value)).find? Value.isGiven).getD (.text [])

def Module.ofActions (c : Context) (actions : List Action) (className : Text) (storyKey : Value) (path : Text) :
    Module × Context :=
  let (_, c) := c.emit .page .method Naming.navigationMethod
  let entry : Method := { name := Naming.navigationMethod, kind := .navigate, readable := className }
  Module.addActions { className, storyKey, path, methods := [entry] } c false (Action.inOrder actions)

def Module.build (c : Context) (actions : List Action) (baseUrl : Value) (className : Text) (storyKey pageUrl : Value) :
    Except Failure (Module × Context) := do
  let address := match pageUrl with
    | .null => firstAddress (Action.inOrder actions)
    | address => address
  return Module.ofActions c actions className storyKey (← pathFor address baseUrl)

end TestWeaver.Page
