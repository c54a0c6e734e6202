import TestWeaver.Context
import TestWeaver.Requirement.Basic
import TestWeaver.Value.Shown

/-!
The feature document: one scenario with a line for each declared action of a recording, or a block for each
scenario of a requirement with its steps as they are.
-/
namespace TestWeaver.Feature

structure Step where
  keyword : Text
  text : Text
  action : Option Ordinal := none
  deriving DecidableEq, Repr

def Step.line (s : Step) : Text := s.keyword ++ " " ++ s.text

structure Examples where
  columns : List Text := []
  values : List Value := []
  deriving Repr

structure Block where
  name : Text
  steps : List Step := []
  examples : Examples := {}
  deriving Repr

def Block.isOutline (b : Block) : Bool := !b.examples.columns.isEmpty

structure Document where
  name : Text
  tags : List Text := []
  description : List Text := []
  precondition : Option Step := none
  blocks : List Block := []
  closing : Option Step := none
  background : Bool := false
  deriving Repr

def Document.behavior (d : Document) : List Step := d.blocks.flatMap fun b => b.steps.filter (·.action.isSome)

def closingText : Text := "page should be updated"

def preconditionText (className : Text) : Text := "user navigates to " ++ className ++ " page"

def ticketTags (storyKey : Value) (className : Text) : List Text := ["@" ++ storyKey.shown, "@" ++ className]

def behaviorText (a : Action) (column : Option Text) : Text :=
  let column := match column with
    | none | some [] => Naming.snake a.names.readable
    | some column => column
  match a.kind with
  | .fill => "user enters \"<" ++ column ++ ">\" into " ++ Naming.spoken a.names.readable
  | .select => "user selects \"<" ++ column ++ ">\" from " ++ Naming.spoken a.names.readable
  | _ => a.names.phrase

def columnOf (taken : List Text) (a : Action) : Option Text :=
  if a.kind.isParameterized then
    let column := Naming.snake a.names.readable
    some (if taken.contains column then column ++ "_" ++ a.id.text else column)
  else none

def Examples.add (e : Examples) (column : Option Text) (value : Value) : Examples :=
  match column with
  | none | some [] => e
  | some column => { columns := e.columns ++ [column], values := e.values ++ [value.orElse (.text [])] }

def Block.addAction (b : Block) (c : Context) (a : Action) : Block × Context :=
  let column := columnOf b.examples.columns a
  let text := behaviorText a column
  let (fresh, c) := c.emit .specification .step text
  if fresh then
    let keyword : Text := if b.steps.isEmpty then "When" else "And"
    ({ b with steps := b.steps ++ [⟨keyword, text, some a.id⟩], examples := b.examples.add column a.value }, c)
  else (b, c)

def Block.addActions (b : Block) (c : Context) : List Action → Block × Context
  | [] => (b, c)
  | a :: rest =>
    if a.isNavigation || !c.isDeclared a then b.addActions c rest
    else
      let (b, c) := b.addAction c a
      b.addActions c rest

def Document.ofActions (c : Context) (actions : List Action) (className : Text) (storyKey : Value) :
    Document × Context :=
  let (block, c) := Block.addActions { name := "Complete " ++ className ++ " workflow" } c (Action.inOrder actions)
  ({ name := className ++ " Test"
     tags := ticketTags storyKey className
     precondition := some ⟨"Given", preconditionText className, none⟩
     blocks := [block]
     closing := some ⟨"Then", closingText, none⟩ }, c)

end TestWeaver.Feature
