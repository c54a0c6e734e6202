import TestWeaver.Naming.Derived

/-!
The state of one generation run, shared by its three artifacts. A part of an artifact, such as a method of the page,
is accepted once; every later attempt is refused and noted. The page also declares which constant stands for a
selector and which actions own a method, for the other two to refer to.
-/
namespace TestWeaver

inductive Artifact where
  | page
  | specification
  | glue
  deriving DecidableEq, Repr

namespace Artifact

def name : Artifact → Text
  | page => "page"
  | specification => "specification"
  | glue => "glue"

def all : List Artifact := [page, specification, glue]

def ofName? (t : Text) : Option Artifact := all.find? fun a => a.name == t

end Artifact

inductive Part where
  | selector
  | constant
  | method
  | step
  deriving DecidableEq, Repr

namespace Part

def name : Part → Text
  | selector => "selector"
  | constant => "constant"
  | method => "method"
  | step => "step"

def all : List Part := [selector, constant, method, step]

def ofName? (t : Text) : Option Part := all.find? fun p => p.name == t

end Part

inductive Note where
  | duplicate (artifact : Artifact) (part : Part) (value : Text)
  | methodSkipped (selector method : Text)
  deriving DecidableEq, Repr

structure Context where
  accepted : List (Artifact × Part × Text) := []
  notes : List Note := []
  constants : List (Text × Text) := []
  /-- The actions that own a declared method; no two have one number. -/
  declared : List Action := []
  owners : List (Text × Ordinal) := []
  deriving Repr

namespace Context

def has (c : Context) (artifact : Artifact) (part : Part) (value : Text) : Bool :=
  c.accepted.contains (artifact, part, value)

def emit (c : Context) (artifact : Artifact) (part : Part) (value : Text) : Bool × Context :=
  if c.has artifact part value then
    (false, { c with notes := c.notes ++ [.duplicate artifact part value] })
  else (true, { c with accepted := c.accepted ++ [(artifact, part, value)] })

def seen (c : Context) (artifact : Artifact) (part : Part) : List Text :=
  c.accepted.filterMap fun (a, p, value) => if a = artifact ∧ p = part then some value else none

def skipped (c : Context) (artifact : Artifact) : List (Part × Text) := c.notes.filterMap fun
  | .duplicate a part value => if a = artifact then some (part, value) else none
  | .methodSkipped .. => none

def skippedCount (c : Context) : Nat := Artifact.all.foldl (fun n a => n + (c.skipped a).length) 0

def declareConstant (c : Context) (selector name : Text) : Context :=
  { c with constants := (selector, name) :: c.constants }

def constantFor? (c : Context) (selector : Option Text) : Option Text := selector.bind fun s => c.constants.lookup s

def declare (c : Context) (a : Action) : Context :=
  { c with
    declared := c.declared.filter (fun b => !b.id.isSame a.id) ++ [a]
    owners := (a.names.method, a.id) :: c.owners }

def isDeclared (c : Context) (a : Action) : Bool := c.declared.any (·.id.isSame a.id)

def declaredActions (c : Context) (withNavigation : Bool) : List Action :=
  (Action.inOrder c.declared).filter fun a => withNavigation || !a.isNavigation

def owner? (c : Context) (method : Text) : Option Ordinal := c.owners.lookup method

def declaredMethods (c : Context) : List Text := (c.declaredActions true).map (·.names.method)

def noteMethodSkipped (c : Context) (selector method : Text) : Context :=
  { c with notes := c.notes ++ [.methodSkipped selector method] }

end Context

end TestWeaver
