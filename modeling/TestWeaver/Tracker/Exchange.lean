import TestWeaver.Value.Basic

/-!
What goes to the tracker and what comes back: a request has an address, parameters and a time limit; a response has
a status and a body, unless there is no response at all.
-/
namespace TestWeaver.Tracker

structure Exchange where
  url : Text
  parameters : Value
  timeout : Value
  deriving Repr

inductive Breakdown where
  | connection
  | timeout
  | status
  | refused
  | unexpected
  deriving DecidableEq, Repr

inductive Body where
  | value (v : Value)
  | text (t : Text)
  deriving Repr

inductive Response where
  | answered (status : Int) (reason : Option Text) (body : Body)
  | broken (b : Breakdown) (message : Text)
  deriving Repr

structure Endpoints where
  listed : List (Text × Response) := []
  otherwise : Response := .answered 404 (some "Not Found") (.text [])
  deriving Repr

def Endpoints.answer (e : Endpoints) (endpoint : Text) : Response := (e.listed.lookup endpoint).getD e.otherwise

end TestWeaver.Tracker
