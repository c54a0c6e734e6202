import TestWeaver.Value.Basic

/-!
What a ticket asks to be tested: the elements of a page, scenarios with their steps, and what to verify.
-/
namespace TestWeaver

inductive Interaction where
  | type
  | click
  | select
  | check
  | press
  deriving DecidableEq, Repr

namespace Interaction

def name : Interaction → Text
  | type => "type"
  | click => "click"
  | select => "select"
  | check => "check"
  | press => "press"

def all : List Interaction := [type, click, select, check, press]

def ofName? (t : Text) : Option Interaction := all.find? fun i => i.name == t

end Interaction

structure Element where
  name : Text
  interaction : Interaction
  description : Text := []
  deriving DecidableEq, Repr

structure Scenario where
  name : Text
  steps : List Text
  deriving DecidableEq, Repr

structure Verification where
  functional : Bool := true
  ui : Bool := false
  performance : Bool := false
  logging : Bool := false
  thresholdMs : Nat := 3000
  deriving DecidableEq, Repr

structure Requirement where
  name : Text
  description : Text := []
  ticket : Value := .null
  elements : List Element := []
  scenarios : List Scenario := []
  verification : Verification := {}
  deriving Repr

end TestWeaver
