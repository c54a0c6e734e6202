import TestWeaver.Action
import TestWeaver.Form.Basic

/-!
The form of an action. What is read is checked: a known kind comes before a positive number, and that before a selector.
-/
namespace TestWeaver

open Form

def Kind.ofForm (v : Value) : Except Failure Kind :=
  match named? Kind.ofName? v with
  | some k => .ok k
  | none => .error (.invalid (ActionError.unknownKind v.quoted).message)

namespace Action

def formFields (a : Action) : List (Text × Value) := [
  ("sequence_id", a.id.toValue), ("kind", .text a.kind.name), ("selector", orNull a.selector), ("value", a.value),
  ("readable_name", .text a.names.readable), ("constant_name", .text a.names.constant),
  ("method_name", .text a.names.method), ("step_phrase", .text a.names.phrase)]

def form (a : Action) : Value := .object a.formFields

def selectorOf (v : Value) : Except Failure (Option Text) :=
  match v with
  | .text t => .ok (some t)
  | v => if v.isGiven then .error (v.lacking "startswith") else .ok none

def ofForm (v : Value) : Except Failure Action := do
  let kind ← Kind.ofForm (← required v "kind")
  let names : Names :=
    { readable := textOf v "readable_name", constant := textOf v "constant_name"
      method := textOf v "method_name", phrase := textOf v "step_phrase" }
  let id ← required v "sequence_id"
  match Ordinal.ofValue? id with
  | none => throw (.wrongType ("'<' not supported between instances of " ++ id.kindName.quoted ++ " and 'int'"))
  | some id =>
    (Action.make? id kind (← selectorOf (field v "selector")) (field v "value") names).mapError fun e => .invalid e.message

end Action

end TestWeaver
