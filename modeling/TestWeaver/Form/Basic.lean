import TestWeaver.Value.Access

/-!
Forms: things as mappings with fixed text keys. A reader of a form sees a missing field as null, and a value that is no
text by the way it is shown.
-/
namespace TestWeaver.Form

def field (v : Value) (key : Text) : Value := (v.member? key).getD .null

def has (v : Value) (key : Text) : Bool := (v.member? key).isSome

def asText : Value → Text
  | .text t => t
  | v => v.shown

def text? : Value → Option Text
  | .null => none
  | v => some (asText v)

def optText (v : Value) (key : Text) : Option Text := text? (field v key)

def textOf (v : Value) (key : Text) : Text := (optText v key).getD []

def textOr (v : Value) (key other : Text) : Text := ((v.member? key).map asText).getD other

def valueOr (v : Value) (key : Text) (other : Value) : Value := (v.member? key).getD other

def required (v : Value) (key : Text) : Except Failure Value :=
  match v.bare with
  | .mapping entries =>
    match Value.lookup? entries (.text key) with
    | some w => .ok w
    | none => .error (.missingKey key)
  | v => .error (.wrongType (v.kindName.quoted ++ " object is not a mapping"))

def partsOf (v : Value) (key : Text) : Except Failure (List Value) :=
  match v.member? key with
  | some w => w.each
  | none => .ok []

def items : Value → List Value
  | .list vs => vs
  | _ => []

def itemsOf (v : Value) (key : Text) : List Value := items (field v key)

def textsOf (v : Value) (key : Text) : List Text := (itemsOf v key).map asText

def boolOr (v : Value) (key : Text) (other : Bool) : Bool := ((v.member? key).map Value.isGiven).getD other

def integerOf (v : Value) (key : Text) : Int := (field v key).integer?.getD 0

def entries : Value → List (Text × Value)
  | .mapping es => es.map fun (k, v) => (asText k, v)
  | _ => []

def checkFields (v : Value) (required other : List Text) : Except Failure Unit :=
  if required.all (has v) && (entries v).all (fun (k, _) => (required ++ other).contains k) then .ok ()
  else .error (.wrongType "unexpected or missing fields")

def named? (ofName? : Text → Option α) : Value → Option α
  | .text t => ofName? t
  | _ => none

def texts (ts : List Text) : Value := Value.ofTexts ts

def orNull (t : Option Text) : Value := Value.ofOption t

def nat (n : Nat) : Value := .int n

def list (form : α → Value) (xs : List α) : Value := .list (xs.map form)

end TestWeaver.Form
