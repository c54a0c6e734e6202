import TestWeaver.Failure
import TestWeaver.Value.Shown

/-!
Values asked for what they hold. Data from files and answers may be of any sort, so each question may fail.
-/
namespace TestWeaver.Value

def lacking (v : Value) (member : Text) : Failure := .lacks v.kindName member

def checkKey (key : Value) : Except Failure Unit :=
  if key.isKey then .ok () else .error (.wrongType ("unhashable type: " ++ key.kindName.quoted))

def get (v key : Value) (other : Value) : Except Failure Value :=
  match v.bare with
  | mapping entries => do
    checkKey key
    return (lookup? entries key).getD other
  | v => .error (v.lacking "get")

def field (v : Value) (key : Text) : Except Failure Value := v.get (.text key) .null

def each (v : Value) : Except Failure (List Value) :=
  match v.bare with
  | list items | members items => .ok items
  | pair a b => .ok [a, b]
  | mapping entries => .ok (entries.map (·.1))
  | text t => .ok (t.map fun c => text [c])
  | bytes b => .ok (b.map fun n => int n.toNat)
  | v => .error (.wrongType (v.kindName.quoted ++ " object is not iterable"))

def textFor (v : Value) (member : Text) : Except Failure Text :=
  match v with
  | text t => .ok t
  | v => .error (v.lacking member)

def matched (v : Value) : Except Failure Text :=
  match v with
  | text t => .ok t
  | v => .error (.wrongType ("expected string or bytes-like object, got " ++ v.kindName.quoted))

def path (v : Value) : Except Failure Text :=
  match v with
  | text t => .ok t
  | v => .error (.wrongType ("expected str, bytes or os.PathLike object, not " ++ v.kindName))

end TestWeaver.Value
