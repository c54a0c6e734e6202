import TestWeaver.Number.Shortest
import TestWeaver.Text.Utf8
import TestWeaver.Value.Calendar

/-!
Values of data files: what a JSON or YAML document holds. Mappings keep the order of their keys; a key given
again keeps its first place and takes the last value. In a document one thing may stand in several places, even inside
itself: such a thing has a label, and inside itself only the label stands for it.
-/
namespace TestWeaver

inductive Value where
  | null
  | bool (b : Bool)
  | int (n : Int)
  | real (x : Binary64)
  | text (t : Text)
  | bytes (b : Bytes)
  | date (d : Date)
  | moment (m : Moment)
  | list (items : List Value)
  | pair (first second : Value)
  | mapping (entries : List (Value × Value))
  | members (items : List Value)
  /-- A thing that may stand in several places. -/
  | shared (label : Nat) (v : Value)
  /-- Inside a shared thing, that thing as a whole. -/
  | again (label : Nat)
  deriving Repr, Inhabited

namespace Value

def kindName : Value → Text
  | null => "NoneType"
  | bool _ => "bool"
  | int _ => "int"
  | real _ => "float"
  | text _ => "str"
  | bytes _ => "bytes"
  | date _ => "datetime.date"
  | moment _ => "datetime.datetime"
  | list _ => "list"
  | pair .. => "tuple"
  | mapping _ => "dict"
  | members _ => "set"
  | shared _ v => kindName v
  | again _ => "list"

def isGiven : Value → Bool
  | null => false
  | bool b => b
  | int n => n != 0
  | real x => !x.isZero
  | text t => !t.isEmpty
  | bytes b => !b.isEmpty
  | date _ => true
  | moment _ => true
  | list items => !items.isEmpty
  | pair .. => true
  | mapping entries => !entries.isEmpty
  | members items => !items.isEmpty
  | shared _ v => isGiven v
  | again _ => true

def orElse (v other : Value) : Value := if v.isGiven then v else other

mutual

def untie (label : Nat) (whole : Value) : Value → Value
  | list items => list (untieEach label whole items)
  | pair a b => pair (untie label whole a) (untie label whole b)
  | mapping entries => mapping (untieEntries label whole entries)
  | shared n v => if n = label then shared n v else shared n (untie label whole v)
  | again n => if n = label then whole else again n
  | v => v

def untieEach (label : Nat) (whole : Value) : List Value → List Value
  | [] => []
  | v :: vs => untie label whole v :: untieEach label whole vs

def untieEntries (label : Nat) (whole : Value) : List (Value × Value) → List (Value × Value)
  | [] => []
  | (k, v) :: rest => (k, untie label whole v) :: untieEntries label whole rest

end

def bare : Value → Value
  | shared label v => untie label (shared label v) v
  | v => v

def isTold : Value → Bool
  | list _ | mapping _ | members _ | date _ | moment _ => true
  | _ => false

def integer? : Value → Option Int
  | bool b => some (if b then 1 else 0)
  | int n => some n
  | real x => x.toInt?
  | _ => none

def isSameKey (v w : Value) : Bool :=
  match v.integer?, w.integer? with
  | some m, some n => m == n
  | some _, none => false
  | none, some _ => false
  | none, none =>
    match v, w with
    -- a number that is none is only the same as itself, which its label tells
    | shared m (real _), shared n (real _) => m == n
    | shared _ (real _), _ => false
    | _, shared _ (real _) => false
    | v, w =>
      match v.bare, w.bare with
      | null, null => true
      | real x, real y => x == y
      | text s, text t => s == t
      | bytes a, bytes b => a == b
      | date d, date e => d == e
      | moment m, moment n => m.isSame n
      | _, _ => false

def isKey : Value → Bool
  | list _ | mapping _ | members _ | again _ => false
  | pair a b => isKey a && isKey b
  | shared _ v => isKey v
  | _ => true

def lookup? (entries : List (Value × Value)) (key : Value) : Option Value :=
  (entries.find? fun (k, _) => k.isSameKey key).map (·.2)

def insert (entries : List (Value × Value)) (key value : Value) : List (Value × Value) :=
  match entries with
  | [] => [(key, value)]
  | (k, v) :: rest => if k.isSameKey key then (k, value) :: rest else (k, v) :: insert rest key value

def member? (v : Value) (key : Text) : Option Value :=
  match v.bare with
  | mapping entries => lookup? entries (text key)
  | _ => none

def text? : Value → Option Text
  | text t => some t
  | _ => none

def object (fields : List (Text × Value)) : Value := mapping (fields.map fun (k, v) => (text k, v))

def ofOption (t : Option Text) : Value := (t.map text).getD null

def ofTexts (ts : List Text) : Value := list (ts.map text)

end Value

end TestWeaver
