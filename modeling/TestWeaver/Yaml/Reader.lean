import TestWeaver.Yaml.Thing

/-!
YAML documents as values. A thing with several places in a document is one value, which a label tells from others that
look like it; where it stands inside itself there is only its label.
-/
namespace TestWeaver.Yaml

def Thing.parts : Thing → List Nat
  | .value _ => []
  | .list items | .members items => items
  | .pairs entries | .mapping entries => entries.flatMap fun (k, v) => [k, v]

def places (things : Array (Option Thing)) (root : Nat) : Array Nat :=
  let parts := root :: things.toList.flatMap fun thing => (thing.map Thing.parts).getD []
  parts.foldl (fun found n => found.modify n (· + 1)) (.replicate things.size 0)

structure Partial where
  value : Value
  inside : List Nat

abbrev Values := Array (Option Value)

def entriesOf : List Value → List (Value × Value)
  | k :: v :: rest => (k, v) :: entriesOf rest
  | _ => []

def Thing.collect (t : Thing) (parts : List Value) : Value :=
  match t with
  | .value v => v
  | .list _ => .list parts
  | .members _ => .members parts
  | .pairs _ => .list ((entriesOf parts).map fun (a, b) => .pair a b)
  | .mapping _ => .mapping (entriesOf parts)

def valueAt (things : Array (Option Thing)) (places : Array Nat) (around : List Nat) : (fuel : Nat) → Nat → StateM Values Partial
  | 0, _ => return ⟨.null, []⟩
  | fuel + 1, n => do
    if around.contains n then return ⟨.again n, [n]⟩
    if let some v := (← get).getD n none then return ⟨v, []⟩
    let thing := (things.getD n none).getD (.value .null)
    let parts ← thing.parts.mapM (valueAt things places (n :: around) fuel)
    let v := thing.collect (parts.map (·.value))
    let v := if v.isTold && 1 < places.getD n 0 then .shared n v else v
    let inside := (parts.flatMap (·.inside)).eraseDups.filter (· != n)
    if inside.isEmpty then modify fun found => found.set! n (some v)
    return ⟨v, inside⟩

def Document.value (d : Document) : Except Failure Value := do
  let things ← d.things
  let (found, _) := (valueAt things (places things d.root) [] (things.size + 1) d.root).run (.replicate things.size none)
  return found.value

def valueOfSource (s : Source) : Except Failure Value := do
  match ← document? (tokens s) with
  | none => return .null
  | some d => d.value

def ofBytes (bytes : Bytes) : Except Failure Value := valueOfSource (.ofBytes bytes)

def ofText (t : Text) : Except Failure Value := valueOfSource (.ofText t)

end TestWeaver.Yaml
