import TestWeaver.Yaml.Node
import TestWeaver.Yaml.Typed

/-!
What the nodes of a document become. A scalar is a value at once; a collection is filled later, after all collections
that were met before it, so of two faults the one on the outer level shows. Things know each other by the numbers of
their nodes, and no node becomes two things.
-/
namespace TestWeaver.Yaml

inductive Thing where
  | value (v : Value)
  | list (items : List Nat)
  | pairs (entries : List (Nat × Nat))
  | mapping (entries : List (Nat × Nat))
  | members (items : List Nat)
  deriving Repr

structure Building where
  nodes : Array Node
  things : Array (Option Thing)
  waiting : List Nat := []

abbrev Builder := StateT Building (Except Failure)

namespace Builder

def fail : Builder α := throw .malformedYaml

def nodeAt (n : Nat) : Builder Node := return (← get).nodes.getD n .empty

def thingAt? (n : Nat) : Builder (Option Thing) := return ((← get).things.getD n none)

def setNode (n : Nat) (node : Node) : Builder Unit := modify fun b => { b with nodes := b.nodes.set! n node }

def setThing (n : Nat) (thing : Thing) : Builder Unit := modify fun b => { b with things := b.things.set! n (some thing) }

def default? : List (Nat × Nat) → Builder (Option Nat)
  | [] => return none
  | (k, v) :: rest => do if (← nodeAt k).kind = .default then return some v else default? rest

def textOf : (fuel : Nat) → Nat → Builder Text
  | 0, _ => throw .endless
  | fuel + 1, n => do
    match (← nodeAt n).content with
    | .scalar t => return t
    | .sequence _ => fail
    | .mapping entries => match ← default? entries with
      | some v => textOf fuel v
      | none => fail

def indirectTimestamp : Failure := .wrongType "expected string or bytes-like object, got 'list'"

def valueOf (n : Nat) (node : Node) : Builder Value := do
  let t ← textOf ((← get).nodes.size + 1) n
  match node.kind, node.content with
  | .timestamp, .mapping _ => throw indirectTimestamp
  | _, _ =>
    match ← liftM (scalarValue node.kind t) with
    | .real .nan => return if isNan t then .real .nan else .shared n (.real .nan)
    | v => return v

def await (n : Nat) (thing : Thing) : Builder Unit := do
  setThing n thing
  modify fun b => { b with waiting := n :: b.waiting }

def make (n : Nat) : Builder Unit := do
  if (← thingAt? n).isSome then return
  let node ← nodeAt n
  match node.kind with
  | .sequence => await n (.list [])
  | .orderedMapping | .pairs => await n (.pairs [])
  | .mapping => await n (.mapping [])
  | .set => await n (.members [])
  | .merge | .default | .unknown => fail
  | _ => setThing n (.value (← valueOf n node))

def makePair (n : Nat) : Builder (Nat × Nat) := do
  match (← nodeAt n).content with
  | .mapping [(k, v)] =>
    make k
    make v
    return (k, v)
  | _ => fail

def keyOf (n : Nat) : Builder Value := do
  match ← thingAt? n with
  | some (.value v) => return v
  | _ => fail

def insert (key : Value) (k v : Nat) : List (Value × Nat × Nat) → List (Value × Nat × Nat)
  | [] => [(key, k, v)]
  | (other, j, w) :: rest =>
    -- a key that is there already keeps its first place and takes the last value
    if other.isSameKey key then (other, j, v) :: rest else (other, j, w) :: insert key k v rest

def makeEntries (found : List (Value × Nat × Nat)) : List (Nat × Nat) → Builder (List (Nat × Nat))
  | [] => return found.map (·.2)
  | (k, v) :: rest => do
    make k
    let key ← keyOf k
    make v
    makeEntries (insert key k v found) rest

def entriesOf (n : Nat) : Builder (List (Nat × Nat)) := do
  match (← nodeAt n).content with
  | .mapping entries => return entries
  | _ => fail

def setEntries (n : Nat) (entries : List (Nat × Nat)) : Builder Unit := do
  setNode n { ← nodeAt n with content := .mapping entries }

mutual

/-- Puts what merge keys stand for in front of the other entries, from an index on. A default key is a text. -/
def mergeFrom (n index : Nat) (merged : List (Nat × Nat)) : (fuel : Nat) → Builder Unit
  | 0 => throw .endless
  | fuel + 1 => do
    let entries ← entriesOf n
    match entries[index]? with
    | none => if !merged.isEmpty then setEntries n (merged ++ entries)
    | some (k, v) =>
      let key ← nodeAt k
      match key.kind with
      | .merge =>
        setEntries n (entries.eraseIdx index)
        mergeFrom n index (merged ++ (← mergedOf v fuel)) fuel
      | .default =>
        setNode k { key with kind := .text }
        mergeFrom n (index + 1) merged fuel
      | _ => mergeFrom n (index + 1) merged fuel

def mergedOf (n : Nat) : (fuel : Nat) → Builder (List (Nat × Nat))
  | 0 => throw .endless
  | fuel + 1 => do
    match (← nodeAt n).content with
    | .scalar _ => fail
    | .mapping _ =>
      mergeFrom n 0 [] fuel
      entriesOf n
    | .sequence items => mergedEach items fuel

def mergedEach (items : List Nat) : (fuel : Nat) → Builder (List (Nat × Nat))
  | 0 => throw .endless
  | fuel + 1 => do
    match items with
    | [] => return []
    | n :: ns =>
      let _ ← entriesOf n
      mergeFrom n 0 [] fuel
      let found ← entriesOf n
      return (← mergedEach ns fuel) ++ found

end

/-- More steps than merging takes in any document that can be read. -/
def mergeFuel : Nat := Nat.pow 10 12

def makeMerged (n : Nat) : Builder (List (Nat × Nat)) := do
  let _ ← entriesOf n
  mergeFrom n 0 [] mergeFuel
  makeEntries [] (← entriesOf n)

def itemsOf (n : Nat) : Builder (List Nat) := do
  match (← nodeAt n).content with
  | .sequence items => return items
  | _ => fail

def fill (n : Nat) : Builder Unit := do
  match ← thingAt? n with
  | some (.list _) =>
    let items ← itemsOf n
    items.forM make
    setThing n (.list items)
  | some (.pairs _) => setThing n (.pairs (← (← itemsOf n).mapM makePair))
  | some (.mapping _) => setThing n (.mapping (← makeMerged n))
  | some (.members _) => setThing n (.members ((← makeMerged n).map (·.1)))
  | _ => return

def fillAll : (fuel : Nat) → Builder Unit
  | 0 => return
  | fuel + 1 => do
    let round := (← get).waiting.reverse
    if round.isEmpty then return
    modify fun b => { b with waiting := [] }
    round.forM fill
    fillAll fuel

end Builder

def Document.things (d : Document) : Except Failure (Array (Option Thing)) := do
  let start : Building := { nodes := d.nodes, things := .replicate d.nodes.size none }
  let build : Builder Unit := do
    Builder.make d.root
    Builder.fillAll (d.nodes.size + 1)
  let (_, b) ← build.run start
  return b.things

end TestWeaver.Yaml
