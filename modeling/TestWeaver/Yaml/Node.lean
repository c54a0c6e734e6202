import TestWeaver.Yaml.Kind
import TestWeaver.Yaml.Token

/-!
The nodes of a YAML document. Nodes know each other by their numbers: an alias stands for the node of its anchor, which
may be a node around it. A node without content is an empty plain scalar.
-/
namespace TestWeaver.Yaml

inductive Content where
  | scalar (t : Text)
  | sequence (items : List Nat)
  | mapping (entries : List (Nat × Nat))
  deriving Repr

structure Node where
  kind : Kind
  content : Content
  deriving Repr

def Node.empty : Node := ⟨.ofPlain [], .scalar []⟩

instance : Inhabited Node := ⟨.empty⟩

structure Document where
  nodes : Array Node
  root : Nat
  deriving Repr

structure Reading where
  tokens : List Token
  ending : Failure
  handles : List (Text × Text) := []
  nodes : Array Node := #[]
  anchors : List (Text × Nat) := []

abbrev Reader := StateT Reading (Except Failure)

namespace Reader

def fail : Reader α := throw .malformedYaml

def head : Reader Token := do
  match (← get).tokens with
  | t :: _ => return t
  | [] => throw (← get).ending

def skip : Reader Unit := modify fun r => { r with tokens := r.tokens.drop 1 }

def expect (t : Token) : Reader Unit := do
  if (← head) == t then skip else fail

def isNext (ts : List Token) : Reader Bool := return ts.contains (← head)

def add (n : Node) : Reader Nat := do
  let number := (← get).nodes.size
  modify fun r => { r with nodes := r.nodes.push n }
  return number

def addEmpty : Reader Nat := add .empty

def register (anchor : Option Text) (n : Node) : Reader Nat := do
  match anchor with
  | none => add n
  | some name =>
    if ((← get).anchors.lookup name).isSome then fail
    let number ← add n
    modify fun r => { r with anchors := (name, number) :: r.anchors }
    return number

/-- A collection is known before what is in it, and completed after that. -/
def collection (anchor : Option Text) (kind : Kind) (start : Content) (content : Reader Content) : Reader Nat := do
  let number ← register anchor ⟨kind, start⟩
  let content ← content
  modify fun r => { r with nodes := r.nodes.set! number ⟨kind, content⟩ }
  return number

def sequence (anchor : Option Text) (kind : Kind) (items : Reader (List Nat)) : Reader Nat :=
  collection anchor kind (.sequence []) (return .sequence (← items))

def mapping (anchor : Option Text) (kind : Kind) (entries : Reader (List (Nat × Nat))) : Reader Nat :=
  collection anchor kind (.mapping []) (return .mapping (← entries))

def anchor? : Reader (Option Text) := do
  match ← head with
  | .anchor name =>
    skip
    return some name
  | _ => return none

def tag? : Reader (Option (Option Text × Text)) := do
  match ← head with
  | .tag handle suffix =>
    skip
    return some (handle, suffix)
  | _ => return none

def tagInFull : Option (Option Text × Text) → Reader (Option Text)
  | none => return none
  | some (none, suffix) => return some suffix
  | some (some handle, suffix) => do
    match (← get).handles.lookup handle with
    | some lead => return some (lead ++ suffix)
    | none => fail

def properties : Reader (Option Text × Option Text) := do
  match ← anchor? with
  | some name => return (some name, ← tagInFull (← tag?))
  | none =>
    let tag ← tag?
    let anchor ← if tag.isSome then anchor? else pure none
    return (anchor, ← tagInFull tag)

def bareTag : Text := "!"

def collectionKind (tag : Option Text) (kind : Kind) : Kind :=
  match tag with
  | none => kind
  | some t => if t = bareTag then kind else .ofTag t

def scalarKind (tag : Option Text) (t : Text) (isPlain : Bool) : Kind :=
  match tag with
  | none => if isPlain then .ofPlain t else .text
  | some tag => if tag = bareTag then .ofPlain t else .ofTag tag

mutual

/-- A node; `inBlock` says whether it may be a block collection, and `isLoose` whether the items of a sequence may
stand in the column of the key before it. -/
def node (inBlock isLoose : Bool) : (fuel : Nat) → Reader Nat
  | 0 => fail
  | fuel + 1 => do
    if let .alias name ← head then
      skip
      match (← get).anchors.lookup name with
      | some n => return n
      | none => fail
    else
      let (anchor, tag) ← properties
      let kind := collectionKind tag
      match ← head with
      | .item =>
        if isLoose then sequence anchor (kind .sequence) (looseItems fuel)
        else bare anchor tag
      | .scalar t isPlain =>
        skip
        register anchor ⟨scalarKind tag t isPlain, .scalar t⟩
      | .openSequence =>
        skip
        sequence anchor (kind .sequence) (flowItems true fuel)
      | .openMapping =>
        skip
        mapping anchor (kind .mapping) (flowEntries true fuel)
      | .blockSequence =>
        if inBlock then
          skip
          sequence anchor (kind .sequence) (blockItems fuel)
        else bare anchor tag
      | .blockMapping =>
        if inBlock then
          skip
          mapping anchor (kind .mapping) (blockEntries fuel)
        else bare anchor tag
      | _ => bare anchor tag

def bare (anchor tag : Option Text) : Reader Nat :=
  if anchor.isNone && tag.isNone then fail else register anchor ⟨scalarKind tag [] true, .scalar []⟩

def nodeBefore (stops : List Token) (inBlock isLoose : Bool) : (fuel : Nat) → Reader Nat
  | 0 => fail
  | fuel + 1 => do if ← isNext stops then addEmpty else node inBlock isLoose fuel

def blockItems : (fuel : Nat) → Reader (List Nat)
  | 0 => fail
  | fuel + 1 => do
    if (← head) == .item then
      skip
      let n ← nodeBefore [.item, .blockEnd] true false fuel
      return n :: (← blockItems fuel)
    else
      expect .blockEnd
      return []

def looseItems : (fuel : Nat) → Reader (List Nat)
  | 0 => fail
  | fuel + 1 => do
    if (← head) == .item then
      skip
      let n ← nodeBefore [.item, .key, .value, .blockEnd] true false fuel
      return n :: (← looseItems fuel)
    else return []

def blockEntries : (fuel : Nat) → Reader (List (Nat × Nat))
  | 0 => fail
  | fuel + 1 => do
    if (← head) == .key then
      skip
      let k ← nodeBefore [.key, .value, .blockEnd] true true fuel
      let v ← valueAfter [.key, .value, .blockEnd] true fuel
      return (k, v) :: (← blockEntries fuel)
    else
      expect .blockEnd
      return []

def valueAfter (stops : List Token) (inBlock : Bool) : (fuel : Nat) → Reader Nat
  | 0 => fail
  | fuel + 1 => do
    if (← head) == .value then
      skip
      nodeBefore stops inBlock inBlock fuel
    else addEmpty

def flowItems (isFirst : Bool) : (fuel : Nat) → Reader (List Nat)
  | 0 => fail
  | fuel + 1 => do
    if (← head) == .closeSequence then
      skip
      return []
    else
      if !isFirst then expect .comma
      match ← head with
      | .closeSequence =>
        skip
        return []
      | .key =>
        skip
        let n ← mapping none .mapping do
          let k ← nodeBefore [.value, .comma, .closeSequence] false false fuel
          let v ← valueAfter [.comma, .closeSequence] false fuel
          return [(k, v)]
        return n :: (← flowItems false fuel)
      | _ =>
        let n ← node false false fuel
        return n :: (← flowItems false fuel)

def flowEntries (isFirst : Bool) : (fuel : Nat) → Reader (List (Nat × Nat))
  | 0 => fail
  | fuel + 1 => do
    if (← head) == .closeMapping then
      skip
      return []
    else
      if !isFirst then expect .comma
      match ← head with
      | .closeMapping =>
        skip
        return []
      | .key =>
        skip
        let k ← nodeBefore [.value, .comma, .closeMapping] false false fuel
        let v ← valueAfter [.comma, .closeMapping] false fuel
        return (k, v) :: (← flowEntries false fuel)
      | _ =>
        let k ← node false false fuel
        let v ← addEmpty
        return (k, v) :: (← flowEntries false fuel)

end

def commonHandles : List (Text × Text) := [("!", "!"), ("!!", Kind.tagLead)]

def directives (hasVersion : Bool) (handles : List (Text × Text)) : (fuel : Nat) → Reader Unit
  | 0 => fail
  | fuel + 1 => do
    match ← head with
    | .version major =>
      skip
      if hasVersion || major != 1 then fail else directives true handles fuel
    | .handle name lead =>
      skip
      if (handles.lookup name).isSome then fail else directives hasVersion ((name, lead) :: handles) fuel
    | .otherDirective =>
      skip
      directives hasVersion handles fuel
    | _ => modify fun r => { r with handles := handles ++ commonHandles }

def isDirective : Token → Bool
  | .version _ | .handle .. | .otherDirective => true
  | _ => false

/-- A depth that no document of so many tokens goes beyond. -/
def fuelFor (tokens : List Token) : Nat := 3 * tokens.length + 3

def content (mayBeEmpty : Bool) (fuel : Nat) : Reader Nat := do
  let next ← head
  if mayBeEmpty && (isDirective next || [.documentStart, .documentEnd, .streamEnd].contains next) then addEmpty
  else node true false fuel

def skipEnds : (fuel : Nat) → Reader Unit
  | 0 => fail
  | fuel + 1 => do
    if (← head) == .documentEnd then
      skip
      skipEnds fuel

def isStarted (fuel : Nat) : Reader Bool := do
  skipEnds fuel
  if (← head) == .streamEnd then return false
  directives false [] fuel
  expect .documentStart
  return true

def implicitStart : Reader Bool := do
  modify fun r => { r with handles := commonHandles }
  return true

def document? (fuel : Nat) : Reader (Option Nat) := do
  let first ← head
  let isImplicit := !(isDirective first || first == .documentStart || first == .streamEnd)
  let begins ← if isImplicit then implicitStart else isStarted fuel
  if begins then
    let root ← content (!isImplicit) fuel
    if ← isStarted fuel then fail else return some root
  else return none

end Reader

def document? (run : TokenRun) : Except Failure (Option Document) := do
  let (root, r) ← (Reader.document? (Reader.fuelFor run.tokens)).run { tokens := run.tokens, ending := run.ending }
  return root.map fun root => { nodes := r.nodes, root }

end TestWeaver.Yaml
