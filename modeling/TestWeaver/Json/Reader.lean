import TestWeaver.Json.Token

/-!
JSON texts read as values. The reader keeps the containers that are open, innermost first, each with what it holds
so far; one pass over the tokens closes them.
-/
namespace TestWeaver.Json

inductive Frame where
  | list (items : List Value)
  | mapping (entries : List (Value × Value)) (key : Text)

inductive State where
  /-- A value is due; the innermost list may close instead when it is `fresh`. -/
  | value (fresh : Bool) (frames : List Frame)
  | key (fresh : Bool) (entries : List (Value × Value)) (frames : List Frame)
  | colon (entries : List (Value × Value)) (key : Text) (frames : List Frame)
  | complete (v : Value) (frames : List Frame)

inductive JsonError where
  | malformed
  | number (e : LongNumeral)
  deriving DecidableEq, Repr

def State.step? : State → Token → Option State
  | .value fresh frames, token =>
    match token with
    | .text t => some (.complete (.text t) frames)
    | .atom v => some (.complete v frames)
    | .openList => some (.value true (.list [] :: frames))
    | .openMapping => some (.key true [] frames)
    | .closeList => match fresh, frames with
      | true, .list _ :: outer => some (.complete (.list []) outer)
      | _, _ => none
    | _ => none
  | .key fresh entries frames, token =>
    match token with
    | .text t => some (.colon entries t frames)
    | .closeMapping => if fresh then some (.complete (.mapping []) frames) else none
    | _ => none
  | .colon entries name frames, token =>
    match token with
    | .colon => some (.value false (.mapping entries name :: frames))
    | _ => none
  | .complete v frames, token =>
    match frames, token with
    | .list items :: outer, .comma => some (.value false (.list (v :: items) :: outer))
    | .list items :: outer, .closeList => some (.complete (.list (v :: items).reverse) outer)
    | .mapping entries name :: outer, .comma => some (.key false (Value.insert entries (.text name) v) outer)
    | .mapping entries name :: outer, .closeMapping =>
      some (.complete (.mapping (Value.insert entries (.text name) v)) outer)
    | _, _ => none

def State.step (s : State) (t : Token) : Except JsonError State :=
  match s, t with
  | .value .., .long digits => .error (.number (.given digits))
  | s, t => match s.step? t with
    | some next => .ok next
    | none => .error .malformed

def ofText (t : Text) : Except JsonError Value := do
  match ← (tokens t).foldlM State.step (.value false []) with
  | .complete v [] => return v
  | _ => throw .malformed

end TestWeaver.Json
