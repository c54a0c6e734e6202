import TestWeaver.Failure
import TestWeaver.Markup.Plain
import TestWeaver.Text.Blank
import TestWeaver.Value.Shown

/-!
What a tracker keeps in its text fields: marked-up text, or a document of nested blocks. Both are read as plain text.
-/
namespace TestWeaver.Tracker

inductive Block where
  | text
  | lineBreak
  | paragraph
  | list (l : Markup.Listing)
  | other
  deriving DecidableEq, Repr

def Block.ofValue : Value → Block
  | .text t =>
    if t = "text" then .text
    else if t = "hardBreak" then .lineBreak
    else if t = "paragraph" || t = "heading" then .paragraph
    else if t = "bulletList" then .list .bullets
    else if t = "orderedList" then .list .numbers
    else .other
  | _ => .other

def asText (v : Value) : Except Failure Text :=
  match v with
  | .text t => .ok t
  | v => .error (.lacks v.kindName "strip")

def joinAll (said : List Value) : Except Failure Text :=
  let parts : Except Failure (List Text) := said.zipIdx.mapM fun
    | (.text t, _) => .ok t
    | (v, n) => .error (.wrongType ("sequence item " ++ Text.ofNat n ++ ": expected str instance, " ++ v.kindName ++ " found"))
  parts.map List.flatten

def asLine (t : Text) : Text := if t.isEmpty then [] else t ++ "\n"

def Block.say (b : Block) (text : Value) (content : Except Failure (List (Except Failure Value))) : Except Failure Value :=
  let joined := do joinAll (← (← content).mapM id)
  match b with
  | .text => .ok text
  | .lineBreak => .ok (.text "\n")
  | .paragraph => joined.map fun t => .text (asLine t)
  | .list l => do
    let items ← (← content).mapM fun item => do return Text.trim (← asText (← item))
    return .text (asLine (Text.unlines (l.lines items)))
  | .other => joined.map .text

def bareText (v : Value) : Value := .text (if v.isGiven then v.shown else [])

mutual

def said : Value → Except Failure Value
  | .mapping entries =>
    (Block.ofValue ((Value.lookup? entries (.text "type")).getD (.text []))).say
      ((Value.lookup? entries (.text "text")).getD (.text [])) (saidUnder entries)
  | v => .ok (bareText v)

def saidUnder : List (Value × Value) → Except Failure (List (Except Failure Value))
  | [] => .ok []
  | (key, v) :: rest => if key.isSameKey (.text "content") then saidIn v else saidUnder rest

def saidIn : Value → Except Failure (List (Except Failure Value))
  | .list items => .ok (saidEach items)
  | .text t => .ok (t.map fun c => .ok (.text [c]))
  | .mapping entries => .ok (entries.map fun (key, _) => .ok (bareText key))
  | v => .error (.wrongType (v.kindName.quoted ++ " object is not iterable"))

def saidEach : List Value → List (Except Failure Value)
  | [] => []
  | v :: vs => said v :: saidEach vs

end

def plainText (v : Value) : Except Failure Text :=
  match v with
  | .mapping (e :: es) => do return Text.trim (← asText (← said (.mapping (e :: es))))
  | .text t => (Markup.plainText t).mapError Failure.ofMarkup
  | _ => .ok []

end TestWeaver.Tracker
