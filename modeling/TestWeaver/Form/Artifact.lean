import TestWeaver.Feature.Source
import TestWeaver.Form.Action
import TestWeaver.Page.Source
import TestWeaver.Steps.Source

/-!
The forms of the three artifacts. What is read is what their texts are made of: optional fields may be left out, and most
fields may hold any value, which is shown or quoted.
-/
namespace TestWeaver

open Form

namespace Page

def Constant.form (c : Constant) : Value := .object [("name", .text c.name), ("selector", .text c.selector)]

def Method.form (m : Method) : Value := .object [
  ("name", .text m.name), ("kind", .text m.kind.name), ("readable_name", .text m.readable),
  ("constant_name", orNull m.constant), ("parameter", orNull m.parameter), ("default_value", m.default)]

def Module.form (m : Module) : Value := .object [
  ("class_name", .text m.className), ("story_key", m.storyKey), ("page_path", .text m.path),
  ("constants", list Constant.form m.constants), ("methods", list Method.form m.methods)]

def constantOf (v : Value) : Except Failure (Text × Text) := do
  return (asText (← required v "name"), (← required v "selector").quoted)

def MethodSource.ofForm (v : Value) : Except Failure MethodSource := do
  let name ← required v "name"
  let kind ← Kind.ofForm (← required v "kind")
  let readable ← required v "readable_name"
  return { name := asText name, kind, readable := asText readable, constant := (field v "constant_name").shown
           default := literal? (field v "default_value") }

def Source.ofForm (v : Value) : Except Failure Source := do
  let className ← required v "class_name"
  let story ← required v "story_key"
  let path ← required v "page_path"
  let constants ← (← partsOf v "constants").mapM constantOf
  let methods ← (← partsOf v "methods").mapM MethodSource.ofForm
  return { className := ← className.textFor "endswith", story := story.shown, path := path.quoted, constants, methods }

end Page

namespace Feature

def Step.form (s : Step) : Value := .object [
  ("keyword", .text s.keyword), ("text", .text s.text), ("action_sequence_id", (s.action.map Ordinal.toValue).getD .null)]

def Step.ofForm (v : Value) : Except Failure Step := do
  let keyword ← required v "keyword"
  let t ← required v "text"
  return ⟨keyword.shown, t.shown, Ordinal.ofValue? (field v "action_sequence_id")⟩

def Step.ofForm? (v : Value) : Except Failure (Option Step) :=
  if v.isGiven then (Step.ofForm v).map some else .ok none

def Block.form (b : Block) : Value := .object [
  ("name", .text b.name), ("steps", list Step.form b.steps),
  ("examples", .object [("columns", texts b.examples.columns), ("values", .list b.examples.values)])]

def Block.ofForm (v : Value) : Except Failure (Block × List Value) := do
  let name ← required v "name"
  let steps ← (← partsOf v "steps").mapM Step.ofForm
  let examples := (field v "examples").orElse (.mapping [])
  let columns ← partsOf examples "columns"
  return ({ name := name.shown, steps, examples := ⟨columns.map Value.shown, ← partsOf examples "values"⟩ }, columns)

def stepOrNull (s : Option Step) : Value := (s.map Step.form).getD .null

def Document.form (d : Document) : Value := .object [
  ("feature_name", .text d.name), ("tags", texts d.tags), ("description", texts d.description),
  ("precondition", stepOrNull d.precondition), ("scenarios", list Block.form d.blocks),
  ("closing_step", stepOrNull d.closing), ("background", .bool d.background)]

def joinable (vs : List Value) : Except Failure (List Text) := vs.mapM fun
  | .text t => .ok t
  | v => .error (.wrongType ("expected str instance, " ++ v.kindName ++ " found"))

def Document.ofForm (v : Value) : Except Failure Document := do
  let name ← required v "feature_name"
  let precondition ← Step.ofForm? (field v "precondition")
  let blocks ← (← partsOf v "scenarios").mapM Block.ofForm
  let closing ← Step.ofForm? (field v "closing_step")
  let tags ← joinable (← partsOf v "tags")
  let description ← (← partsOf v "description").mapM fun line => line.textFor "strip"
  for (block, columns) in blocks do
    discard (joinable columns)
    block.examples.check
  return { name := name.shown, tags, description, precondition, blocks := blocks.map (·.1), closing
           background := boolOr v "background" false }

end Feature

namespace Steps

def Handler.form (h : Handler) : Value := .object [
  ("step_types", texts (h.types.map (·.name))), ("pattern", .text h.pattern), ("function_name", .text h.function),
  ("page_method", orNull h.method), ("parameter", orNull h.parameter), ("argument", h.argument),
  ("parsed", .bool h.parsed)]

def named? (v : Value) : Option Text := if v.isGiven then some v.shown else none

def bodyOf (method parameter argument pattern : Value) : Except Failure Body :=
  match named? method with
  | some name => .ok (.call name (passed (named? parameter) argument))
  | none =>
    match pattern with
    | .text t => .ok (.note (passedNote t))
    | v => .error (.wrongType ("can only concatenate str (not " ++ v.kindName.quoted ++ ") to str"))

def handlerParts (v : Value) : Except Failure (Value × Value × Value) := do
  return (← required v "step_types", ← required v "pattern", ← required v "function_name")

def HandlerSource.ofForm (v : Value) : Except Failure HandlerSource := do
  let (types, pattern, function) ← handlerParts v
  let parameter := field v "parameter"
  return { types := ← Feature.joinable (← types.each), pattern := pattern.quoted, parsed := boolOr v "parsed" false
           function := function.shown, parameter := named? parameter
           body := ← bodyOf (field v "page_method") parameter (field v "argument") pattern }

def Module.form (m : Module) : Value := .object [
  ("class_name", .text m.className), ("page_class", .text m.pageClass), ("page_module", .text m.pageModule),
  ("feature_file", .text m.featureFile), ("fixture_name", .text m.fixture),
  ("handlers", list Handler.form m.handlers)]

def Source.ofForm (v : Value) : Except Failure Source := do
  let className ← required v "class_name"
  let pageClass ← required v "page_class"
  let pageModule ← required v "page_module"
  let featureFile ← required v "feature_file"
  let fixture ← required v "fixture_name"
  let handlers ← partsOf v "handlers"
  handlers.forM fun h => (handlerParts h).map fun _ => ()
  return { className := className.shown, pageClass := pageClass.shown, pageModule := pageModule.shown
           featureFile := featureFile.shown, featureLiteral := featureFile.quoted, fixture := fixture.shown
           handlers := ← handlers.mapM HandlerSource.ofForm }

end Steps

end TestWeaver
