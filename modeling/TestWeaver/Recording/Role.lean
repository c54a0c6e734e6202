import TestWeaver.Recording.Literal
import TestWeaver.Text.Case
import TestWeaver.Text.Word

/-!
The arguments of an accessor by role: a role constant or a quoted role word, and an accessible name given as
a setter call, an assignment or a property.
-/
namespace TestWeaver.Recording

def takeWord? (t : Text) : Option (Text × Text) :=
  let word := t.takeWhile CodePoint.isWord
  if word.isEmpty then none else some (word, t.dropWhile CodePoint.isWord)

def roleConstant? (args : Text) : Option Text :=
  Text.search (fun _ t => (t.afterLead? "AriaRole.").bind fun t => (takeWord? t).map (·.1)) none args

def quotedRole? (args : Text) : Option Text :=
  match args.dropBlank with
  | q :: t =>
    if q == .char '"' || q == .char '\'' then
      match takeWord? t with
      | some (word, q' :: _) => if q' == .char '"' || q' == .char '\'' then some word else none
      | _ => none
    else none
  | [] => none

def nameAt? (before : Option CodePoint) (t : Text) : Option Text :=
  let setter := (t.afterLead? "setName(").bind fun t => (literals (Text.dropBlank t)).head?
  let label :=
    if before.any CodePoint.isWord then none
    else match (t.afterLead? "name").map Text.dropBlank with
      | some (sign :: t) =>
        if sign == .char '=' || sign == .char ':' then (literals (Text.dropBlank t)).head? else none
      | _ => none
  (setter <|> label).map (·.1)

def accessibleName? (args : Text) : Option Text := Text.search nameAt? none args

def roleSelector? (args : Text) : Option Text :=
  (roleConstant? args <|> quotedRole? args).map fun role =>
    match accessibleName? args with
    | none => "role=" ++ role.lower
    | some name => "role=" ++ role.lower ++ "[name=\"" ++ (unescape name).replace "\"" "\\\"" ++ "\"]"

theorem roleSelector?_ne_nil {args s : Text} (h : roleSelector? args = some s) : s ≠ [] := by
  simp only [roleSelector?, Option.map_eq_some_iff] at h
  obtain ⟨role, _, rfl⟩ := h
  split <;> simp [Text.ofString]

end TestWeaver.Recording
