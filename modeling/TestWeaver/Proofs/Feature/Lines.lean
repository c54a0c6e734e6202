import Mathlib.Data.List.Forall2
import TestWeaver.Feature.Step
import TestWeaver.Proofs.Context.Gate

/-! The lines of a recording's scenario: each is about an action shown, in the order of the
actions, and a fill or a select refers to a column that the scenario has. -/
namespace TestWeaver.Feature
open TestWeaver.Action

/- The column that an action has among the columns of a scenario. Only a fill or a select has
one: the name of its element, with the number of the action behind it where that was taken. -/
inductive HasColumn (columns : List Text) (a : Action) : Option Text → Prop where
  | none : a.kind.isParameterized = false → HasColumn columns a none
  | own : a.kind.isParameterized → Naming.snake a.names.readable ∈ columns →
      HasColumn columns a (some (Naming.snake a.names.readable))
  | numbered : a.kind.isParameterized → Naming.snake a.names.readable ++ "_" ++ a.id.text ∈ columns →
      HasColumn columns a (some (Naming.snake a.names.readable ++ "_" ++ a.id.text))

structure Describes (columns : List Text) (a : Action) (s : Step) : Prop where
  about : s.action = some a.id
  line : ∃ column, HasColumn columns a column ∧ s.text = behaviorText a column

def Recorded (done : List Action) (b : Block) : Prop :=
  ∃ described, described.Sublist done ∧ List.Forall₂ (Describes b.examples.columns) described b.steps

section run
variable {done : List Action} {b : Block} {c : Context} {a : Action}

theorem columnKept {columns more : List Text} {column : Option Text} (has : HasColumn columns a column) :
    HasColumn (columns ++ more) a column := by
  cases has with
  | none plain => exact .none plain
  | own given member => exact .own given (List.mem_append_left _ member)
  | numbered given member => exact .numbered given (List.mem_append_left _ member)

theorem describesKept {columns more : List Text} {s : Step} (describes : Describes columns a s) :
    Describes (columns ++ more) a s :=
  ⟨describes.about,describes.line.imp fun _ line => line.imp_left columnKept⟩

theorem columnAdded (e : Examples) (full : Naming.snake a.names.readable ≠ []) (value : Value) :
    ∃ more, (e.add (columnOf e.columns a) value).columns = e.columns ++ more ∧
      HasColumn (e.columns ++ more) a (columnOf e.columns a) := by
  unfold columnOf
  cases given : a.kind.isParameterized with
  | false =>
    rw [if_neg (by simp)]
    exact ⟨[],by simp [Examples.add],.none given⟩
  | true =>
    rw [if_pos rfl]
    have added : ∀ column : Text, column ≠ [] → (e.add (some column) value).columns = e.columns ++ [column] := by
      intro column filled
      cases column with
      | nil => contradiction
      | cons p rest => rfl
    dsimp only
    split
    · exact ⟨_,added _ (by simp [full]),.numbered given (by simp)⟩
    · exact ⟨_,added _ full,.own given (by simp)⟩

theorem addActionOnly (b : Block) (c : Context) (a : Action) :
    Context.OnlyAt .specification c (b.addAction c a).2 := by
  have only := Context.emitOnly c .specification .step (behaviorText a (columnOf b.examples.columns a))
  unfold Block.addAction
  simp only
  split <;> exact only

theorem addActionRecorded (c : Context) (recorded : Recorded done b) (full : Naming.snake a.names.readable ≠ []) :
    Recorded (done ++ [a]) (b.addAction c a).1 := by
  obtain ⟨described,part,lines⟩ := recorded
  unfold Block.addAction
  dsimp only
  split
  · obtain ⟨more,columns,has⟩ := columnAdded b.examples full a.value
    refine ⟨described ++ [a],part.append (List.Sublist.refl _),?_⟩
    simp only [columns]
    exact List.rel_append (lines.imp fun _ _ => describesKept) (.cons ⟨rfl,_,has,rfl⟩ .nil)
  · exact ⟨described,part.trans (List.sublist_append_left _ _),lines⟩

theorem addActionsOnly (b : Block) (c : Context) (rest : List Action) :
    Context.OnlyAt .specification c (b.addActions c rest).2 := by
  induction rest generalizing b c with
  | nil => exact Context.onlyAtSelf _ _
  | cons a rest ih =>
    unfold Block.addActions
    split
    · exact ih b c
    · exact Context.onlyAtTrans (addActionOnly b c a) (ih _ _)

theorem addActionsRecorded {rest : List Action} (recorded : Recorded done b)
    (full : ∀ a ∈ c.shown rest, Naming.snake a.names.readable ≠ []) :
    Recorded (done ++ c.shown rest) (b.addActions c rest).1 := by
  induction rest generalizing done b c with
  | nil => simpa [Block.addActions,Context.shown] using recorded
  | cons a rest ih =>
    rw [Context.shownCons] at full ⊢
    unfold Block.addActions
    split
    · rename_i passed
      rw [if_pos passed] at full
      exact ih recorded full
    · rename_i kept
      rw [if_neg kept] at full
      have same := Context.onlyAtShown (addActionOnly b c a) rest
      have lines := ih (addActionRecorded c recorded (full a List.mem_cons_self)) (by
        rw [same]
        exact fun d member => full d (List.mem_cons_of_mem _ member))
      rw [same,List.append_assoc] at lines
      exact lines

end run

theorem ofActionsRecorded {c : Context} {actions : List Action} (className : Text) (storyKey : Value)
    (full : ∀ a ∈ c.shown (inOrder actions), Naming.snake a.names.readable ≠ []) :
    ∃ b, (Document.ofActions c actions className storyKey).1.blocks = [b] ∧
      Recorded (c.shown (inOrder actions)) b := by
  have start : Recorded [] { name := "Complete " ++ className ++ " workflow" } := ⟨[],.slnil,.nil⟩
  exact ⟨_,rfl,addActionsRecorded start full⟩

theorem ofActionsOnly (c : Context) (actions : List Action) (className : Text) (storyKey : Value) :
    Context.OnlyAt .specification c (Document.ofActions c actions className storyKey).2 :=
  addActionsOnly _ c _

theorem ofRequirementOnly (c : Context) (r : Requirement) (className : Text) (storyKey : Value) :
    Context.OnlyAt .specification c (Document.ofRequirement c r className storyKey).2 :=
  Context.emitOnly c .specification .step _

end TestWeaver.Feature
