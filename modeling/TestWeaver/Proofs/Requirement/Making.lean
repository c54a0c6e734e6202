import TestWeaver.Proofs.Requirement.Elements
import TestWeaver.Proofs.Steps.Names
import TestWeaver.Proofs.Text.Breaks

/-! The steps of the scenarios of a story. They are the lines that its criteria are written in, and
those that are made for it: a few fixed ones, actions on its elements, and what a criterion expects. -/
namespace TestWeaver.Requirement

def fixedSteps : List Text :=
  [startStep,"And the page is fully loaded","Then all elements should respond correctly","And no errors should occur"] ++
    [happyPath [],emptyFields,invalidData,responsiveness,errorHandling].flatMap Scenario.steps

structure Sentence (step : Text) : Prop where
  unbroken : Text.Unbroken step
  keyword : (Feature.Step.ofText step).keyword ∈ ([.ofString "Given","When","Then","And"] : List Text)
  several : 2 ≤ (Steps.functionWords (Feature.Step.ofText step).text).length
instance (step : Text) : Decidable (Sentence step) :=
  decidable_of_iff (Text.Unbroken step ∧
    ([.ofString "Given","When","Then","And"] : List Text).contains (Feature.Step.ofText step).keyword ∧
    2 ≤ (Steps.functionWords (Feature.Step.ofText step).text).length)
    ⟨fun ⟨unbroken,keyword,several⟩ => ⟨unbroken,List.contains_iff_mem.mp keyword,several⟩,
      fun ⟨unbroken,keyword,several⟩ => ⟨unbroken,List.contains_iff_mem.mpr keyword,several⟩⟩

theorem fixedSentences : ∀ step ∈ fixedSteps, Sentence step := by
  simp only [fixedSteps,startStep,happyPath,emptyFields,invalidData,responsiveness,errorHandling,List.flatMap_cons,
    List.flatMap_nil,List.cons_append,List.nil_append,List.append_nil,List.forall_mem_cons,List.not_mem_nil,false_implies,
    implies_true,and_true]
  and_intros
  -- a step at a time, and by its signs, since it takes long to evaluate them from the bytes of a text
  all_goals
    rw [Text.ofStringChars]
    decide

inductive Made : Text → Prop where
  | fixed {step : Text} : step ∈ fixedSteps → Made step
  | acts {e : Element} {phrase : Text} : e ∈ known → phrase ∈ phrasesOf e → Made ("When " ++ phrase)
  | goesOn {e : Element} {phrase : Text} : e ∈ known → phrase ∈ phrasesOf e → Made ("And " ++ phrase)
  | expects (criterion : Text) : Made ("Then the system should " ++ expectedResult criterion)

section made
variable {s : Story} {elements : List Element} {criterion : Text}

theorem edgesMade (issueType : Option Text) : ∀ e ∈ edgeCases issueType, ∀ step ∈ e.steps, Made step := by
  intro e member step inside
  refine .fixed (List.mem_append_right _ (List.mem_flatMap.mpr ⟨e,List.mem_cons_of_mem _ ?_,inside⟩))
  unfold edgeCases at member
  split at member
  · exact member
  · have fewer : e = emptyFields ∨ e = invalidData ∨ e = errorHandling := by simpa using member
    simpa using fewer.imp_right (Or.imp_right .inr)

variable (each : ∀ e ∈ elements, e ∈ known)
include each

theorem actsMade (line : Element → Text) (own : ∀ e, line e ∈ phrasesOf e) :
    ∀ step ∈ actSteps (elements.map line), Made step := by
  cases elements with
  | nil => simp [actSteps]
  | cons e rest =>
    obtain ⟨first,later⟩ := List.forall_mem_cons.mp each
    rw [List.map_cons,actSteps]
    refine List.forall_mem_cons.mpr ⟨.acts first (own e),fun step member => ?_⟩
    obtain ⟨phrase,listed,rfl⟩ := List.mem_map.mp member
    obtain ⟨f,inside,rfl⟩ := List.mem_map.mp listed
    exact .goesOn (later f inside) (own f)

variable (full : elements ≠ [])
include full

theorem detailedMade (criterion : Text) : detailedSteps criterion elements = stepLines criterion ∨
    ∀ step ∈ detailedSteps criterion elements, Made step := by
  unfold detailedSteps
  dsimp only
  split
  · exact .inl rfl
  · have opening : startStep ∈ fixedSteps ∧ Text.ofString "And the page is fully loaded" ∈ fixedSteps := by decide
    have acts := actsMade each interactionPhrase fun e => List.mem_cons_self
    rw [actionSteps,if_neg (by simpa using full)]
    refine .inr (List.forall_mem_append.mpr ⟨?_,List.forall_mem_singleton.mpr (.expects criterion)⟩)
    exact List.forall_mem_cons.mpr ⟨.fixed opening.1,List.forall_mem_cons.mpr ⟨.fixed opening.2,acts⟩⟩

theorem scenarioMade : ∀ e ∈ scenariosOf s elements, ∀ step ∈ e.steps,
    (∃ criterion ∈ givenCriteria s, step ∈ stepLines criterion) ∨ Made step := by
  intro e member step inside
  unfold scenariosOf at member
  rcases List.mem_append.mp member with own | edge
  · split at own
    · rcases List.mem_cons.mp own with rfl | other
      · exact .inr (.fixed (List.mem_append_right _ (List.mem_flatMap.mpr ⟨happyPath [],List.mem_cons_self,inside⟩)))
      · rw [if_neg (by simpa using full)] at other
        rw [List.mem_singleton.mp other] at inside
        have closing : ∀ step ∈ startStep :: ([.ofString "Then all elements should respond correctly",
            .ofString "And no errors should occur"] : List Text), step ∈ fixedSteps := by decide
        obtain ⟨first,last⟩ := List.forall_mem_cons.mp closing
        have acts := actsMade each (fun e => "user interacts with " ++ e.name) fun e => by simp [phrasesOf]
        refine .inr (List.forall_mem_cons.mpr ⟨.fixed first,List.forall_mem_append.mpr ⟨acts,?_⟩⟩ step inside)
        exact fun step member => .fixed (last step member)
    · obtain ⟨criterion,given,rfl⟩ := List.mem_map.mp own
      rcases detailedMade each full criterion with kept | made
      · exact .inl ⟨criterion,given,kept ▸ inside⟩
      · exact .inr (made step inside)
  · exact .inr (edgesMade s.issueType e edge step inside)

end made
end TestWeaver.Requirement
