import TestWeaver.Proofs.Steps.Types
import TestWeaver.Proofs.Text.Parts

/-! The elements of a story and the lines written for them. An element is one of the catalogue or
stands in for them all, so there are few enough to check that selectors, methods and names tell
them apart: no line for one of them has the name of another in it. -/
namespace TestWeaver.Requirement

def known : List Element := catalogue.map (·.2) ++ fallbackElements

def phrasesOf (e : Element) : List Text := [interactionPhrase e,"user interacts with " ++ e.name]

def gestureName (e : Element) : Text := Naming.method (kindOf e.interaction) (Naming.readable (selectorOf e)) []

section detected
variable {t : Text} {e : Element}

theorem detectKnown (member : e ∈ detect t) : e ∈ known := by
  unfold detect at member
  dsimp only at member
  split at member
  · exact List.mem_append_right _ member
  · obtain ⟨entry,kept,rfl⟩ := List.mem_map.mp member
    exact List.mem_append_left _ (List.mem_map_of_mem (List.mem_filter.mp kept).1)

theorem detectFull (t : Text) : detect t ≠ [] := by
  unfold detect
  dsimp only
  split
  · decide
  · rename_i found
    simpa using found

theorem detectNodup (t : Text) : (detect t).Nodup := by
  have apart : (catalogue.map (·.2)).Nodup := by decide +kernel
  unfold detect
  dsimp only
  split
  · decide +kernel
  · exact apart.sublist (List.filter_sublist.map _)

end detected

section apart

theorem elementsTold : (known.map selectorOf).Nodup ∧ (known.map gestureName).Nodup ∧
    ∀ e ∈ known, Naming.readable (selectorOf e) ≠ "Value" := by
  decide +kernel

theorem selectorsApart : (known.map selectorOf).Nodup := elementsTold.1

theorem gesturesApart : (known.map gestureName).Nodup := elementsTold.2.1

theorem readableSaid : ∀ e ∈ known, Naming.readable (selectorOf e) ≠ "Value" := elementsTold.2.2

/- What a line for an element is to the rest of a story: it leads to no page, it has the name of no other
element in it, and it is read as it was written. -/
structure Phrase (e : Element) (p : Text) : Prop where
  stays : Steps.isArrival p.lower = false
  names : ∀ f ∈ known, p.lower.contains f.name.lower = decide (f = e)
  first : Feature.Step.ofText ("When " ++ p) = ⟨"When",p,none⟩
  later : Feature.Step.ofText ("And " ++ p) = ⟨"And",p,none⟩
instance (e : Element) (p : Text) : Decidable (Phrase e p) :=
  decidable_of_iff (Steps.isArrival p.lower = false ∧ (∀ f ∈ known, p.lower.contains f.name.lower = decide (f = e)) ∧
    Feature.Step.ofText ("When " ++ p) = ⟨"When",p,none⟩ ∧ Feature.Step.ofText ("And " ++ p) = ⟨"And",p,none⟩)
    ⟨fun ⟨stays,names,first,later⟩ => ⟨stays,names,first,later⟩,
      fun phrase => ⟨phrase.stays,phrase.names,phrase.first,phrase.later⟩⟩

theorem phrasesKnown : ∀ e ∈ known, ∀ p ∈ phrasesOf e, Phrase e p := by decide +kernel

def phraseLeads : List Text := ["user enters valid data in","user clicks on","user selects value from","user checks",
  "user presses key on","user interacts with"]

theorem phraseParts {e : Element} {p : Text} (phrase : p ∈ phrasesOf e) :
    ∃ lead ∈ phraseLeads, p = lead ++ .char ' ' :: e.name := by
  unfold phrasesOf at phrase
  rcases List.mem_cons.mp phrase with rfl | other
  · unfold interactionPhrase
    cases e.interaction with
    | type => exact ⟨"user enters valid data in",by decide,by simp [Text.ofString]⟩
    | click => exact ⟨"user clicks on",by decide,by simp [Text.ofString]⟩
    | select => exact ⟨"user selects value from",by decide,by simp [Text.ofString]⟩
    | check => exact ⟨"user checks",by decide,by simp [Text.ofString]⟩
    | press => exact ⟨"user presses key on",by decide,by simp [Text.ofString]⟩
  · rw [List.mem_singleton.mp other]
    exact ⟨"user interacts with",by decide,by simp [Text.ofString]⟩

theorem phraseNotOpening {e : Element} {p : Text} (phrase : p ∈ phrasesOf e) (className : Text) :
    p ≠ Feature.preconditionText className := by
  have apart : ∀ lead ∈ phraseLeads, Text.Apart lead "user navigates to " := by decide
  obtain ⟨lead,listed,rfl⟩ := phraseParts phrase
  intro same
  refine Text.apartNoPrefix (apart lead listed) (.char ' ' :: e.name) ?_
  rw [same,Feature.preconditionText,List.append_assoc]
  exact List.prefix_append _ _

end apart

theorem gestureNamed {e : Element} (member : e ∈ known) (given : Nat) :
    (actionOf given e).resolve.names.method = gestureName e := by
  have element : (actionOf given e).isNavigation = false := by
    simpa [Action.isNavigation,actionOf] using kindOf_ne_navigate e.interaction
  have readable : Naming.readableOf (actionOf given e) = Naming.readable (selectorOf e) := by
    rw [Naming.readableOf,element]
    rfl
  simp only [Action.resolve,Naming.names,readable,gestureName,Naming.method,if_neg (readableSaid e member)]
  rfl

section lines
open Steps (typeFrom setBy UsedAs)
variable {phrases : List Text} {p : Text}

theorem goesOn {steps : List Feature.Step} (current : Steps.StepType) (going : ∀ s ∈ steps, s.keyword = "And") :
    typeFrom current steps = current := by
  induction steps generalizing current with
  | nil => rfl
  | cons s rest ih =>
    have kept : (setBy s.keyword).getD current = current := by
      rw [going s List.mem_cons_self,show setBy "And" = none from rfl,Option.getD_none]
    show typeFrom ((setBy s.keyword).getD current) rest = current
    rw [kept]
    exact ih current fun t member => going t (List.mem_cons_of_mem _ member)

theorem actStepsRead (split : ∀ p ∈ phrases, Feature.Step.ofText ("When " ++ p) = ⟨"When",p,none⟩ ∧
      Feature.Step.ofText ("And " ++ p) = ⟨"And",p,none⟩) (member : p ∈ phrases) (current : Steps.StepType) :
    ∃ before s after, (actSteps phrases).map Feature.Step.ofText = before ++ s :: after ∧ s.text = p ∧
      typeFrom current (before ++ [s]) = .when := by
  cases phrases with
  | nil => contradiction
  | cons first rest =>
    obtain ⟨here,later⟩ := List.forall_mem_cons.mp split
    have going : ∀ ps : List Text, (∀ q ∈ ps, q ∈ rest) →
        (ps.map fun q => ("And " ++ q : Text)).map Feature.Step.ofText = ps.map fun q => ⟨"And",q,none⟩ := by
      intro ps inside
      rw [List.map_map]
      exact List.map_congr_left fun q member => (later q (inside q member)).2
    rw [actSteps,List.map_cons,here.1]
    rcases List.mem_cons.mp member with rfl | among
    · exact ⟨[],_,_,rfl,rfl,rfl⟩
    · obtain ⟨xs,ys,rfl⟩ := List.append_of_mem among
      rw [going _ fun q inside => inside,List.map_append,List.map_cons]
      refine ⟨⟨"When",first,none⟩ :: xs.map fun q => ⟨"And",q,none⟩,⟨"And",p,none⟩,_,rfl,rfl,?_⟩
      have later : ∀ s ∈ xs.map (fun q => (⟨"And",q,none⟩ : Feature.Step)) ++ [⟨"And",p,none⟩],
          s.keyword = ("And" : Text) := by
        intro s inside
        rcases List.mem_append.mp inside with old | last
        · obtain ⟨q,_,rfl⟩ := List.mem_map.mp old
          rfl
        · rw [List.mem_singleton.mp last]
      exact goesOn .when later

theorem phraseUsed {d : Feature.Document} {r : Requirement} {scenario : Scenario} {front back : List Text}
    (blocks : d.blocks = r.scenarios.map Feature.Block.ofScenario) (listed : scenario ∈ r.scenarios)
    (steps : scenario.steps = front ++ actSteps phrases ++ back)
    (split : ∀ p ∈ phrases, Feature.Step.ofText ("When " ++ p) = ⟨"When",p,none⟩ ∧
      Feature.Step.ofText ("And " ++ p) = ⟨"And",p,none⟩) (member : p ∈ phrases) : UsedAs d p .when := by
  obtain ⟨before,s,after,read,text,type⟩ := actStepsRead split member (typeFrom .given (front.map Feature.Step.ofText))
  refine ⟨_,blocks ▸ List.mem_map_of_mem listed,front.map Feature.Step.ofText ++ before,s,
    after ++ back.map Feature.Step.ofText,?_,text,?_⟩
  · show scenario.steps.map Feature.Step.ofText = _
    rw [steps,List.map_append,List.map_append,read]
    simp only [List.append_assoc,List.cons_append]
  · rw [Steps.effectiveType,typeFrom,List.append_assoc,List.foldl_append]
    exact type

end lines

structure Written (s : Story) (d : Feature.Document) : Prop where
  criteria : ∀ criterion ∈ givenCriteria s, stepLines criterion = [] →
    ∀ e ∈ (ofStory s).elements, Steps.UsedAs d (interactionPhrase e) .when
  without : givenCriteria s = [] → ∀ e ∈ (ofStory s).elements, Steps.UsedAs d ("user interacts with " ++ e.name) .when

section written
variable {s : Story}

theorem elementKnown {e : Element} (member : e ∈ (ofStory s).elements) : e ∈ known := detectKnown member

theorem linesSplit {line : Element → Text} (own : ∀ e, line e ∈ phrasesOf e) :
    ∀ p ∈ (ofStory s).elements.map line, Feature.Step.ofText ("When " ++ p) = ⟨"When",p,none⟩ ∧
      Feature.Step.ofText ("And " ++ p) = ⟨"And",p,none⟩ := by
  intro p member
  obtain ⟨e,inside,rfl⟩ := List.mem_map.mp member
  have phrase := phrasesKnown e (elementKnown inside) _ (own e)
  exact ⟨phrase.first,phrase.later⟩

theorem storyWritten {d : Feature.Document} (blocks : d.blocks = (ofStory s).scenarios.map Feature.Block.ofScenario) :
    Written s d where
  criteria := by
    intro criterion given bare e member
    have elements : (ofStory s).elements.isEmpty = false := List.isEmpty_eq_false_iff.mpr (List.ne_nil_of_mem member)
    have criteria : (givenCriteria s).isEmpty = false := List.isEmpty_eq_false_iff.mpr (List.ne_nil_of_mem given)
    have listed : ⟨scenarioName criterion,detailedSteps criterion (ofStory s).elements⟩ ∈ (ofStory s).scenarios := by
      show _ ∈ scenariosOf s (ofStory s).elements
      rw [scenariosOf,criteria]
      exact List.mem_append_left _ (List.mem_map_of_mem given)
    have steps : detailedSteps criterion (ofStory s).elements = [startStep,"And the page is fully loaded"] ++
        actSteps ((ofStory s).elements.map interactionPhrase) ++
          [("Then the system should " ++ expectedResult criterion : Text)] := by
      rw [detailedSteps,bare,actionSteps,elements]
      rfl
    exact phraseUsed blocks listed steps (linesSplit fun _ => List.mem_cons_self) (List.mem_map_of_mem member)
  without := by
    intro empty e member
    have elements : (ofStory s).elements.isEmpty = false := List.isEmpty_eq_false_iff.mpr (List.ne_nil_of_mem member)
    have listed : allElements (ofStory s).elements ∈ (ofStory s).scenarios := by
      show _ ∈ scenariosOf s (ofStory s).elements
      rw [scenariosOf,empty,defaults,elements]
      exact List.mem_append_left _ (List.mem_cons_of_mem _ List.mem_cons_self)
    have steps : (allElements (ofStory s).elements).steps = [startStep] ++
        actSteps ((ofStory s).elements.map fun e => "user interacts with " ++ e.name) ++
          [.ofString "Then all elements should respond correctly",.ofString "And no errors should occur"] := rfl
    exact phraseUsed blocks listed steps (linesSplit fun _ => List.mem_cons_of_mem _ List.mem_cons_self)
      (List.mem_map_of_mem (f := fun e : Element => ("user interacts with " ++ e.name : Text)) member)

end written

end TestWeaver.Requirement
