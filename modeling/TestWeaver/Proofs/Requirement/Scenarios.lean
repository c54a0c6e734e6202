import TestWeaver.Proofs.Feature.Headers

/-! The names of the scenarios of a story. A name puts its criterion on one line and cuts what is
long, so criteria that differ further on share a name, and a criterion can say just what the name of
an edge case says. Nothing else makes two names one. -/
namespace TestWeaver.Requirement

def scenarioNames (s : Story) : List Text := (ofStory s).scenarios.map Scenario.name

def edgeNames (issueType : Option Text) : List Text := (edgeCases issueType).map Scenario.name

def Alike (a b : Text) : Prop :=
  a.squeeze = b.squeeze ∨ 50 < a.squeeze.length ∧ 50 < b.squeeze.length ∧ a.squeeze.take 50 = b.squeeze.take 50
instance (a b : Text) : Decidable (Alike a b) := by unfold Alike; infer_instance

def AsksEdge (issueType : Option Text) (criterion : Text) : Prop := "Verify " ++ criterion.squeeze ∈ edgeNames issueType
instance (issueType : Option Text) (criterion : Text) : Decidable (AsksEdge issueType criterion) :=
  decidable_of_iff ((edgeNames issueType).contains ("Verify " ++ criterion.squeeze)) (by simp [AsksEdge])

section names
variable {a b name : Text}

theorem nameShort (short : ¬ 50 < a.squeeze.length) : scenarioName a = "Verify " ++ a.squeeze := by
  rw [scenarioName,if_neg short]

theorem nameLong (long : 50 < a.squeeze.length) : scenarioName a = "Verify " ++ (a.squeeze.take 50 ++ "...") := by
  rw [scenarioName,if_pos long,List.append_assoc]

theorem shortLength (short : ¬ 50 < a.squeeze.length) : (scenarioName a).length ≤ 57 := by
  have lead : (Text.ofString "Verify ").length = 7 := by decide
  rw [nameShort short,List.length_append,lead]
  omega

theorem longLength (long : 50 < a.squeeze.length) : (scenarioName a).length = 60 := by
  have ends : (Text.ofString "Verify ").length = 7 ∧ (Text.ofString "...").length = 3 := by decide
  rw [nameLong long,List.length_append,List.length_append,List.length_take_of_le (Nat.le_of_lt long),ends.1,ends.2]

theorem sameName : scenarioName a = scenarioName b ↔ Alike a b := by
  by_cases left : 50 < a.squeeze.length <;> by_cases right : 50 < b.squeeze.length
  · rw [nameLong left,nameLong right,List.append_cancel_left_eq,List.append_cancel_right_eq]
    exact ⟨fun same => .inr ⟨left,right,same⟩,fun alike => alike.elim (congrArg (List.take 50)) (·.2.2)⟩
  · refine iff_of_false (fun same => ?_) ?_
    · have sizes := congrArg List.length same
      have := longLength left
      have := shortLength right
      omega
    · rintro (whole | ⟨_,long,_⟩)
      · exact right (whole ▸ left)
      · exact right long
  · refine iff_of_false (fun same => ?_) ?_
    · have sizes := congrArg List.length same
      have := shortLength left
      have := longLength right
      omega
    · rintro (whole | ⟨long,_⟩)
      · exact left (whole ▸ right)
      · exact left long
  · rw [nameShort left,nameShort right,List.append_cancel_left_eq]
    exact ⟨.inl,fun alike => alike.elim id fun cut => absurd cut.1 left⟩

end names

section edges
variable {issueType : Option Text} {criterion name : Text}

theorem fixedNames : ((allElements []).name :: Feature.edges.map Scenario.name).Nodup ∧
    ∀ name ∈ (allElements []).name :: Feature.edges.map Scenario.name,
      name.length ≤ 57 ∧ ¬ Text.ofString " - Happy Path" <:+ name := by
  decide

theorem edgeNamesAmong (issueType : Option Text) : (edgeNames issueType).Sublist (Feature.edges.map Scenario.name) :=
  (Feature.edgesAmong issueType).map _

theorem edgesNodup (issueType : Option Text) : (edgeNames issueType).Nodup :=
  (List.nodup_cons.mp fixedNames.1).2.sublist (edgeNamesAmong issueType)

theorem edgesShort (member : name ∈ edgeNames issueType) : name.length ≤ 57 :=
  (fixedNames.2 name (List.mem_cons_of_mem _ ((edgeNamesAmong issueType).subset member))).1

theorem edgeNamed : scenarioName criterion ∈ edgeNames issueType ↔ AsksEdge issueType criterion := by
  by_cases long : 50 < criterion.squeeze.length
  · refine iff_of_false (fun member => ?_) (fun member => ?_)
    · have := longLength long
      have := edgesShort member
      omega
    · have lead : (Text.ofString "Verify ").length = 7 := by decide
      have short := edgesShort member
      rw [List.length_append,lead] at short
      omega
  · rw [nameShort long,AsksEdge]

end edges

section stories
variable {s : Story}

theorem defaultsNodup (summary : Text) (elements : List Element) (issueType : Option Text) :
    ((happyPath summary).name :: (allElements elements).name :: edgeNames issueType).Nodup := by
  have among : ((allElements elements).name :: edgeNames issueType).Sublist
      ((allElements []).name :: Feature.edges.map Scenario.name) :=
    (edgeNamesAmong issueType).cons_cons (allElements []).name
  refine List.nodup_cons.mpr ⟨fun member => ?_,fixedNames.1.sublist among⟩
  exact (fixedNames.2 _ (among.subset member)).2 (List.suffix_append _ _)

theorem namesDefault (none : givenCriteria s = []) : scenarioNames s =
    (happyPath s.summary).name :: (allElements (detect s.fullText)).name :: edgeNames s.issueType := by
  have full : (detect s.fullText).isEmpty = false := by simpa using detectFull s.fullText
  simp [scenarioNames,ofStory,scenariosOf,defaults,none,full,edgeNames]

theorem namesGiven (given : givenCriteria s ≠ []) :
    scenarioNames s = (givenCriteria s).map scenarioName ++ edgeNames s.issueType := by
  have full : (givenCriteria s).isEmpty = false := by simpa using given
  simp [scenarioNames,ofStory,scenariosOf,full,edgeNames,Function.comp_def]

theorem namesNodup (s : Story) : (scenarioNames s).Nodup ↔ (givenCriteria s).Pairwise (fun a b => ¬ Alike a b) ∧
    ∀ criterion ∈ givenCriteria s, ¬ AsksEdge s.issueType criterion := by
  by_cases none : givenCriteria s = []
  · have apart : (scenarioNames s).Nodup := by
      rw [namesDefault none]
      exact defaultsNodup _ _ _
    simp [none,apart]
  · have own : ((givenCriteria s).map scenarioName).Nodup ↔ (givenCriteria s).Pairwise (fun a b => ¬ Alike a b) := by
      rw [List.Nodup,List.pairwise_map]
      exact List.Pairwise.iff fun a b => not_congr sameName
    have others : (∀ a ∈ (givenCriteria s).map scenarioName, ∀ b ∈ edgeNames s.issueType, a ≠ b) ↔
        ∀ criterion ∈ givenCriteria s, ¬ AsksEdge s.issueType criterion := by
      rw [List.forall_mem_map]
      refine forall₂_congr fun criterion _ => ?_
      rw [← edgeNamed]
      exact ⟨fun apart member => apart _ member rfl,fun other b member same => other (same ▸ member)⟩
    rw [namesGiven none,List.nodup_append,own,others]
    exact and_congr_right fun _ => and_iff_right (edgesNodup s.issueType)

/- The blocks of the feature of a story go by the names of its scenarios, which are all different
unless two criteria are alike or one asks for an edge case by its name. -/
theorem scenariosNamed (c : Context) (s : Story) :
    (Feature.ofStory c s).blocks.map (·.name) = scenarioNames s ∧
    ((scenarioNames s).Nodup ↔ (givenCriteria s).Pairwise (fun a b => ¬ Alike a b) ∧
      ∀ criterion ∈ givenCriteria s, ¬ AsksEdge s.issueType criterion) := by
  refine ⟨?_,namesNodup s⟩
  have blocks : (Feature.ofStory c s).blocks = (ofStory s).scenarios.map Feature.Block.ofScenario := rfl
  rw [blocks,List.map_map]
  rfl

def twinStory : Story := { Feature.brokenStory with
  summary := "Reset"
  criteria := ["User should see an error message when the password is wrong",
    "User should see an error message when the password is empty","error handling"]
  summary_given := by decide }

theorem twinsShadowed : ¬ (scenarioNames twinStory).Nodup ∧ AsksEdge twinStory.issueType "error handling" := by
  constructor
  · intro apart
    exact absurd ((namesNodup twinStory).mp apart).1 (by decide)
  · decide

end stories
end TestWeaver.Requirement
