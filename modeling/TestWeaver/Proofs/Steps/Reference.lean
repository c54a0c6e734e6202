import TestWeaver.Proofs.Files.Relative
import TestWeaver.Proofs.Steps.Functions
import TestWeaver.Steps.Source

/-! The reference to the feature file in step definitions. It is made from the directories of the features and the
steps alone, and leads from the steps to the feature file, wherever the output directory is. -/
namespace TestWeaver.Steps
open TestWeaver.Path (Inside)

section kept
variable {c : Context} {m : Module}

theorem addActionReference (a : Action) : (m.addAction c a).1.featureFile = m.featureFile := by
  unfold Module.addAction
  simp only
  split <;> rfl

theorem addActionsReference (actions : List Action) : (m.addActions c actions).1.featureFile = m.featureFile := by
  induction actions generalizing m c with
  | nil => rfl
  | cons a rest ih =>
    unfold Module.addActions
    split
    · exact ih
    · exact ih.trans (addActionReference a)

theorem addUsesReference (named : List (Text × Action)) (uses : StepUses) :
    (m.addUses c named uses).1.featureFile = m.featureFile := by
  induction uses generalizing m c with
  | nil => rfl
  | cons use rest ih =>
    obtain ⟨text,types⟩ := use
    rcases addUsesStep m c named text types rest with ⟨_,d,same,_⟩ | ⟨d,h,same,_⟩
    · rw [same]
      exact ih
    · rw [same]
      exact ih

end kept

structure Referenced (l : Layout) (m : Module) : Prop where
  written : ∃ before behind,
    m.text = Page.sourceOf (before ++ ("scenarios(" ++ l.featureReference.quoted ++ ")") :: behind)
  leads : Path.normal (Path.join (Path.join l.outputDir l.directories.steps) l.featureReference) =
    Path.normal l.featurePath
  relative : Path.isAbsolute l.featureReference = false
  slashed : l.featureReference = "." ∨ ∃ parts, l.featureReference = Text.join "/" parts ∧
    ∀ part ∈ parts, part = ".." ∨ part = l.featureName ∨ part ∈ Path.segments l.directories.features
  plain : .char '\\' ∈ l.featureReference → .char '\\' ∈ l.directories.features

section reference
variable {l : Layout} {m : Module}

theorem referenceWritten (held : m.featureFile = l.featureReference) : ∃ before behind,
    m.text = Page.sourceOf (before ++ ("scenarios(" ++ l.featureReference.quoted ++ ")") :: behind) := by
  rw [← held]
  exact ⟨m.source.head.take 14,_,by rw [Module.text,Source.text]; rfl⟩

theorem featureReferred (features : Inside l.directories.features) (steps : Inside l.directories.steps)
    (held : m.featureFile = l.featureReference) : Referenced l m := by
  obtain ⟨found,begins⟩ := Path.insideLeads steps
  obtain ⟨reached,arrives⟩ := Path.insideLeads features
  have proper : Path.Proper l.featureName := l.fileNameProper .specification
  have nameRelative := Path.freeRelative proper.free
  have pathSegments := Path.segmentsJoin proper l.directories.features
  have ends := Path.leadsName proper arrives
  rw [← pathSegments] at ends
  have pathRelative := (Path.rootJoin nameRelative l.directories.features).2.trans features.relative
  obtain ⟨shared,left,entered,seen⟩ := Path.relativeSeen steps.relative pathRelative begins ends l.working
  have parts : ∀ part ∈ Path.segments l.featureReference,
      part = ".." ∨ part = l.featureName ∨ part ∈ Path.segments l.directories.features := by
    intro part member
    rw [show Path.segments l.featureReference = _ from seen.parts] at member
    rcases List.mem_append.mp member with upward | inside
    · exact .inl (List.eq_of_mem_replicate upward)
    · have below := (ends.within part (List.mem_reverse.mp (seen.target ▸ List.mem_append_right shared inside))).1
      rw [List.nil_append,pathSegments] at below
      rcases List.mem_append.mp below with directory | name
      · exact .inr (.inr directory)
      · exact .inr (.inl (List.mem_singleton.mp name))
  refine ⟨referenceWritten held,?_,seen.relative,?_,?_⟩
  · have led := Path.relativeLeads steps.relative pathRelative begins ends l.outputDir l.working
    exact led.trans (Path.normalNested features.relative nameRelative l.outputDir)
  · rcases seen.joined with here | joined
    · exact .inl here
    · exact .inr ⟨_,joined,parts⟩
  · intro member
    rcases seen.joined with here | joined
    · rw [show l.featureReference = _ from here] at member
      exact absurd member (by decide)
    · rw [show l.featureReference = _ from joined] at member
      rcases Text.memJoin member with between | ⟨part,listed,inside⟩
      · exact absurd between (by decide)
      · rcases parts part listed with rfl | rfl | directory
        · exact absurd inside (by decide)
        · rcases List.mem_append.mp inside with stem | extension
          · rcases Naming.snakeWithin stem with alnum | line
            · exact absurd alnum (by decide)
            · exact absurd line (by decide)
          · exact absurd extension (by decide)
        · exact (Path.segmentsOwn l.directories.features part directory).2 inside

end reference

theorem featureReferenced {l : Layout} (features : Inside l.directories.features) (steps : Inside l.directories.steps)
    (c : Context) (actions : List Action) : Referenced l (Module.ofActions c actions l).1 ∧
      ∀ r : Requirement, Referenced l (Module.ofRequirement c r actions l).1 :=
  ⟨featureReferred features steps (addActionsReference _),
    fun _ => featureReferred features steps (addUsesReference _ _)⟩

def oddLayout : Layout where
  outputDir := "/srv//out/"
  className := "Login"
  directories := { features := "specs//./old/../login/", steps := "specs/steps/.//deep" }

theorem oddLayoutReferenced : Inside oddLayout.directories.features ∧ Inside oddLayout.directories.steps ∧
    oddLayout.featureReference = "../../login/login.feature" ∧
    Referenced oddLayout (Module.ofActions {} [] oddLayout).1 :=
  ⟨by decide +kernel,by decide +kernel,by decide +kernel,(featureReferenced (by decide +kernel) (by decide +kernel) {} []).1⟩

end TestWeaver.Steps
