import TestWeaver.Proofs.Generation.Documents
import TestWeaver.Proofs.Session

/-! A run that ends well has made the three documents of its actions in one fresh context; its
result tells what stands in them. -/
namespace TestWeaver

namespace Generation

theorem ofExceptOk {α : Type} {e : Except Failure α} {a : α} {session next : Session}
    (ok : Work.ofExcept e session = (.ok a,next)) : e = .ok a := congrArg Prod.fst ok

structure Tells (r : Result) (d : Documents) (c : Context) : Prop where
  constants : r.constants = d.page.constants.map (·.name)
  methods : r.methods = d.page.methods.map (·.name)
  steps : r.steps = d.steps.handlers.map (·.pattern)
  skipped : r.skippedDuplicates = c.skippedCount

theorem finishOk {s : Settings} {c : Context} {outputDir : Value} {d : Documents} {mode : Mode} {storyKey : Value}
    {warnings : List Text} {session : Session} {r : Result}
    (ok : (finish s c outputDir d mode storyKey warnings session).1 = .ok r) : Tells r d c := by
  unfold finish at ok
  obtain ⟨layout,_,_,ok⟩ := Work.bindOk ok
  obtain ⟨files,_,_,ok⟩ := Work.bindOk ok
  obtain ⟨_,_,_,ok⟩ := Work.bindOk ok
  cases ok
  exact ⟨rfl,rfl,rfl,rfl⟩

theorem buildPageOk {s : Settings} {actions : List Action} {className : Text} {storyKey pageUrl : Value}
    {session next : Session} {page : Page.Module} {c : Context}
    (ok : buildPage s actions className storyKey pageUrl session = (.ok (page,c),next)) :
    Page.Module.build {} actions s.baseUrl className storyKey pageUrl = .ok (page,c) := by
  unfold buildPage at ok
  obtain ⟨⟨p,d⟩,_,built,ok⟩ := Work.bindOk (congrArg Prod.fst ok)
  obtain ⟨_,_,_,ok⟩ := Work.bindOk ok
  cases ok
  exact ofExceptOk built

theorem fromRecordingDocuments {s : Settings} {i : RecordingInput} {session : Session} {r : Result}
    (ok : (fromRecording s i session).1 = .ok r) :
    ∃ featureName storyKey recording l d c, i.needed = .ok (featureName,storyKey) ∧
      recordingText i.recording = .ok recording ∧ s.layout (Naming.className featureName) = .ok l ∧
      documentsOfActions ((Recording.Transcript.ofText Recording.defaultShapes recording).actions.map Action.resolve)
        s.baseUrl (Naming.className featureName) (.text storyKey) i.pageUrl l = .ok (d,c) ∧ Tells r d c := by
  unfold fromRecording at ok
  obtain ⟨⟨featureName,storyKey⟩,_,needed,ok⟩ := Work.bindOk ok
  obtain ⟨recording,_,text,ok⟩ := Work.bindOk ok
  obtain ⟨_,_,_,ok⟩ := Work.bindOk ok
  obtain ⟨⟨page,c⟩,_,built,ok⟩ := Work.bindOk ok
  obtain ⟨_,_,_,ok⟩ := Work.bindOk ok
  obtain ⟨l,_,layout,ok⟩ := Work.bindOk ok
  obtain ⟨_,_,_,ok⟩ := Work.bindOk ok
  refine ⟨featureName,storyKey,recording,l,_,_,ofExceptOk needed,ofExceptOk text,ofExceptOk layout,?_,finishOk ok⟩
  rw [documentsOfActions,buildPageOk built]
  rfl

end Generation
end TestWeaver
