import TestWeaver.Proofs.Page.Reference
import TestWeaver.Proofs.Project.Loading
import TestWeaver.Generation.FromRecording
import TestWeaver.Generation.FromTicket

/-! What a generation can fail with where its settings and its inputs hold texts: a failure that
names its stage, or the refusal of a path, of a text, of an address or of a ticket's field. -/
namespace TestWeaver
open Failure

namespace Story
variable {v : Value}

def Wrong (f : Failure) : Prop := (∃ message, f = .wrongType message) ∨ ∃ message, f = .invalid message

theorem textOfWrong (v : Value) : Only Wrong (textOf v) := by
  unfold textOf
  split
  · exact onlyOk _
  · exact onlyError (.inl ⟨_,rfl⟩)

theorem optionalTextWrong (v : Value) : Only Wrong (optionalText v) := by
  unfold optionalText
  split
  · exact onlyOk _
  · exact onlyOk _
  · split
    · exact onlyMap some (textOfWrong v)
    · exact onlyOk _

theorem eachWrong (v : Value) : Only Wrong v.each := by
  unfold Value.each
  split <;> first | exact onlyOk _ | exact onlyError (.inl ⟨_,rfl⟩)

theorem ofTicketWrong (t : Ticket) : Only Wrong (ofTicket t) := by
  refine onlyBind (textOfWrong _) fun summary _ => onlyBind (textOfWrong _) fun description _ => ?_
  refine onlyBind (onlyBind (eachWrong _) fun items _ => onlyEach fun item _ => textOfWrong item) fun criteria _ => ?_
  refine onlyBind (optionalTextWrong _) fun issueType _ => onlyBind (optionalTextWrong _) fun priority _ => ?_
  split
  · split
    · exact onlyOk _
    · exact onlyError (.inr ⟨_,rfl⟩)
  · exact onlyError (.inr ⟨_,rfl⟩)

end Story

/- The failures that no stage foresees. A path or a text has no bytes that the file system takes, an
address has no parts, or a field of a ticket is no text. -/
inductive Refused : Failure → Prop where
  | form {f : Files.PathFailure} (sort : ∀ e, f ≠ .failed e) : Refused (.ofPath f)
  | address (e : Url.UrlError) : Refused (.invalid e.message)
  | field {f : Failure} (t : Ticket) (read : Story.ofTicket t = .error f) : Refused f

def Expected (f : Failure) : Prop := f.stage?.isSome ∨ Refused f

theorem ofPathEnds (f : Files.PathFailure) : (∃ e, Failure.ofPath f = .file e) ∨ Refused (.ofPath f) := by
  cases f with
  | embeddedNull => exact .inr (@Refused.form .embeddedNull (by rintro e ⟨⟩))
  | unencodable e => exact .inr (@Refused.form (.unencodable e) (by rintro e ⟨⟩))
  | failed e => exact .inl ⟨e,rfl⟩

theorem refusedBare {f : Failure} (refused : Refused f) : f.stage? = none ∧ ∀ e, f ≠ .file e := by
  cases refused with
  | @form g sort =>
    cases g with
    | embeddedNull => exact ⟨rfl,by rintro e ⟨⟩⟩
    | unencodable e => exact ⟨rfl,by rintro e ⟨⟩⟩
    | failed e => exact absurd rfl (sort e)
  | address e => exact ⟨rfl,by rintro e ⟨⟩⟩
  | field t read =>
    rcases Story.ofTicketWrong t f read with ⟨message,rfl⟩ | ⟨message,rfl⟩
    · exact ⟨rfl,by rintro e ⟨⟩⟩
    · exact ⟨rfl,by rintro e ⟨⟩⟩

namespace Page
variable {address base : Value}

theorem pathOfRefused (url base : Text) : Only Refused ((pathOf url base).mapError fun e => .invalid e.message) := by
  cases pathOf url base with
  | ok path => exact onlyOk path
  | error e => exact onlyError (.address e)

theorem pathForRefused (told : address.IsTextOrNull) (based : base.IsText) : Only Refused (pathFor address base) := by
  unfold pathFor
  split
  · exact onlyOk _
  · rename_i given
    obtain ⟨url,rfl⟩ := Value.givenText told (by simpa using given)
    obtain ⟨t,rfl⟩ := based
    refine onlyBind (onlyOk url) fun url _ => ?_
    simp only
    split
    · exact onlyBind (onlyOk t) fun base _ => pathOfRefused url base
    · exact pathOfRefused url []

theorem firstAddressText {actions : List Action} (texts : ∀ a ∈ actions, a.value.IsTextOrNull) :
    (firstAddress actions).IsText := by
  unfold firstAddress
  cases found : ((actions.filter Action.isNavigation).map (·.value)).find? Value.isGiven with
  | none => exact ⟨[],rfl⟩
  | some v =>
    obtain ⟨a,member,rfl⟩ := List.mem_map.mp (List.mem_of_find?_eq_some found)
    exact Value.givenText (texts a (List.mem_filter.mp member).1) (List.find?_some found)

theorem addressText {actions : List Action} {pageUrl : Value} (texts : ∀ a ∈ actions, a.value.IsTextOrNull)
    (told : pageUrl.IsTextOrNull) : (addressOf actions pageUrl).IsTextOrNull := by
  rcases told with rfl | ⟨t,rfl⟩
  · exact .inr (firstAddressText fun a member => texts a (Action.memInOrder.mp member))
  · exact .inr ⟨t,rfl⟩

end Page

theorem Recording.recordedTexts (t : Transcript) : ∀ a ∈ t.actions, a.value.IsTextOrNull := by
  have numbered : ∀ calls given, ∀ a ∈ Transcript.number given calls, a.value.IsTextOrNull := by
    intro calls
    induction calls with
    | nil =>
      rintro given a ⟨⟩
    | cons call calls ih =>
      intro given a member
      rcases List.mem_cons.mp member with rfl | later
      · cases call with
        | navigate url => exact .inr ⟨url,rfl⟩
        | act kind selector value given =>
          cases value with
          | none => exact .inl rfl
          | some value => exact .inr ⟨value,rfl⟩
      · exact ih (given + 1) a later
  unfold Transcript.actions
  split
  · exact numbered _ 0
  · exact numbered _ 0

namespace Generation
open Work

variable {s : Settings} {v : Value}

structure Settings.Texts (s : Settings) : Prop where
  baseUrl : s.baseUrl.IsText
  pages : s.pagesDir.IsText
  features : s.featuresDir.IsText
  steps : s.stepsDir.IsText

theorem needExpected (name : Text) (told : v.IsTextOrNull) : Only Expected (need v name) := by
  rcases told with rfl | ⟨t,rfl⟩
  · exact onlyError (.inl rfl)
  · unfold need
    split
    · exact onlyError (.inl rfl)
    · refine onlyBind (onlyOk t) fun t _ => ?_
      split
      · exact onlyError (.inl rfl)
      · exact onlyOk t

theorem fetchExpected (source : TicketSource) (key : Text) : FailsWith Expected (fetch source key) := by
  intro session f fails
  unfold fetch at fails
  cases answers : source key session with
  | mk r next =>
    rw [bindRun (attemptRun answers)] at fails
    rcases r with f | none | ticket
    · cases fails
      exact .inl rfl
    · cases fails
      exact .inl rfl
    · cases fails

theorem layoutMade (texts : s.Texts) (className : Text) : ∃ l, s.layout className = .ok l := by
  obtain ⟨pages,paged⟩ := texts.pages
  obtain ⟨features,featured⟩ := texts.features
  obtain ⟨steps,stepped⟩ := texts.steps
  unfold Settings.layout
  rw [paged,featured,stepped]
  exact ⟨_,rfl⟩

theorem placedMade {outputDir : Value} (texts : s.Texts) (output : outputDir.IsText) (className : Text) :
    ∃ l, s.placed outputDir className = .ok l := by
  obtain ⟨out,rfl⟩ := output
  obtain ⟨pages,paged⟩ := texts.pages
  obtain ⟨features,featured⟩ := texts.features
  obtain ⟨steps,stepped⟩ := texts.steps
  unfold Settings.placed
  rw [paged,featured,stepped]
  exact ⟨_,rfl⟩

theorem giveUpExpected (w : Writing) (a : Artifact) (path : Text) (f : Files.PathFailure) :
    Expected (w.giveUp a path (.ofPath f)).2 := by
  rcases ofPathEnds f with ⟨e,same⟩ | refused
  · rw [same]
    exact .inl rfl
  · have bare := (refusedBare refused).2
    cases f with
    | failed e => exact absurd rfl (bare e)
    | embeddedNull => exact .inr refused
    | unencodable e => exact .inr refused

theorem putAllExpected (l : Layout) (contents : Contents) (artifacts : List Artifact) (w : Writing) :
    ∀ f, (w.putAll l contents artifacts).2 = some f → Expected f := by
  induction artifacts generalizing w with
  | nil =>
    rintro f ⟨⟩
  | cons a rest ih =>
    intro f ended
    unfold Writing.putAll at ended
    simp only at ended
    split at ended
    · cases ended
      exact .inl rfl
    · split at ended
      · rename_i g _
        cases ended
        exact giveUpExpected _ a _ g
      · exact ih _ f ended

theorem writeExpected (l : Layout) (contents : Contents) : FailsWith Expected (write l contents) := by
  intro session f fails
  unfold write at fails
  rw [bindRun (filesRun session)] at fails
  cases run : Writing.putAll { files := session.files } l contents Artifact.all with
  | mk w failure =>
    rw [run] at fails
    simp only at fails
    rw [bindRun (setFilesRun _ session),bindRun (logRun _ _)] at fails
    cases failure with
    | none => cases fails
    | some g =>
      cases fails
      exact putAllExpected l contents Artifact.all _ f (congrArg Prod.snd run)

theorem finishExpected {outputDir : Value} (texts : s.Texts) (output : outputDir.IsText) (c : Context) (d : Documents)
    (mode : Mode) (storyKey : Value) (warnings : List Text) :
    FailsWith Expected (finish s c outputDir d mode storyKey warnings) := by
  obtain ⟨l,placed⟩ := placedMade texts output d.page.className
  unfold finish
  rw [placed]
  refine failsBind (failsExcept (onlyOk l)) fun l => failsBind (writeExpected l d.contents) fun files => ?_
  exact failsBind (failsLog _) fun _ => failsPure _

theorem buildPageExpected {actions : List Action} {pageUrl : Value} (texts : s.Texts)
    (address : (Page.addressOf actions pageUrl).IsTextOrNull) (className : Text) (storyKey : Value) :
    FailsWith Expected (buildPage s actions className storyKey pageUrl) := by
  unfold buildPage
  rw [Page.buildOnPath]
  refine failsBind (failsExcept (onlyMap _ ?_)) fun made => failsBind (failsLog _) fun _ => failsPure _
  exact fun f fails => .inr (Page.pathForRefused address texts.baseUrl f fails)

theorem fromRecordingExpected {recording : Text} {featureName storyKey pageUrl outputDir : Value} (texts : s.Texts)
    (feature : featureName.IsTextOrNull) (story : storyKey.IsTextOrNull) (url : pageUrl.IsTextOrNull)
    (output : outputDir.IsText) :
    FailsWith Expected (fromRecording s { recording := .text recording, featureName, storyKey, pageUrl, outputDir }) := by
  refine failsBind (failsExcept ?_) fun ⟨feature,story⟩ => ?_
  · exact onlyBind (needExpected _ feature) fun feature _ => onlyBind (needExpected _ story) fun story _ => onlyOk _
  refine failsBind (failsExcept ?_) fun recording => failsBind (failsLog _) fun _ => ?_
  · cases recording <;> exact onlyOk _
  refine failsBind (buildPageExpected texts (Page.addressText ?_ url) _ _) fun ⟨page,c⟩ => ?_
  · intro a member
    obtain ⟨b,recorded,rfl⟩ := List.mem_map.mp member
    exact Recording.recordedTexts _ b recorded
  obtain ⟨l,layout⟩ := layoutMade texts (Naming.className feature)
  rw [layout]
  refine failsBind (failsLog _) fun _ => failsBind (failsExcept (onlyOk l)) fun l => failsBind (failsLog _) fun _ => ?_
  exact finishExpected texts output _ _ _ _ _

theorem fromTicketExpected {key outputDir pageUrl : Value} (source : TicketSource) (texts : s.Texts)
    (told : key.IsTextOrNull) (url : pageUrl.IsText) (output : outputDir.IsText) :
    FailsWith Expected (fromTicket s source { key, outputDir, pageUrl }) := by
  obtain ⟨url,rfl⟩ := url
  refine failsBind (failsExcept (needExpected _ told)) fun key => failsBind (fetchExpected source _) fun ticket => ?_
  refine failsBind (failsExcept fun f fails => .inr (.field ticket fails)) fun story => failsBind (failsLog _) fun _ => ?_
  refine failsBind (buildPageExpected texts (.inr ⟨url,rfl⟩) _ _) fun ⟨page,c⟩ => ?_
  obtain ⟨l,layout⟩ := layoutMade texts (Requirement.ofStory story).name
  rw [layout]
  refine failsBind (failsLog _) fun _ => failsBind (failsExcept (onlyOk l)) fun l => failsBind (failsLog _) fun _ => ?_
  exact finishExpected texts output _ _ _ _ _

end Generation
end TestWeaver
