import TestWeaver.Proofs.Generation.Failures
import TestWeaver.Proofs.Project.Directory
import TestWeaver.Workflow.Run

/-! How every workflow ends, by the step that decides it. A failure of a stage, a recording that the
file system does not give out and a project whose stories cannot be asked for are told in an outcome. -/
namespace TestWeaver

structure Inputs.Texts (i : Inputs) : Prop where
  recording : i.recording.IsTextOrNull
  featureName : i.featureName.IsTextOrNull
  story : i.story.IsTextOrNull
  key : i.key.IsTextOrNull
  testName : i.testName.IsTextOrNull
  url : i.url.IsTextOrNull
  outputDir : i.outputDir.IsTextOrNull

namespace Project
variable {p : Project} {i : Inputs}
open Failure Value

theorem settingsTexts (valid : p.Valid) (working : List Text) : (p.settings working).Texts where
  baseUrl := valid.baseUrl
  pages := valid.pages
  features := valid.features
  steps := valid.steps

theorem outputText (valid : p.Valid) (texts : i.Texts) : (p.outputDir i).IsText :=
  orElseText texts.outputDir valid.directory

theorem announcedMade (valid : p.Valid) (title : Text) : ∀ line ∈ [.ok "",.ok title,p.announced],
    ∃ t : Text, line = (.ok t : Except LongNumeral Text) := by
  unfold announced
  rw [writtenText valid.id,writtenText valid.name]
  simp [bind,Except.bind,pure,Except.pure]

theorem clientRefused {a : Tracker.Account} (address : a.baseUrl.IsText) (email : a.email.IsText) :
    Only (fun f => f.isRefusedValue) (Tracker.Client.ofAccount a) := by
  have proof : Only (fun f => f.isRefusedValue) (Tracker.Client.authorizationOf a.email a.token) := by
    unfold Tracker.Client.authorizationOf
    rw [writtenText email]
    refine onlyBind (onlyOk _) fun email _ => ?_
    split
    · exact onlyOk _
    · exact onlyError rfl
  obtain ⟨url,found⟩ := address
  unfold Tracker.Client.ofAccount
  simp only
  split
  · exact onlyError rfl
  split
  · exact onlyError rfl
  split
  · exact onlyError rfl
  rw [found]
  exact onlyBind (onlyOk url) fun url _ => onlyBind proof fun authorization _ => onlyOk _

theorem storiesRefused (valid : p.Valid) : Only (fun f => f.isRefusedValue) p.stories := by
  unfold stories storiesAt
  split
  · split
    · exact onlyError rfl
    · rename_i a account
      obtain ⟨address,email⟩ := valid.account a account
      exact onlyBind (onlyBind (clientRefused address email) fun client _ => onlyOk _) fun source _ => onlyOk _
  · obtain ⟨directory,told⟩ := valid.stories
    rw [told]
    exact onlyOk _

end Project

namespace Workflow
open Failure Value Generation

def recordingIn (session : Session) (source : Value) : Except Failure Text := do
  let path ← source.path
  if path = "-" then return session.input.withLineFeeds
  let content ← (session.files.read path).mapError Failure.ofPath
  let t ← (Utf8.decode content).mapError .undecodable
  return t.withLineFeeds

structure Untouched (session next : Session) : Prop where
  files : next.files = session.files
  tracker : next.tracker = session.tracker
  records : next.records = session.records
  exchanges : next.exchanges = session.exchanges

inductive Generates (p : Project) (i : Inputs) (session : Session) : Workflow → Except Failure Result → Prop where
  | record {recording before} (read : recordingIn session i.recording = .ok recording)
      (untouched : Untouched session before) : Generates p i session .record
        (fromRecording (p.settings session.files.working) {
          recording := .text recording, featureName := i.featureName, storyKey := i.story, pageUrl := i.url
          outputDir := p.outputDir i } before).1
  | ticket {source before} (stories : p.stories = .ok source) (untouched : Untouched session before) :
      Generates p i session .ticket
        (fromTicket (p.settings session.files.working) source.ticket {
          key := i.key, outputDir := p.outputDir i, pageUrl := i.url.orElse (.text []) } before).1

def validation (s : Structure) : Outcome where
  status := if s.isValid then .success else .failed
  message := if s.isValid then "All artifacts present" else "Missing " ++ Text.ofNat s.missing.length ++ " artifact(s)"
  findings := .validation s

def listing (ids : List Text) : Outcome where
  status := .success
  message := "Found " ++ Text.ofNat ids.length ++ " projects"
  findings := .projects ids

/- How a workflow ends that is told what it needs. Only what is refused where a recording is read,
or where artifacts are generated, ends it without an outcome. -/
inductive Ended (p : Project) (i : Inputs) (session : Session) : Workflow → Except Failure Outcome → Prop where
  | validated {s}
      (looks : (Generation.validate (p.settings session.files.working) i.testName (p.outputDir i) session).1 = .ok s) :
      Ended p i session .validate (.ok (validation s))
  | listed (ids : List Text) : Ended p i session .listProjects (.ok (listing ids))
  | unread {e} (read : recordingIn session i.recording = .error (.file e)) : Ended p i session .record
      (.ok (.failure ("Failed to read recording " ++ i.recording.shown ++ ": " ++ e.message)))
  | unreadable {f} (read : recordingIn session i.recording = .error f) (refused : Refused f) :
      Ended p i session .record (.error f)
  | undecodable {e} (read : recordingIn session i.recording = .error (.undecodable e)) :
      Ended p i session .record (.error (.undecodable e))
  | unconfigured {f} (stories : p.stories = .error f) : Ended p i session .ticket
      (.ok (.failure ("Invalid project configuration: " ++ f.message)))
  | generated {w r} (made : Generates p i session w (.ok r)) : Ended p i session w (.ok (generated r))
  | foreseen {w f stage} (made : Generates p i session w (.error f)) (staged : f.stage? = some stage) :
      Ended p i session w (.ok (.failure ("[" ++ stage ++ "] " ++ f.message)))
  | refused {w f} (made : Generates p i session w (.error f)) (refused : Refused f) : Ended p i session w (.error f)

section pieces
variable {session next : Session}

theorem sayAllRun (lines : List Text) (session : Session) :
    ∃ printed, sayAll lines session = (.ok (),{ session with printed }) := by
  induction lines generalizing session with
  | nil => exact ⟨session.printed,rfl⟩
  | cons line lines ih =>
    obtain ⟨printed,run⟩ := ih { session with printed := session.printed ++ line ++ "\n" }
    exact ⟨printed,run⟩

theorem sayEachRun {lines : List (Except LongNumeral Text)} (made : ∀ line ∈ lines, ∃ t, line = .ok t)
    (session : Session) : ∃ printed, sayEach lines session = (.ok (),{ session with printed }) := by
  induction lines generalizing session with
  | nil => exact ⟨session.printed,rfl⟩
  | cons line lines ih =>
    obtain ⟨t,rfl⟩ := made line List.mem_cons_self
    obtain ⟨printed,run⟩ := ih (fun line member => made line (List.mem_cons_of_mem _ member))
      { session with printed := session.printed ++ t ++ "\n" }
    exact ⟨printed,run⟩

theorem recordingInFile {source : Value} {path : Text} (given : source.path = .ok path) (file : path ≠ "-")
    (session : Session) : recordingIn session source = ((session.files.read path).mapError Failure.ofPath).bind
      fun content => ((Utf8.decode content).mapError .undecodable).map Text.withLineFeeds := by
  unfold recordingIn
  rw [given]
  exact if_neg file

theorem readRecordingRun (source : Value) (session : Session) :
    ∃ input, readRecording source session = (recordingIn session source,{ session with input }) := by
  cases given : source.path with
  | error f =>
    refine ⟨session.input,?_⟩
    unfold readRecording recordingIn
    rw [given]
    rfl
  | ok path =>
    by_cases file : path = "-"
    · subst file
      refine ⟨[],?_⟩
      unfold readRecording recordingIn
      rw [given]
      rfl
    · refine ⟨session.input,?_⟩
      rw [recordingInFile given file]
      unfold readRecording
      rw [Work.bindRun (Work.ofExceptRun given session)]
      simp only [if_neg file]
      rw [Work.bindRun (Work.filesRun session)]
      cases session.files.read path with
      | error f => rfl
      | ok content =>
        simp only [Except.mapError,Except.bind]
        rw [Work.bindRun (Work.ofExceptRun rfl session)]
        cases Utf8.decode content <;> rfl

theorem readRefused {source : Value} (told : source.IsText) (session : Session) :
    Only (fun f => (∃ e, f = .file e) ∨ (∃ e, f = .undecodable e) ∨ Refused f) (recordingIn session source) := by
  obtain ⟨path,rfl⟩ := told
  by_cases file : path = "-"
  · subst file
    exact onlyOk _
  · rw [recordingInFile rfl file]
    cases session.files.read path with
    | error g => exact onlyError ((ofPathEnds g).imp id .inr)
    | ok content =>
      refine onlyMap _ ?_
      cases Utf8.decode content with
      | error e => exact onlyError (.inr (.inl ⟨e,rfl⟩))
      | ok t => exact onlyOk t

def concluded : Except Failure Result → Except Failure Outcome
  | .ok r => .ok (Workflow.generated r)
  | .error f =>
    match f.stage? with
    | some stage => .ok (.failure ("[" ++ stage ++ "] " ++ f.message))
    | none => .error f

theorem concludeRun (work : Work Result) (session : Session) :
    (conclude work session).1 = concluded (work session).1 := by
  cases run : work session with
  | mk r next =>
    unfold conclude
    rw [Work.bindRun (Work.attemptRun run)]
    cases r with
    | ok r =>
      obtain ⟨printed,said⟩ := sayAllRun ([([] : Text),"[3/3] Artifacts written"] ++ summary r) next
      simp only
      rw [Work.bindRun said]
      rfl
    | error f => cases staged : f.stage? <;> simp only [concluded,staged] <;> rfl

end pieces

section ends
variable {p : Project} {i : Inputs} {session : Session}

theorem concludedEnds {w : Workflow} {r : Except Failure Result} (made : Generates p i session w r)
    (expected : Only Expected r) : Ended p i session w (concluded r) := by
  cases r with
  | ok r => exact .generated made
  | error f =>
    cases staged : f.stage? with
    | some stage =>
      simp only [concluded,staged]
      exact .foreseen made staged
    | none =>
      simp only [concluded,staged]
      refine .refused made ((expected f rfl).resolve_left ?_)
      simp [staged]

theorem recordEnds (valid : p.Valid) (texts : i.Texts) (recording : i.recording.IsText) (session : Session) :
    Ended p i session .record (runRecord p i session).1 := by
  obtain ⟨opened,opens⟩ := sayEachRun (Project.announcedMade valid "Workflow: Generate From Recording") session
  obtain ⟨told,tells⟩ := sayAllRun ["Feature: " ++ i.featureName.shown,"Story: " ++ i.story.shown,"",
    "[1/3] Reading recording..."] { session with printed := opened }
  obtain ⟨input,reads⟩ : ∃ input, readRecording i.recording { session with printed := told } =
      (recordingIn session i.recording,{ session with printed := told, input }) := readRecordingRun _ _
  unfold runRecord
  rw [Work.bindRun opens,Work.bindRun tells,Work.bindRun (Work.attemptRun reads)]
  cases read : recordingIn session i.recording with
  | error f =>
    -- only a condition of the file system is told
    rcases readRefused recording session f read with ⟨e,rfl⟩ | ⟨e,rfl⟩ | refused
    · exact .unread read
    · exact .undecodable read
    · have bare := (refusedBare refused).2
      cases f <;> first | exact .unreadable read refused | exact absurd rfl (bare _)
  | ok recording =>
    simp only
    obtain ⟨printed,counts⟩ := sayAllRun ["  Lines: " ++ Text.ofNat recording.lines.length,"",
      "[2/3] Generating artifacts..."] { session with printed := told, input }
    rw [Work.bindRun counts,Work.bindRun (Work.filesRun _),concludeRun]
    refine concludedEnds (.record read ⟨rfl,rfl,rfl,rfl⟩) ?_
    exact fromRecordingExpected (Project.settingsTexts valid _) texts.featureName texts.story texts.url
      (Project.outputText valid texts) _

theorem undecodableEnds {e : Utf8.DecodeError} {result : Except Failure Outcome}
    (read : recordingIn session i.recording = .error (.undecodable e)) (ended : Ended p i session .record result) :
    result = .error (.undecodable e) := by
  have unmade : ∀ r, ¬Generates p i session .record r := by
    rintro r ⟨other,_⟩
    rw [read] at other
    cases other
  cases ended with
  | unread other =>
    rw [read] at other
    cases other
  | unreadable other refused => rw [← Except.error.inj (read.symm.trans other)]
  | undecodable other => rw [← Except.error.inj (read.symm.trans other)]
  | generated made => exact absurd made (unmade _)
  | foreseen made staged => exact absurd made (unmade _)
  | refused made refused => exact absurd made (unmade _)

theorem ticketEnds (valid : p.Valid) (texts : i.Texts) (session : Session) :
    Ended p i session .ticket (runTicket p i session).1 := by
  obtain ⟨opened,opens⟩ := sayEachRun (Project.announcedMade valid "Workflow: Generate From Ticket") session
  obtain ⟨told,tells⟩ := sayAllRun ["Source Platform: " ++ p.platform.name.upper,"Ticket: " ++ i.key.shown,"",
    "[1/3] Connecting to " ++ p.platform.name.upper ++ "..."] { session with printed := opened }
  unfold runTicket
  rw [Work.bindRun opens,Work.bindRun tells]
  cases stories : p.stories with
  | error f =>
    simp only [Project.storiesRefused valid f stories,↓reduceIte]
    exact .unconfigured stories
  | ok source =>
    simp only
    obtain ⟨printed,asks⟩ := sayAllRun ["","[2/3] Fetching story and generating artifacts..."]
      { session with printed := told }
    rw [Work.bindRun asks,Work.bindRun (Work.filesRun _),concludeRun]
    refine concludedEnds (.ticket stories ⟨rfl,rfl,rfl,rfl⟩) ?_
    exact fromTicketExpected _ (Project.settingsTexts valid _) texts.key (orElseText texts.url ⟨[],rfl⟩)
      (Project.outputText valid texts) _

theorem validateEnds (valid : p.Valid) (texts : i.Texts) (session : Session) :
    Ended p i session .validate (runValidate p i session).1 := by
  obtain ⟨className,named⟩ : ∃ className, classNameOf i.testName = .ok className := by
    obtain ⟨name,told⟩ := orElseText texts.testName ⟨[],rfl⟩
    unfold classNameOf
    rw [told]
    exact ⟨_,rfl⟩
  obtain ⟨l,placed⟩ := placedMade (Project.settingsTexts valid session.files.working) (Project.outputText valid texts)
    className
  have validated : Generation.validate (p.settings session.files.working) i.testName (p.outputDir i) session =
      (.ok (structureOf session.files l),session) := by
    have layout : (do (p.settings session.files.working).placed (p.outputDir i) (← classNameOf i.testName)) = .ok l := by
      rw [named]
      exact placed
    unfold Generation.validate
    rw [Work.bindRun (Work.ofExceptRun layout session)]
    rfl
  unfold runValidate
  rw [Work.bindRun (Work.filesRun session),Work.bindRun validated]
  obtain ⟨printed,shows⟩ := sayAllRun ([([] : Text),"Structure of " ++ i.testName.shown,""] ++
    (structureOf session.files l).paths.map fun entry => ("  " : Text) ++ entry.1.name ++ ": " ++ entry.2 ++
      " [" ++ (if (structureOf session.files l).missing.contains entry.2 then ("missing" : Text) else "ok") ++ "]") session
  rw [Work.bindRun shows]
  have ended := Ended.validated (congrArg Prod.fst validated)
  unfold validation at ended
  split
  · rename_i valid
    rwa [if_pos valid,if_pos valid] at ended
  · rename_i invalid
    rwa [if_neg invalid,if_neg invalid] at ended

end ends

section run
variable {r : Registry} {e k : Environment} {id : Value} {i : Inputs} {session : Session}

theorem idsMade (valid : r.Valid) : ∃ ids, r.ids = .ok ids := by
  refine onlyNone (onlyBind (onlyEach fun entry member => ?_) fun ids _ => onlyOk _)
  obtain ⟨t,key⟩ := valid.keys entry member
  obtain ⟨id,p⟩ := entry
  cases key
  exact onlyOk t

theorem describedMade {p current : Project} (valid : p.Valid) (id : Text) :
    ∀ line ∈ described current id p, ∃ t, line = .ok t := by
  unfold described
  rw [writtenText valid.name,writtenText valid.directory]
  simp [Except.map]

theorem listEnds {p : Project} (valid : r.Valid) (session : Session) :
    Ended p i session .listProjects (runListProjects r p session).1 := by
  obtain ⟨ids,made⟩ := idsMade valid
  have lines : ∀ line ∈ ids.flatMap fun id => ((r.find? (.text id)).map (described p id)).getD [],
      ∃ t, line = .ok t := by
    intro line member
    obtain ⟨id,_,among⟩ := List.mem_flatMap.mp member
    cases found : r.find? (.text id) with
    | none =>
      rw [found] at among
      cases among
    | some q =>
      rw [found] at among
      exact describedMade (Registry.foundValid valid found) id line among
  obtain ⟨opened,opens⟩ := sayAllRun [[],"Available Projects",""] session
  obtain ⟨printed,lists⟩ := sayEachRun lines { session with printed := opened }
  unfold runListProjects
  rw [Work.bindRun (Work.ofExceptRun made session),Work.bindRun opens,Work.bindRun lists]
  exact .listed ids

theorem currentKnown (valid : r.Valid) (e : Environment) : ∃ p, r.current e = some p ∧ p.Valid := by
  have known : ∀ {id}, (∃ p, r.find? id = some p) → ∃ p, r.find? id = some p ∧ p.Valid :=
    fun ⟨p,found⟩ => ⟨p,found,Registry.foundValid valid found⟩
  unfold Registry.current
  split
  · rename_i id active
    exact known (valid.active id (Option.filter_eq_some_iff.mp active).1)
  · cases preferred : r.find? (.text e.defaultProject) with
    | none => exact known valid.builtIn
    | some p => exact ⟨p,rfl,Registry.foundValid valid preferred⟩

def chosen? (r : Registry) (e : Environment) (id : Value) : Option Project :=
  if id.isGiven then r.find? id else r.current e

theorem chosenKnown (valid : r.Valid) (e : Environment) (id : Value) :
    id.isGiven ∧ r.find? id = none ∨ ∃ p, chosen? r e id = some p ∧ p.Valid := by
  unfold chosen?
  split
  · rename_i given
    cases found : r.find? id with
    | none => exact .inl ⟨given,rfl⟩
    | some p => exact .inr ⟨p,rfl,Registry.foundValid valid found⟩
  · exact .inr (currentKnown valid e)

theorem chooseLoaded (loaded : r.Loaded k) (e : Environment) (named : id.IsTextOrNull) :
    ∃ active, choose r e id = .ok (chosen? r e id,active) ∧ active.Loaded k := by
  unfold choose chosen?
  split
  · rename_i given
    obtain ⟨t,rfl⟩ := givenText named given
    obtain ⟨⟨found,active⟩,activates⟩ : ∃ made, r.activate (.text t) = .ok made := by
      refine onlyNone (onlyBind (onlyOk (r.find? (.text t))) fun known _ => ?_)
      cases known <;> exact onlyOk _
    rw [activates]
    exact ⟨active,rfl,loaded.choose activates⟩
  · exact ⟨r,rfl,loaded⟩

theorem givenOf {w : Workflow} (told : w.missing? i = none) : ∀ need ∈ w.needs i, need.2.isGiven := by
  intro need member
  have all := List.find?_eq_none.mp (Option.map_eq_none_iff.mp told) need member
  simpa using all

theorem toldEnds {p : Project} (registry : r.Valid) (valid : p.Valid) (texts : i.Texts) (w : Workflow)
    (told : w.missing? i = none) (session : Session) : Ended p i session w (runFor r p i w session).1 := by
  cases w with
  | record => exact recordEnds valid texts (givenText texts.recording (givenOf told _ List.mem_cons_self)) session
  | ticket => exact ticketEnds valid texts session
  | validate => exact validateEnds valid texts session
  | listProjects => exact listEnds registry session

theorem endedBare {p : Project} {w : Workflow} {f : Failure} (ended : Ended p i session w (.error f)) :
    f.stage? = none ∧ ∀ e, f ≠ .file e := by
  cases ended with
  | unreadable read refused => exact refusedBare refused
  | undecodable read => exact ⟨rfl,by rintro e ⟨⟩⟩
  | refused made refused => exact refusedBare refused

inductive Executed (r : Registry) (e : Environment) (name : Text) (id : Value) (i : Inputs) (session : Session) :
    Except Failure Outcome → Prop where
  | unknown (absent : ofName? name = none) : Executed r e name id i session (.ok (Workflow.unknown name))
  | unknownProject {w} (known : ofName? name = some w) (named : id.isGiven) (absent : r.find? id = none) :
      Executed r e name id i session (.ok (Workflow.unknownProject id))
  | untold {w p need} (known : ofName? name = some w) (chosen : chosen? r e id = some p)
      (missing : w.missing? i = some need) :
      Executed r e name id i session (.ok (.failure ("Validation error: " ++ need ++ " is required")))
  | ran {w p result} (known : ofName? name = some w) (chosen : chosen? r e id = some p) (told : w.missing? i = none)
      (ended : Ended p i session w result) : Executed r e name id i session result

theorem runTold {w : Workflow} {p : Project} {active : Registry} {name : Text} (known : ofName? name = some w)
    (chooses : choose r e id = .ok (some p,active)) (told : w.missing? i = none) (session : Session) :
    run r e name id i session =
      (.ok ((runFor active p i w session).1,active),(runFor active p i w session).2) := by
  unfold run
  simp only [known,chooses,told]
  exact Work.bindRun (Work.attemptRun rfl)

theorem runExecuted (loaded : r.Loaded k) (e : Environment) (name : Text) (named : id.IsTextOrNull)
    (texts : i.Texts) (session : Session) :
    ∃ result active next, run r e name id i session = (.ok (result,active),next) ∧ active.Loaded k ∧
      Executed r e name id i session result := by
  have valid := Registry.loadedValid loaded
  obtain ⟨active,chooses,after⟩ := chooseLoaded loaded e named
  cases known : ofName? name with
  | none => exact ⟨_,r,session,by simp only [run,known]; rfl,loaded,.unknown known⟩
  | some w =>
    rcases chosenKnown valid e id with ⟨given,absent⟩ | ⟨p,chosen,project⟩
    · have none : chosen? r e id = none := by rw [chosen?,if_pos given,absent]
      rw [none] at chooses
      exact ⟨_,active,session,by simp only [run,known,chooses]; rfl,after,.unknownProject known given absent⟩
    · rw [chosen] at chooses
      cases told : w.missing? i with
      | some need =>
        exact ⟨_,active,session,by simp only [run,known,chooses,told]; rfl,after,.untold known chosen told⟩
      | none =>
        have ended := toldEnds (Registry.loadedValid after) project texts w told session
        exact ⟨_,active,_,runTold known chooses told session,after,.ran known chosen told ended⟩

theorem executedBare {name : Text} {f : Failure} (executed : Executed r e name id i session (.error f)) :
    f.stage? = none ∧ ∀ error, f ≠ .file error := by
  cases executed with
  | ran known chosen told ended => exact endedBare ended

/- Projects that were loaded from descriptions with texts, and inputs that are texts: a run by any name
comes to an end, and leaves projects that the next run can start from. No failure of a stage and no
condition of the file system ends it without an outcome. -/
theorem everyRunEnds (loaded : r.Loaded k) (e : Environment) (name : Text) (named : id.IsTextOrNull)
    (texts : i.Texts) (session : Session) :
    ∃ result active next, run r e name id i session = (.ok (result,active),next) ∧ active.Loaded k ∧
      Executed r e name id i session result ∧ ∀ f, result = .error f → f.stage? = none ∧ ∀ error, f ≠ .file error := by
  obtain ⟨result,active,next,ran,after,executed⟩ := runExecuted loaded e name named texts session
  exact ⟨result,active,next,ran,after,executed,fun f fails => executedBare (fails ▸ executed)⟩

def loginInputs : Inputs where
  recording := .text "login.txt"
  featureName := .text "Login"
  story := .text "P-1"

theorem loginTexts : loginInputs.Texts where
  recording := .inr ⟨_,rfl⟩
  featureName := .inr ⟨_,rfl⟩
  story := .inr ⟨_,rfl⟩
  key := .inl rfl
  testName := .inl rfl
  url := .inl rfl
  outputDir := .inl rfl

theorem loginEnds : ∃ result active next,
    run (Registry.start []) [] "record" .null loginInputs {} = (.ok (result,active),next) ∧ active.Loaded [] ∧
      Executed (Registry.start []) [] "record" .null loginInputs {} result ∧
      ∀ f, result = .error f → f.stage? = none ∧ ∀ error, f ≠ .file error :=
  everyRunEnds .start [] "record" (.inl rfl) loginTexts {}

def strayBytes : Session where
  files := { nodes := [(["login.txt"],.file [0xff,0xfe])] }

theorem strayBytesEscape : (Registry.start []).Loaded [] ∧ loginInputs.Texts ∧ ∃ e next,
    run (Registry.start []) [] "record" .null loginInputs strayBytes =
      (.ok (.error (.undecodable e),Registry.start []),next) := by
  obtain ⟨e,read⟩ : ∃ e, recordingIn strayBytes loginInputs.recording = .error (.undecodable e) := ⟨_,rfl⟩
  have ended : Ended (Project.builtIn []) loginInputs strayBytes .record
      (runFor (Registry.start []) (Project.builtIn []) loginInputs record strayBytes).1 :=
    recordEnds (Project.builtInValid []) loginTexts ⟨_,rfl⟩ strayBytes
  have known : ofName? "record" = some record := rfl
  have chooses : choose (Registry.start []) [] .null = .ok (some (Project.builtIn []),Registry.start []) := rfl
  have told : record.missing? loginInputs = none := rfl
  have ran := runTold known chooses told strayBytes
  rw [undecodableEnds read ended] at ran
  exact ⟨.start,loginTexts,e,_,ran⟩

/- The projects of a new session are those in the usual directory. Whatever becomes of loading them, as long
as they are described with texts, every run that follows ends like any other. -/
theorem usualRunEnds (all : Registry.AllDescribed session .null) (e : Environment) (name : Text)
    (named : id.IsTextOrNull) (texts : i.Texts) :
    ∃ loads known ready result active next, Registry.usual e session = (.ok (loads,known),ready) ∧
      run known e name id i ready = (.ok (result,active),next) ∧ active.Loaded e ∧
      Executed known e name id i ready result ∧ ∀ f, result = .error f → f.stage? = none ∧ ∀ error, f ≠ .file error := by
  obtain ⟨loads,known,ready,loading,loaded⟩ := Registry.directoryLoaded .start all false
  obtain ⟨result,active,next,ran,after,executed⟩ := runExecuted loaded e name named texts ready
  exact ⟨loads,known,ready,result,active,next,loading,ran,after,executed,fun f fails => executedBare (fails ▸ executed)⟩

end run

end Workflow
end TestWeaver
