import TestWeaver.Proofs.Generation.Runs
import TestWeaver.Proofs.Generation.Writing

/-! Generation from a ticket, by what its source answers. Nothing is written without a story; with
one, the three documents are written as any contents are. -/
namespace TestWeaver.Generation
open Files Files.Store

variable {source : TicketSource} {key : Text} {session next : Session}

theorem fetchStory {ticket : Ticket} (answers : source key session = (.ok (some ticket),next)) :
    fetch source key session = (.ok ticket,next) := by
  rw [fetch,Work.bindRun (Work.attemptRun answers)]
  rfl

theorem fetchFails (absent : ∀ ticket, (source key session).1 ≠ .ok (some ticket)) :
    ∃ reason records, fetch source key session =
      (.error (.ticketFetch key reason),{ (source key session).2 with records }) := by
  cases answers : source key session with
  | mk result next =>
    rw [fetch,Work.bindRun (Work.attemptRun answers)]
    cases result with
    | ok found =>
      cases found with
      | none => exact ⟨_,_,rfl⟩
      | some ticket => exact absurd (congrArg Prod.fst answers) (absent ticket)
    | error f => exact ⟨_,_,rfl⟩

theorem fetchedTicket {ticket : Ticket} (fetched : fetch source key session = (.ok ticket,next)) :
    (source key session).1 = .ok (some ticket) := by
  cases answers : source key session with
  | mk result last =>
    rw [fetch,Work.bindRun (Work.attemptRun answers)] at fetched
    cases result with
    | ok found =>
      cases found with
      | none => cases fetched
      | some other =>
        cases fetched
        rfl
    | error f => cases fetched

theorem buildPageRun {s : Settings} {actions : List Action} {className : Text} {storyKey pageUrl : Value}
    {page : Page.Module} {c : Context}
    (built : Page.Module.build {} actions s.baseUrl className storyKey pageUrl = .ok (page,c)) :
    ∃ records, buildPage s actions className storyKey pageUrl session = (.ok (page,c),{ session with records }) := by
  rw [buildPage,Work.bindRun (Work.ofExceptRun built session)]
  exact ⟨_,rfl⟩

section story
variable {s : Settings} {i : TicketInput} {ticket : Ticket} {story : Story} {l : Layout} {d : Documents} {c : Context}

def documentsOfStory (s : Settings) (i : TicketInput) (story : Story) (l : Layout) : Except Failure (Documents × Context) :=
  documentsOfRequirement (Requirement.ofStory story)
    ((Requirement.actions (Requirement.ofStory story) i.pageUrl).map Action.resolve)
    s.baseUrl (Requirement.ofStory story).name story.key i.pageUrl l

theorem fromTicketRun (needed : need i.key "ticket key" = .ok key)
    (answers : source key.trim session = (.ok (some ticket),next)) (read : Story.ofTicket ticket = .ok story)
    (layout : s.layout (Requirement.ofStory story).name = .ok l) (made : documentsOfStory s i story l = .ok (d,c)) :
    ∃ records, fromTicket s source i session =
      finish s c i.outputDir d .ticket story.key [] { next with records } := by
  unfold documentsOfStory documentsOfRequirement at made
  cases built : Page.Module.build {} ((Requirement.actions (Requirement.ofStory story) i.pageUrl).map Action.resolve)
      s.baseUrl (Requirement.ofStory story).name story.key i.pageUrl with
  | error f => simp [built,bind,Except.bind] at made
  | ok pair =>
    obtain ⟨page,c₀⟩ := pair
    simp only [built,bind,Except.bind] at made
    cases made
    unfold fromTicket
    rw [Work.bindRun (Work.ofExceptRun needed session),Work.bindRun (fetchStory answers),
      Work.bindRun (Work.ofExceptRun read next)]
    simp only
    rw [Work.bindRun (Work.logRun _ next)]
    obtain ⟨records,page⟩ := @buildPageRun _ s _ _ _ _ page c₀ built
    rw [Work.bindRun page]
    simp only [logNotes]
    rw [Work.bindRun (Work.logRun _ _),Work.bindRun (Work.ofExceptRun layout _),Work.bindRun (Work.logRun _ _)]
    exact ⟨_,rfl⟩

def Answers {α : Type} : Option Failure → Except Failure α → Prop
  | none,r => ∃ a, r = .ok a
  | some f,r => r = .error f

theorem finishEnds {outputDir storyKey : Value} {mode : Mode} {warnings : List Text}
    (placed : s.placed outputDir d.page.className = .ok l) (plain : ∀ a, Plain (l.path a)) (session : Session) :
    ∃ failure, Ends l d.contents Artifact.all session.files
        (finish s c outputDir d mode storyKey warnings session).2.files failure ∧
      Answers failure (finish s c outputDir d mode storyKey warnings session).1 := by
  obtain ⟨failure,ends,result⟩ := writeEnds d.contents session plain
  refine ⟨failure,?_⟩
  unfold finish
  rw [Work.bindRun (Work.ofExceptRun placed session)]
  cases run : write l d.contents session with
  | mk r next =>
    rw [run] at ends result
    cases failure with
    | none =>
      cases result
      rw [Work.bindRun run,Work.bindRun (Work.logRun _ next)]
      exact ⟨ends,_,rfl⟩
    | some f =>
      cases result
      rw [Work.bindFails run]
      exact ⟨ends,rfl⟩

end story

theorem needBlank (blank : key.isBlank) : need (.text key) "ticket key" = .error (.missingInput "ticket key") := by
  cases key with
  | nil => rfl
  | cons c key =>
    simp [need,Value.isGiven,Value.textFor,blank,bind,Except.bind,throw,throwThe,MonadExceptOf.throw]

theorem needGiven (given : key.isBlank = false) : need (.text key) "ticket key" = .ok key := by
  cases key with
  | nil => cases given
  | cons c key =>
    simp [need,Value.isGiven,Value.textFor,given,bind,Except.bind,pure,Except.pure]

def Settings.ofTexts (baseUrl : Value) (directories : Directories) (working : List Text) : Settings where
  baseUrl
  pagesDir := .text directories.pages
  featuresDir := .text directories.features
  stepsDir := .text directories.steps
  working

/- What a run does with the answer of a source. Without a key or a story no file is touched. With a
story, its three documents are written as any contents are. -/
structure Follows (s : Settings) (source : TicketSource) (key out url : Text) (session : Session)
    (r : Except Failure Result) (t : Store) : Prop where
  keyless : key.isBlank → r = .error (.missingInput "ticket key") ∧ t = session.files
  storyless : key.isBlank = false → (∀ ticket, (source key.trim session).1 ≠ .ok (some ticket)) →
    (∃ reason, r = .error (.ticketFetch key.trim reason)) ∧ t = session.files
  told : key.isBlank = false → ∀ ticket, (source key.trim session).1 = .ok (some ticket) →
    ∃ story l d c failure, Story.ofTicket ticket = .ok story ∧ s.layout (Requirement.ofStory story).name = .ok l ∧
      documentsOfStory s { key := .text key, outputDir := .text out, pageUrl := .text url } story l = .ok (d,c) ∧
      Ends { l with outputDir := out } d.contents Artifact.all session.files t failure ∧ Answers failure r

theorem ticketFollowed (baseUrl : Value) (directories : Directories) (working : List Text) (source : TicketSource)
    (key out url : Text) (session : Session)
    (clean : Utf8.Clean out ∧ Utf8.Clean directories.pages ∧ Utf8.Clean directories.features ∧
      Utf8.Clean directories.steps)
    (address : ∃ path, Page.pathFor (.text url) baseUrl = .ok path)
    (quiet : (source key.trim session).2.files = session.files)
    (stories : ∀ ticket, (source key.trim session).1 = .ok (some ticket) → ∃ story, Story.ofTicket ticket = .ok story) :
    Follows (.ofTexts baseUrl directories working) source key out url session
      (fromTicket (.ofTexts baseUrl directories working) source
        { key := .text key, outputDir := .text out, pageUrl := .text url } session).1
      (fromTicket (.ofTexts baseUrl directories working) source
        { key := .text key, outputDir := .text out, pageUrl := .text url } session).2.files where
  keyless := by
    intro blank
    have fails : Work.ofExcept (need (.text key) "ticket key") session =
        (.error (.missingInput "ticket key"),session) := by
      rw [needBlank blank]
      rfl
    rw [fromTicket,Work.bindFails fails]
    exact ⟨rfl,rfl⟩
  storyless := by
    intro given absent
    obtain ⟨reason,records,fails⟩ := fetchFails absent
    rw [fromTicket,Work.bindRun (Work.ofExceptRun (needGiven given) session),Work.bindFails fails]
    exact ⟨⟨reason,rfl⟩,quiet⟩
  told := by
    intro given ticket answers
    obtain ⟨story,read⟩ := stories ticket answers
    obtain ⟨path,found⟩ := address
    cases run : source key.trim session with
    | mk result next =>
      obtain rfl : result = .ok (some ticket) := (congrArg Prod.fst run).symm.trans answers
      rw [run] at quiet
      have directoriesClean : ∀ a, Utf8.Clean (Layout.directory ⟨out,(Requirement.ofStory story).name,directories,working⟩ a) := by
        intro a
        cases a with
        | page => exact clean.2.1
        | specification => exact clean.2.2.1
        | glue => exact clean.2.2.2
      obtain ⟨d,c,made⟩ : ∃ d c, documentsOfStory (.ofTexts baseUrl directories working)
          { key := .text key, outputDir := .text out, pageUrl := .text url } story
          ⟨[],(Requirement.ofStory story).name,directories,working⟩ = .ok (d,c) := documentsOfRequirementMade found
      obtain ⟨records,whole⟩ := fromTicketRun (needGiven given) run read rfl made
      rw [whole]
      have placed : (Settings.ofTexts baseUrl directories working).placed (.text out) d.page.className =
          .ok ⟨out,(Requirement.ofStory story).name,directories,working⟩ := by
        obtain ⟨path,page⟩ := documentsOfRequirementPage Page.namedAll
          (Page.numberedResolve (Requirement.numberedActions _ _)) made
        rw [page]
        rfl
      obtain ⟨failure,ends,answer⟩ := finishEnds placed (Layout.pathPlain _ clean.1 directoriesClean) { next with records }
      refine ⟨story,_,d,c,failure,read,rfl,made,?_,answer⟩
      rw [← quiet]
      exact ends

def answering (ticket : Ticket) : TicketSource := fun _ => Work.ofExcept (.ok (some ticket))

def loginInput : TicketInput where
  key := .text "K-1"
  outputDir := .text "output"
  pageUrl := .text []

def plainSettings : Settings := .ofTexts (.text []) {} []

def loginTicket : Ticket where
  key := .text "K-1"
  summary := .text "Login"

theorem loginFollowed : Follows plainSettings (answering loginTicket) "K-1" "output" [] {}
    (fromTicket plainSettings (answering loginTicket) loginInput {}).1
    (fromTicket plainSettings (answering loginTicket) loginInput {}).2.files := by
  have told : ∀ ticket, (answering loginTicket (Text.trim "K-1") {}).1 = .ok (some ticket) →
      ∃ story, Story.ofTicket ticket = .ok story := by
    intro ticket answers
    cases answers
    exact ⟨_,rfl⟩
  unfold plainSettings loginInput
  exact ticketFollowed (.text []) {} [] (answering loginTicket) "K-1" "output" [] {}
    ⟨Utf8.cleanString (by decide),Utf8.cleanString (by decide),Utf8.cleanString (by decide),Utf8.cleanString (by decide)⟩
    ⟨_,rfl⟩ rfl told

def halfTicket : Ticket where
  key := .text (Text.ofString "K-" ++ [.half ⟨0,by decide⟩])
  summary := .text "Login"

theorem keyInPage {m : Page.Module} {p : CodePoint} (inside : p ∈ m.storyKey.shown) : p ∈ m.text := by
  have line : "Story: " ++ m.storyKey.shown ∈ m.source.head := by simp [Page.Source.head,Page.Module.source]
  have whole : p ∈ Text.unlines (m.source.head ++ Page.constantLines m.source.constants ++ Page.helperLines ++
      m.source.methods.flatMap fun method => [] :: method.lines) := by
    refine Text.memJoinOfPart ?_ (List.mem_append_right "Story: " inside)
    simp only [List.mem_append]
    exact .inl (.inl (.inl line))
  exact List.mem_append_left _ whole

theorem halfKeyLeft : ∃ e,
    (fromTicket plainSettings (answering halfTicket) loginInput {}).1 = .error (.unencodable e) ∧
    (Failure.unencodable e).stage? = none ∧
    (fromTicket plainSettings (answering halfTicket) loginInput {}).2.files.read "output/pages/login_page.py" = .ok [] := by
  obtain ⟨story,read,key,name⟩ : ∃ story, Story.ofTicket halfTicket = .ok story ∧ story.key = halfTicket.key ∧
      (Requirement.ofStory story).name = "Login" := ⟨_,rfl,rfl,by decide⟩
  obtain ⟨d,c,made⟩ : ∃ d c, documentsOfStory plainSettings loginInput story
      ⟨[],(Requirement.ofStory story).name,{},[]⟩ = .ok (d,c) := documentsOfRequirementMade rfl
  have run : answering halfTicket (Text.trim "K-1") {} = (.ok (some halfTicket),{}) := rfl
  obtain ⟨records,whole⟩ := fromTicketRun (s := plainSettings) (i := loginInput) (needGiven rfl) run read rfl made
  obtain ⟨path,page⟩ := documentsOfRequirementPage Page.namedAll
    (Page.numberedResolve (Requirement.numberedActions _ _)) made
  have half : .half ⟨0,by decide⟩ ∈ d.page.text := by
    refine keyInPage ?_
    rw [page]
    change _ ∈ story.key.shown
    rw [key]
    decide
  obtain ⟨e,bare⟩ := Utf8.encodeHalf half 0
  have placed : plainSettings.placed loginInput.outputDir d.page.className = .ok ⟨"output","Login",{},[]⟩ := by
    rw [page,← name]
    rfl
  have left : Writing.putAll { files := {} } ⟨"output","Login",{},[]⟩ d.contents Artifact.all =
      (_,some (.unencodable e)) := putAllLeft rfl bare rfl rfl rfl
  have write := writeRun ⟨"output","Login",{},[]⟩ d.contents { ({} : Session) with records } left
  rw [whole,finish,Work.bindRun (Work.ofExceptRun placed _),Work.bindFails write]
  exact ⟨e,rfl,rfl,rfl⟩

end TestWeaver.Generation
