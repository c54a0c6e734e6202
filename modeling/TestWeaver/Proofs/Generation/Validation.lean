import TestWeaver.Generation.Structure
import TestWeaver.Proofs.Generation.Balance
import TestWeaver.Proofs.Generation.Bytes
import TestWeaver.Proofs.Generation.Tickets
import TestWeaver.Proofs.Naming.Classes

/-! Validation behind a run that was recorded. The name that the run was given leads to the files that it wrote; the
class that it answers leads to them just where that class is steady. -/
namespace TestWeaver.Generation
open Files Files.Store

section written
variable {s : Settings} {l : Layout} {contents : Contents} {w : Writing} {artifacts : List Artifact}
  {session next : Session}

theorem putAllPlain (ended : (w.putAll l contents artifacts).2 = none) : ∀ a ∈ artifacts, Plain (l.path a) := by
  induction artifacts generalizing w with
  | nil => simp
  | cons a rest ih =>
    unfold Writing.putAll at ended
    simp only at ended
    split at ended
    · cases ended
    · split at ended
      · cases ended
      · rename_i given v put
        refine List.forall_mem_cons.mpr ⟨?_,ih ended⟩
        unfold Writing.put at put
        split at put
        · cases put
        · split at put
          · cases put
          · rename_i opens
            obtain ⟨bytes,taken,_⟩ := (findOk.mp (openOk opens).1).1
            exact ⟨bytes,taken⟩

theorem writeOk {files : List (Artifact × Text)} (ok : write l contents session = (.ok files,next)) :
    files = pathsOf l ∧ Written l contents Artifact.all session.files next.files := by
  cases run : Writing.putAll { files := session.files } l contents Artifact.all with
  | mk w failure =>
    have ran := writeRun l contents session run
    rw [ok] at ran
    obtain ⟨result,rfl⟩ := Prod.mk.inj ran
    cases failure with
    | some f => cases result
    | none =>
      have plain := putAllPlain (congrArg Prod.snd run)
      obtain ⟨failure,ends,same⟩ := writeEnds contents session fun a => plain a (by cases a <;> decide)
      rw [ok] at ends same
      cases failure with
      | some f => cases same
      | none =>
        cases ends with
        | complete written => exact ⟨Except.ok.inj result,written⟩

def Leads (l : Layout) (contents : Contents) (artifacts : List Artifact) (s t : Store) : Prop :=
  ∀ opened records, ∃ w, Writing.putAll ⟨s,opened,records⟩ l contents artifacts = (w,none) ∧ w.files = t

theorem leadsNil (s : Store) : Leads l contents [] s s := fun _ _ => ⟨_,rfl,rfl⟩

theorem leadsMore {a : Artifact} {rest : List Artifact} {s t u v : Store} {path text : Text} {bytes : Bytes}
    (lies : l.path a = path) (given : contents.lookup a = some text)
    (encodes : Utf8.encode text = .ok bytes) (made : s.makeDirectories (Writing.directoryOf path) = (t,none))
    (opens : t.openForWriting path = .ok u) (free : u.refusal? .write path = none) (empty : u.read path = .ok [])
    (later : Leads l contents rest (u.put (u.placeOf path) (.file bytes)) v) : Leads l contents (a :: rest) s v := by
  have writes : u.write path text = .ok (u.put (u.placeOf path) (.file bytes)) := by
    obtain ⟨found,held⟩ := readOk.mp empty
    unfold Store.write
    simp only [free,encodes,found,fileSome.mp held,bind,Except.bind,Except.mapError]
    rfl
  intro opened records
  unfold Writing.putAll
  simp only [given,lies,Writing.put,made,opens,writes]
  exact later _ _

structure Leaves (s : Settings) (className : Text) (outputDir : Value) (l : Layout) (r : Result) (after : Store) :
    Prop where
  placed : s.placed outputDir className = .ok l
  named : r.className = className
  files : r.files = pathsOf l
  held : ∀ a, after.isFile (l.path a)

theorem finishLeaves {c : Context} {outputDir storyKey : Value} {d : Documents} {mode : Mode} {warnings : List Text}
    {r : Result} (ok : finish s c outputDir d mode storyKey warnings session = (.ok r,next)) :
    ∃ l, Leaves s d.page.className outputDir l r next.files := by
  unfold finish at ok
  obtain ⟨l,_,placed,ok⟩ := Work.bindPasses ok
  obtain ⟨files,_,wrote,ok⟩ := Work.bindPasses ok
  obtain ⟨_,_,logged,ok⟩ := Work.bindPasses ok
  cases ok
  cases logged
  obtain ⟨rfl,written⟩ := writeOk wrote
  refine ⟨l,ofExceptOk placed,rfl,rfl,fun a => ?_⟩
  obtain ⟨text,bytes,_,_,held⟩ := written.holds a (by cases a <;> decide)
  exact isFileRead.mpr ⟨bytes,held⟩

end written

theorem pathsSame {l m : Layout} : pathsOf l = pathsOf m ↔ ∀ a, l.path a = m.path a := by
  rw [pathsOf,pathsOf,List.map_inj_left]
  constructor
  · intro same a
    exact congrArg Prod.snd (same a (by cases a <;> decide))
  · intro same a _
    rw [same a]

section recorded
variable {s : Settings} {outputDir name : Value} {className : Text} {l : Layout} {session next : Session} {r : Result}

theorem needText {v : Value} {t : Text} (needed : need v className = .ok t) : v = .text t := by
  unfold need at needed
  split at needed
  · cases needed
  · obtain ⟨u,isText,needed⟩ := Failure.bindOk needed
    split at needed
    · cases needed
    · cases needed
      cases v <;> cases isText
      rfl

theorem neededText {i : RecordingInput} {featureName storyKey : Text} (needed : i.needed = .ok (featureName,storyKey)) :
    i.featureName = .text featureName := by
  unfold RecordingInput.needed at needed
  split at needed
  · cases needed
  · obtain ⟨t,feature,needed⟩ := Failure.bindOk needed
    obtain ⟨u,_,needed⟩ := Failure.bindOk needed
    cases needed
    exact needText feature

theorem classNameText (t : Text) : classNameOf (.text t) = .ok (Naming.className t) := by cases t <;> rfl

theorem placedNamed (placed : s.placed outputDir className = .ok l) :
    l.className = className ∧ ∀ name, s.placed outputDir name = .ok (l.named name) := by
  unfold Settings.placed at placed ⊢
  obtain ⟨pages,paged,placed⟩ := Failure.bindOk placed
  obtain ⟨features,featured,placed⟩ := Failure.bindOk placed
  obtain ⟨steps,stepped,placed⟩ := Failure.bindOk placed
  obtain ⟨out,outside,placed⟩ := Failure.bindOk placed
  cases placed
  rw [paged,featured,stepped,outside]
  exact ⟨rfl,fun name => rfl⟩

theorem validateRun (named : classNameOf name = .ok className) (placed : s.placed outputDir className = .ok l)
    (session : Session) : validate s name outputDir session = (.ok (structureOf session.files l),session) := by
  unfold validate
  rw [named]
  exact Work.bindRun (Work.ofExceptRun placed session)

theorem memMissing {files : Store} {path : Text} :
    path ∈ (structureOf files l).missing ↔ (∃ a, l.path a = path) ∧ files.isFile path = false := by
  unfold structureOf pathsOf
  simp only [List.mem_filter,List.mem_map,exists_exists_and_eq_and,Bool.not_eq_eq_eq_not,Bool.not_true]
  constructor
  · rintro ⟨⟨a,_,same⟩,bare⟩
    exact ⟨⟨a,same⟩,bare⟩
  · rintro ⟨⟨a,same⟩,bare⟩
    exact ⟨⟨a,by cases a <;> decide,same⟩,bare⟩

theorem isThereIff {files : Store} {a : Artifact} : (structureOf files l).isThere a ↔ files.isFile (l.path a) := by
  have listed : ∀ pair, pair ∈ (structureOf files l).paths ↔ ∃ b, (b,l.path b) = pair := by
    intro pair
    unfold structureOf pathsOf
    rw [List.mem_map]
    constructor
    · rintro ⟨b,_,same⟩
      exact ⟨b,same⟩
    · rintro ⟨b,same⟩
      exact ⟨b,by cases b <;> decide,same⟩
  have kept : (structureOf files l).missing.contains (l.path a) = false ↔ files.isFile (l.path a) := by
    rw [Bool.eq_false_iff,ne_eq,List.contains_iff_mem,memMissing]
    simp
  rw [Structure.isThere,List.any_eq_true]
  constructor
  · rintro ⟨pair,inside,there⟩
    obtain ⟨b,rfl⟩ := (listed pair).mp inside
    simp only [Bool.and_eq_true,decide_eq_true_eq,Bool.not_eq_true'] at there
    obtain ⟨rfl,free⟩ := there
    exact kept.mp free
  · intro held
    exact ⟨_,(listed _).mpr ⟨a,rfl⟩,by simp only [decide_true,kept.mpr held,Bool.not_false,Bool.and_self]⟩

theorem validIff {files : Store} : (structureOf files l).isValid ↔ ∀ a, files.isFile (l.path a) := by
  rw [Structure.isValid,List.all_eq_true]
  constructor
  · exact fun all a => isThereIff.mp (all a (by cases a <;> decide))
  · exact fun held a _ => isThereIff.mpr (held a)

theorem missingNone {files : Store} (held : ∀ a, files.isFile (l.path a)) : (structureOf files l).missing = [] := by
  refine List.eq_nil_iff_forall_not_mem.mpr fun path member => ?_
  obtain ⟨⟨a,rfl⟩,bare⟩ := memMissing.mp member
  rw [held a] at bare
  cases bare

theorem builtNamed {actions : List Action} {storyKey pageUrl : Value} {page : Page.Module} {c : Context}
    (named : ∀ a ∈ actions, a.Named) (numbered : Action.Numbered actions)
    (built : buildPage s actions className storyKey pageUrl session = (.ok (page,c),next)) :
    page.className = className := by
  have built := buildPageOk built
  rw [Page.buildOnPath] at built
  cases found : Page.pathFor (Page.addressOf actions pageUrl) s.baseUrl with
  | error failure => simp [found,Except.map] at built
  | ok path =>
    rw [found] at built
    rw [Page.madeReference named numbered (Except.ok.inj built)]
    rfl

theorem recordedLeaves {i : RecordingInput} (ran : fromRecording s i session = (.ok r,next)) :
    ∃ featureName l, i.featureName = .text featureName ∧
      Leaves s (Naming.className featureName) i.outputDir l r next.files := by
  unfold fromRecording at ran
  obtain ⟨⟨featureName,storyKey⟩,_,needed,ran⟩ := Work.bindPasses ran
  obtain ⟨recording,_,_,ran⟩ := Work.bindPasses ran
  obtain ⟨_,_,_,ran⟩ := Work.bindPasses ran
  obtain ⟨⟨page,c⟩,_,built,ran⟩ := Work.bindPasses ran
  obtain ⟨_,_,_,ran⟩ := Work.bindPasses ran
  obtain ⟨_,_,_,ran⟩ := Work.bindPasses ran
  obtain ⟨_,_,_,ran⟩ := Work.bindPasses ran
  obtain ⟨l,leaves⟩ := finishLeaves ran
  rw [builtNamed Page.namedAll (Page.numberedResolve (Recording.numberedTranscript _)) built] at leaves
  exact ⟨featureName,l,neededText (ofExceptOk needed),leaves⟩

theorem fromRecordingRun {i : RecordingInput} {featureName storyKey recording : Text} {d : Documents} {c : Context}
    (needed : i.needed = .ok (featureName,storyKey)) (read : recordingText i.recording = .ok recording)
    (layout : s.layout (Naming.className featureName) = .ok l)
    (made : documentsOfActions (recordedActions recording) s.baseUrl (Naming.className featureName) (.text storyKey)
      i.pageUrl l = .ok (d,c)) :
    ∃ records warnings, fromRecording s i session =
      finish s c i.outputDir d .recording (.text storyKey) warnings { session with records } := by
  unfold documentsOfActions at made
  cases built : Page.Module.build {} (recordedActions recording) s.baseUrl (Naming.className featureName)
      (.text storyKey) i.pageUrl with
  | error f => simp [built,bind,Except.bind] at made
  | ok pair =>
    obtain ⟨page,c₀⟩ := pair
    simp only [built,bind,Except.bind] at made
    cases made
    unfold recordedActions at built
    unfold fromRecording
    rw [Work.bindRun (Work.ofExceptRun needed session)]
    simp only
    rw [Work.bindRun (Work.ofExceptRun read session),Work.bindRun (Work.logRun _ session)]
    obtain ⟨records,page⟩ := @buildPageRun _ s _ _ _ _ page c₀ built
    rw [Work.bindRun page]
    simp only [logNotes]
    rw [Work.bindRun (Work.logRun _ _),Work.bindRun (Work.ofExceptRun layout _),Work.bindRun (Work.logRun _ _)]
    exact ⟨_,_,rfl⟩

end recorded

def phoneRecording : RecordingInput where
  recording := .text []
  featureName := .text "iPhone"
  storyKey := .text "K-1"

def phoneLayout : Layout where
  outputDir := "output"
  className := "IPhone"

def phoneDocuments : Documents where
  page := {
    className := "IPhone", storyKey := .text "K-1", path := []
    methods := [{ name := Naming.navigationMethod, kind := .navigate, readable := "IPhone" }] }
  specification := {
    name := "IPhone Test", tags := [Text.ofString "@K-1","@IPhone"]
    precondition := some ⟨"Given",Feature.preconditionText "IPhone",none⟩
    blocks := [{ name := "Complete IPhone workflow" }]
    closing := some ⟨"Then",Feature.closingText,none⟩ }
  steps := {
    className := "IPhone", pageClass := "IPhonePage", pageModule := "pages.i_phone_page"
    featureFile := "../features/i_phone.feature", fixture := "i_phone_page"
    handlers := [
      { types := [.given], pattern := Feature.preconditionText "IPhone", method := some Naming.navigationMethod,
        function := "navigate_to_iphone_page" },
      { types := [.then], pattern := Feature.closingText, function := "verify_page_updated" }] }

theorem phoneMade : ∃ c, documentsOfActions (recordedActions []) (.text []) "IPhone" (.text "K-1") .null
    { phoneLayout with outputDir := [] } = .ok (phoneDocuments,c) := by
  have order : Action.inOrder (recordedActions []) = recordedActions [] := by
    unfold Action.inOrder
    exact List.mergeSort_singleton _
  have found : Page.pathFor (Page.addressOf (recordedActions []) .null) (.text []) = .ok [] := by
    rw [Page.addressOf,order]
    rfl
  obtain ⟨d,c,same⟩ := @documentsOfActionsMade (recordedActions []) (.text []) "IPhone" (.text "K-1") .null
    { phoneLayout with outputDir := [] } [] found
  have made : Except.map Prod.fst (.ok (d,c) : Except Failure (Documents × Context)) = .ok phoneDocuments := by
    rw [← same,documentsOfActions,Page.buildOnPath,found]
    simp only [Except.map,bind,Except.bind,Page.Module.ofActions,Feature.Document.ofActions,Steps.Module.ofActions,order]
    rfl
  obtain rfl : d = phoneDocuments := Except.ok.inj made
  exact ⟨c,same⟩

theorem phoneBytes (a : Artifact) :
    ∃ text bytes, phoneDocuments.contents.lookup a = some text ∧ Utf8.encode text = .ok bytes := by
  refine contentsWhole ?_ ?_ ?_ a
  · constructor <;> decide +kernel
  · constructor <;> decide +kernel
  · constructor <;> decide +kernel

def phoneStore (count : Nat) (page feature steps : Bytes) : Store where
  nodes := [
    ([Text.ofString "output"],.directory),
    ([Text.ofString "output","pages"],.directory),
    ([Text.ofString "output","pages","i_phone_page.py"],.file page),
    ([Text.ofString "output","features"],.directory),
    ([Text.ofString "output","features","i_phone.feature"],.file feature),
    ([Text.ofString "output","steps"],.directory),
    ([Text.ofString "output","steps","test_i_phone_steps.py"],.file steps)].take count

theorem phonePaths : phoneLayout.path .page = "output/pages/i_phone_page.py" ∧
    phoneLayout.path .specification = "output/features/i_phone.feature" ∧
    phoneLayout.path .glue = "output/steps/test_i_phone_steps.py" := by
  decide +kernel

theorem phoneLeads : ∃ page feature steps,
    Leads phoneLayout phoneDocuments.contents Artifact.all {} (phoneStore 7 page feature steps) := by
  obtain ⟨_,page,first,encodes₁⟩ := phoneBytes .page
  obtain ⟨_,feature,second,encodes₂⟩ := phoneBytes .specification
  obtain ⟨_,steps,third,encodes₃⟩ := phoneBytes .glue
  refine ⟨page,feature,steps,?_⟩
  refine leadsMore (t := phoneStore 2 [] [] []) (u := phoneStore 3 [] [] []) phonePaths.1 first encodes₁
    rfl rfl rfl rfl ?_
  change Leads phoneLayout _ _ (phoneStore 3 page [] []) _
  refine leadsMore (t := phoneStore 4 page [] []) (u := phoneStore 5 page [] []) phonePaths.2.1 second encodes₂
    rfl rfl rfl rfl ?_
  change Leads phoneLayout _ _ (phoneStore 5 page feature []) _
  refine leadsMore (t := phoneStore 6 page feature []) (u := phoneStore 7 page feature []) phonePaths.2.2 third encodes₃
    rfl rfl rfl rfl ?_
  exact leadsNil (phoneStore 7 page feature steps)

theorem phoneRecorded : ∃ r next page feature steps, fromRecording plainSettings phoneRecording {} = (.ok r,next) ∧
    r.className = "IPhone" ∧ r.files = pathsOf phoneLayout ∧ next.files = phoneStore 7 page feature steps := by
  obtain ⟨c,made⟩ := phoneMade
  obtain ⟨records,warnings,whole⟩ := @fromRecordingRun plainSettings { phoneLayout with outputDir := [] } {} phoneRecording
    "iPhone" "K-1" [] phoneDocuments c rfl rfl rfl made
  obtain ⟨page,feature,steps,leads⟩ := phoneLeads
  obtain ⟨w,run,files⟩ := leads [] []
  have placed : plainSettings.placed phoneRecording.outputDir phoneDocuments.page.className = .ok phoneLayout := rfl
  have wrote := writeRun phoneLayout phoneDocuments.contents { ({} : Session) with records } run
  rw [whole,finish,Work.bindRun (Work.ofExceptRun placed _),Work.bindRun wrote]
  exact ⟨_,_,page,feature,steps,rfl,rfl,rfl,files⟩

def Finds (s : Settings) (name outputDir : Value) (files : List (Artifact × Text)) (session : Session) : Prop :=
  ∃ x, validate s name outputDir session = (.ok x,session) ∧ x.paths = files ∧ x.missing = [] ∧ x.isValid

structure Validated (s : Settings) (i : RecordingInput) (r : Result) (after : Session) : Prop where
  given : Finds s i.featureName i.outputDir r.files after
  answers : ∃ x, validate s (.text r.className) i.outputDir after = (.ok x,after)
  steady : Finds s (.text r.className) i.outputDir r.files after ↔ Naming.Steady r.className

theorem recordedValidated {s : Settings} {i : RecordingInput} {session next : Session} {r : Result}
    (ran : fromRecording s i session = (.ok r,next)) : Validated s i r next := by
  obtain ⟨featureName,l,feature,leaves⟩ := recordedLeaves ran
  obtain ⟨own,placed⟩ := placedNamed leaves.placed
  have itself : l.named (Naming.className featureName) = l := own ▸ rfl
  have again : validate s (.text r.className) i.outputDir next =
      (.ok (structureOf next.files (l.named (Naming.className r.className))),next) :=
    validateRun (classNameText _) (placed _) next
  have moved : pathsOf (l.named (Naming.className r.className)) = r.files ↔ Naming.Steady r.className := by
    rw [leaves.named,leaves.files,← Layout.steadyPaths l,itself]
    exact pathsSame
  refine ⟨?_,⟨_,again⟩,?_⟩
  · rw [feature]
    exact ⟨_,validateRun (classNameText _) leaves.placed next,leaves.files.symm,missingNone leaves.held,
      validIff.mpr leaves.held⟩
  · rw [← moved]
    constructor
    · rintro ⟨x,found,paths,_⟩
      rw [again] at found
      cases found
      exact paths
    · intro same
      have held : ∀ a, next.files.isFile ((l.named (Naming.className r.className)).path a) := by
        intro a
        rw [pathsSame.mp (same.trans leaves.files) a]
        exact leaves.held a
      exact ⟨_,again,same,missingNone held,validIff.mpr held⟩

theorem phoneValidated : ∃ r next, fromRecording plainSettings phoneRecording {} = (.ok r,next) ∧
    Validated plainSettings phoneRecording r next := by
  obtain ⟨r,next,_,_,_,ran,_⟩ := phoneRecorded
  exact ⟨r,next,ran,recordedValidated ran⟩

theorem phoneUnfound : ∃ r next x, fromRecording plainSettings phoneRecording {} = (.ok r,next) ∧ r.className = "IPhone" ∧
    validate plainSettings (.text r.className) phoneRecording.outputDir next = (.ok x,next) ∧ x.paths ≠ r.files ∧
    x.isValid = false := by
  obtain ⟨r,next,page,feature,steps,ran,named,paths,files⟩ := phoneRecorded
  have found : validate plainSettings (.text r.className) phoneRecording.outputDir next =
      (.ok (structureOf next.files (phoneLayout.named "Iphone")),next) := by
    have again : classNameOf (.text "IPhone") = .ok "Iphone" := by rw [classNameText]; decide
    rw [named]
    exact validateRun again rfl next
  have lies : (phoneLayout.named "Iphone").path .page = "output/pages/iphone_page.py" := by decide +kernel
  refine ⟨r,next,_,ran,named,found,?_,?_⟩
  · intro same
    have path := pathsSame.mp (same.trans paths) .page
    rw [lies,phonePaths.1] at path
    revert path
    decide
  · rw [Bool.eq_false_iff]
    intro valid
    have bare : (phoneStore 7 page feature steps).isFile "output/pages/iphone_page.py" = false := rfl
    rw [← files,← lies,validIff.mp valid .page] at bare
    cases bare

end TestWeaver.Generation
