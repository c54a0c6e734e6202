import TestWeaver.Proofs.Generation.Tickets
import TestWeaver.Proofs.Generation.Validation
import TestWeaver.Proofs.Naming.Stems

/-! Tests beside each other. Two tests whose features lie in different files have different steps as well, and different
pages unless one is named like the page of the other. So a run leaves the files of the other test as they were, whatever
it writes and however it ends, but for such a page. -/
namespace TestWeaver

namespace Naming
variable {a b : Text}

def PageOf (a b : Text) : Prop :=
  a.endsWith "Page" = false ∧ ∃ front, b = front ++ "Page" ∧ snake front = snake a

def SharePage (a b : Text) : Prop := PageOf a b ∨ PageOf b a

theorem pageOfEnds (page : PageOf a b) : b.endsWith "Page" := by
  obtain ⟨_,front,rfl,_⟩ := page
  exact List.isSuffixOf_iff_suffix.mpr (List.suffix_append front "Page")

theorem pageOfSnake (full : a ≠ []) (left : Alnum a) (right : Alnum b) (unended : a.endsWith "Page" = false)
    (ends : b.endsWith "Page") : snake (pageClass a) = snake (pageClass b) ↔ PageOf a b := by
  have kept : pageClass b = b := if_pos ends
  have within : ∀ front, b = front ++ "Page" → Alnum front := by
    rintro front rfl c member
    exact right c (List.mem_append_left _ member)
  have stem := snakeFull left full
  rw [snakePage full left unended,kept]
  constructor
  · intro same
    obtain ⟨front,whole⟩ := List.isSuffixOf_iff_suffix.mp ends
    have begun : front ≠ [] := by
      rintro rfl
      have sizes := congrArg List.length same
      have least := List.length_pos_iff.mpr stem
      rw [← whole,List.length_append] at sizes
      rw [show (snake ([] ++ Text.ofString "Page")).length = 4 by decide,show (Text.ofString "_page").length = 5 by decide]
        at sizes
      omega
    refine ⟨unended,front,whole.symm,?_⟩
    rw [← whole,snakeBehind begun (within front whole.symm)] at same
    exact (List.append_cancel_right same).symm
  · rintro ⟨_,front,whole,same⟩
    have begun : front ≠ [] := by
      rintro rfl
      exact stem same.symm
    rw [whole,snakeBehind begun (within front whole),same]

theorem sharePageIff (full : a ≠ [] ∧ b ≠ []) (alnum : Alnum a ∧ Alnum b) (apart : snake a ≠ snake b) :
    snake (pageClass a) = snake (pageClass b) ↔ SharePage a b := by
  cases first : a.endsWith "Page" <;> cases second : b.endsWith "Page"
  · have neither : ¬ SharePage a b := by
      rintro (page | page)
      · rw [pageOfEnds page] at second
        cases second
      · rw [pageOfEnds page] at first
        cases first
    rw [snakePage full.1 alnum.1 first,snakePage full.2 alnum.2 second,List.append_cancel_right_eq]
    exact iff_of_false apart neither
  · rw [pageOfSnake full.1 alnum.1 alnum.2 first second]
    exact ⟨.inl,fun page => page.resolve_right fun wrong => absurd (wrong.1.symm.trans second) (by decide)⟩
  · rw [eq_comm,pageOfSnake full.2 alnum.2 alnum.1 second first]
    exact ⟨.inr,fun page => page.resolve_left fun wrong => absurd (wrong.1.symm.trans first) (by decide)⟩
  · have neither : ¬ SharePage a b := by
      rintro (page | page)
      · exact absurd (page.1.symm.trans first) (by decide)
      · exact absurd (page.1.symm.trans second) (by decide)
    have kept : pageClass a = a ∧ pageClass b = b := ⟨if_pos first,if_pos second⟩
    rw [kept.1,kept.2]
    exact iff_of_false apart neither

end Naming

namespace Generation
open Files Files.Store

section only
variable {l : Layout} {contents : Contents} {w : Writing} {path text : Text}

theorem putOnly (w : Writing) (path text : Text) :
    Only [path] w.files (w.put path text).1.files ∧ (w.put path text).1.opened ⊆ w.opened ++ [path] := by
  have directories := directoriesMade w.files (Writing.directoryOf path) ((Writing.directoryOf path).length + 1)
  have before := List.subset_append_left w.opened [path]
  unfold Writing.put
  rw [← makeDirectories] at directories
  split
  · rename_i t f made
    rw [made] at directories
    exact ⟨onlyMore (List.nil_subset _) directories.only,before⟩
  · rename_i t made
    rw [made] at directories
    have made := onlyMore (List.nil_subset [path]) directories.only
    split
    · exact ⟨made,before⟩
    · rename_i u opens
      obtain ⟨_,other,rfl⟩ := openOk opens
      have opened := onlyTrans directories.only (putFile other [])
      simp only
      split
      · exact ⟨opened,List.Subset.refl _⟩
      · rename_i v written
        have held : (t.put (t.placeOf path) (.file [])).file? ((t.put (t.placeOf path) (.file [])).placeOf path) = some [] :=
          fileSome.mpr ((nodePut (belowRoot other) _).trans (if_pos rfl))
        obtain ⟨bytes,_,rfl⟩ := Files.Store.writeOk held written
        have file := fileSome.mp held
        exact ⟨onlyMore (by simp) (onlyTrans opened (putFile (by simp [file]) _)),List.Subset.refl _⟩

theorem giveUpOnly (w : Writing) (a : Artifact) (path : Text) (f : Failure) :
    Only w.opened w.files (w.giveUp a path f).1.files := by
  unfold Writing.giveUp
  split
  · exact takenOnly w.opened w
  · exact takenOnly w.opened w
  · exact onlySelf _ _

theorem putAllOnly (rest : List Artifact) (opened : w.opened ⊆ Artifact.all.map l.path) :
    Only (Artifact.all.map l.path) w.files (w.putAll l contents rest).1.files := by
  induction rest generalizing w with
  | nil => exact onlySelf _ _
  | cons a rest ih =>
    unfold Writing.putAll
    simp only
    split
    · exact onlyMore opened (giveUpOnly w a _ _)
    · rename_i text given
      obtain ⟨only,more⟩ := putOnly w (l.path a) text
      have own : [l.path a] ⊆ Artifact.all.map l.path :=
        List.cons_subset.mpr ⟨List.mem_map_of_mem (by cases a <;> decide),List.nil_subset _⟩
      have grown := List.Subset.trans more (List.append_subset.mpr ⟨opened,own⟩)
      split
      · rename_i v f ended
        rw [ended] at only grown
        exact onlyMore (List.append_subset.mpr ⟨own,grown⟩) (onlyTrans only (giveUpOnly v a _ _))
      · rename_i v ended
        rw [ended] at only grown
        have later := @ih (v.note (Writing.written a (l.path a) text)) grown
        exact onlyMore (List.append_subset.mpr ⟨own,List.Subset.refl _⟩) (onlyTrans only later)

theorem writeOnly (l : Layout) (contents : Contents) (session : Session) :
    Only (Artifact.all.map l.path) session.files (write l contents session).2.files := by
  cases run : Writing.putAll { files := session.files } l contents Artifact.all with
  | mk w failure =>
    have only := @putAllOnly l contents { files := session.files } Artifact.all (List.nil_subset _)
    rw [run] at only
    rw [writeRun l contents session run]
    exact only

end only

section run
variable {α β : Type} {w : Work α} {f : α → Work β} {paths : List Text} {session : Session} {s : Settings} {l : Layout}

theorem bindOnly (first : Only paths session.files (w session).2.files)
    (later : ∀ a next, w session = (.ok a,next) → Only paths next.files (f a next).2.files) :
    Only paths session.files ((w >>= f) session).2.files := by
  cases run : w session with
  | mk result next =>
    rw [run] at first
    cases result with
    | error failure =>
      rw [Work.bindFails run]
      exact first
    | ok a =>
      rw [Work.bindRun run]
      exact onlyMore (by simp) (onlyTrans first (later a next run))

theorem finishOnly {c : Context} {outputDir storyKey : Value} {d : Documents} {mode : Mode} {warnings : List Text}
    (placed : s.placed outputDir d.page.className = .ok l) (session : Session) :
    Only (Artifact.all.map l.path) session.files (finish s c outputDir d mode storyKey warnings session).2.files := by
  unfold finish
  refine bindOnly (onlySelf _ _) fun m next found => ?_
  have same := ofExceptOk found
  rw [placed] at same
  obtain rfl := Except.ok.inj same
  refine bindOnly (writeOnly l d.contents next) fun files last _ => ?_
  exact bindOnly (onlySelf _ _) fun _ _ _ => onlySelf _ _

theorem buildPageOnly {actions : List Action} {className : Text} {storyKey pageUrl : Value} (paths : List Text)
    (session : Session) : Only paths session.files (buildPage s actions className storyKey pageUrl session).2.files := by
  unfold buildPage
  refine bindOnly (onlySelf _ _) fun _ _ _ => ?_
  exact bindOnly (onlySelf _ _) fun _ _ _ => onlySelf _ _

theorem fromRecordingOnly {i : RecordingInput} {featureName storyKey : Text}
    (needed : i.needed = .ok (featureName,storyKey))
    (placed : s.placed i.outputDir (Naming.className featureName) = .ok l) (session : Session) :
    Only (Artifact.all.map l.path) session.files (fromRecording s i session).2.files := by
  unfold fromRecording
  refine bindOnly (onlySelf _ _) fun given next found => ?_
  have same := ofExceptOk found
  rw [needed] at same
  obtain rfl := Except.ok.inj same
  refine bindOnly (onlySelf _ _) fun recording _ _ => ?_
  refine bindOnly (onlySelf _ _) fun _ _ _ => ?_
  refine bindOnly (buildPageOnly _ _) fun built _ ran => ?_
  refine bindOnly (onlySelf _ _) fun _ _ _ => ?_
  refine bindOnly (onlySelf _ _) fun _ _ _ => ?_
  refine bindOnly (onlySelf _ _) fun _ _ _ => ?_
  have named := builtNamed Page.namedAll (Page.numberedResolve (Recording.numberedTranscript _)) ran
  refine finishOnly ?_ _
  rw [named,placed]

theorem fetchOnly {source : TicketSource} (quiet : ∀ key, (source key session).2.files = session.files) (key : Text)
    (paths : List Text) : Only paths session.files (fetch source key session).2.files := by
  unfold fetch
  refine bindOnly ?_ fun answer next _ => ?_
  · cases run : source key session with
    | mk result next =>
      rw [Work.attemptRun run]
      have same := quiet key
      rw [run] at same
      rw [same]
      exact onlySelf _ _
  · split
    · exact onlySelf _ _
    · exact bindOnly (onlySelf _ _) fun _ _ _ => onlySelf _ _
    · exact bindOnly (onlySelf _ _) fun _ _ _ => onlySelf _ _

theorem fromTicketOnly {source : TicketSource} {i : TicketInput} {name : Text}
    (quiet : ∀ key, (source key session).2.files = session.files)
    (told : ∀ key ticket story, (source key session).1 = .ok (some ticket) → Story.ofTicket ticket = .ok story →
      Naming.className story.summary = name)
    (placed : s.placed i.outputDir name = .ok l) :
    Only (Artifact.all.map l.path) session.files (fromTicket s source i session).2.files := by
  unfold fromTicket
  refine bindOnly (onlySelf _ _) fun key next needed => ?_
  obtain rfl : session = next := (congrArg Prod.snd needed)
  refine bindOnly (fetchOnly quiet _ _) fun ticket next fetched => ?_
  refine bindOnly (onlySelf _ _) fun story last read => ?_
  have named : (Requirement.ofStory story).name = name :=
    told key.trim ticket story (fetchedTicket fetched) (ofExceptOk read)
  refine bindOnly (onlySelf _ _) fun _ _ _ => ?_
  refine bindOnly (buildPageOnly _ _) fun built _ ran => ?_
  refine bindOnly (onlySelf _ _) fun _ _ _ => ?_
  refine bindOnly (onlySelf _ _) fun _ _ _ => ?_
  refine bindOnly (onlySelf _ _) fun _ _ _ => ?_
  refine finishOnly ?_ _
  have same := builtNamed Page.namedAll (Page.numberedResolve (Requirement.numberedActions _ _)) ran
  rw [same,named,placed]

end run

structure Untouched (s t : Store) (path : Text) : Prop where
  file : t.file? (s.placeOf path) = s.file? (s.placeOf path)
  read : ∀ bytes, s.read path = .ok bytes → t.read path = .ok bytes

def SharedFile (t u : Text) (a : Artifact) : Prop := a = .page ∧ Naming.SharePage (Naming.className t) (Naming.className u)

structure TellsOf (source : TicketSource) (session : Session) (t : Text) : Prop where
  quiet : ∀ key, (source key session).2.files = session.files
  named : ∀ key ticket story, (source key session).1 = .ok (some ticket) → Story.ofTicket ticket = .ok story →
    Naming.className story.summary = Naming.className t

/- What the test of one name does not do to that of another, in the directories of a layout. -/
structure Beside (l : Layout) (t u : Text) : Prop where
  steps : (l.named (Naming.className t)).path .glue ≠ (l.named (Naming.className u)).path .glue
  pages : (l.named (Naming.className t)).path .page = (l.named (Naming.className u)).path .page ↔
    Naming.SharePage (Naming.className t) (Naming.className u)
  written : ∀ a, ¬ SharedFile t u a → ∀ contents session,
    Untouched session.files (write (l.named (Naming.className t)) contents session).2.files
      ((l.named (Naming.className u)).path a)
  recorded : ∀ a, ¬ SharedFile t u a → ∀ s i key session,
    i.needed = .ok (t,key) → s.placed i.outputDir (Naming.className t) = .ok (l.named (Naming.className t)) →
    Untouched session.files (fromRecording s i session).2.files ((l.named (Naming.className u)).path a)
  ticketed : ∀ a, ¬ SharedFile t u a → ∀ s source i session,
    TellsOf source session t → s.placed i.outputDir (Naming.className t) = .ok (l.named (Naming.className t)) →
    Untouched session.files (fromTicket s source i session).2.files ((l.named (Naming.className u)).path a)

section tests
variable {l m : Layout} {s t : Store} {a : Artifact}

theorem onlyUntouched (only : Only (Artifact.all.map m.path) s t) (apart : ∀ b, l.fileName a ≠ m.fileName b) :
    Untouched s t (l.path a) := by
  have places : ∀ path ∈ Artifact.all.map m.path, s.placeOf (l.path a) ≠ s.placeOf path := by
    intro path member
    obtain ⟨b,_,rfl⟩ := List.mem_map.mp member
    exact l.placesApart s m (apart b)
  exact ⟨only.files _ places,fun bytes held => readKept only (l.pathNamesFile a) places held⟩

theorem testsBeside (l : Layout) (t u : Text)
    (differ : (l.named (Naming.className t)).path .specification ≠ (l.named (Naming.className u)).path .specification) :
    Beside l t u := by
  have alnum := Naming.classNameAlnum
  have full : ∀ t, Naming.className t ≠ [] := by
    intro t
    obtain ⟨c,rest,head,_⟩ := Naming.classNameHead t
    simp [head]
  have stems : Naming.snake (Naming.className t) ≠ Naming.snake (Naming.className u) := by
    simp only [Layout.pathNamed,ne_eq,List.append_cancel_left_eq] at differ
    exact fun same => differ (congrArg (· ++ Text.ofString ".feature") same)
  have steps : (l.named (Naming.className t)).fileName .glue ≠ (l.named (Naming.className u)).fileName .glue := by
    intro same
    exact stems (List.append_cancel_left (List.append_cancel_right same))
  have pages := Naming.sharePageIff ⟨full t,full u⟩ ⟨alnum t,alnum u⟩ stems
  have apart : ∀ a, ¬ SharedFile t u a → ∀ b,
      (l.named (Naming.className u)).fileName a ≠ (l.named (Naming.className t)).fileName b := by
    intro a unshared b
    by_cases same : a = b
    · subst same
      cases a with
      | page => exact fun same => unshared ⟨rfl,pages.mp (List.append_cancel_right same).symm⟩
      | specification => exact fun same => stems (List.append_cancel_right same).symm
      | glue => exact fun same => steps same.symm
    · exact Layout.fileNamesDiffer _ _ same
  constructor
  · simp only [Layout.pathNamed,ne_eq,List.append_cancel_left_eq]
    exact steps
  · simp only [Layout.pathNamed,List.append_cancel_left_eq]
    rw [← pages]
    exact List.append_left_inj _
  · exact fun a unshared contents session => onlyUntouched (writeOnly _ contents session) (apart a unshared)
  · exact fun a unshared s i key session needed placed =>
      onlyUntouched (fromRecordingOnly needed placed session) (apart a unshared)
  · exact fun a unshared s source i session tells placed =>
      onlyUntouched (fromTicketOnly tells.quiet tells.named placed) (apart a unshared)

end tests

def outputLayout : Layout where
  outputDir := "output"
  className := []

theorem signInBeside :
    (outputLayout.named (Naming.className "Login")).path .specification ≠
      (outputLayout.named (Naming.className "Sign in")).path .specification ∧ Beside outputLayout "Login" "Sign in" :=
  ⟨by decide +kernel,testsBeside outputLayout "Login" "Sign in" (by decide +kernel)⟩

def pageContents (text : Text) : Contents := [(.page,text),(.specification,"feature"),(.glue,"steps")]

/- A name that ends in the word of a page is the class of its page already, which is that of the name without it. So the
second test takes the place of the page of the first. -/
theorem loginPageTaken :
    (outputLayout.named (Naming.className "Login")).path .specification ≠
      (outputLayout.named (Naming.className "Login Page")).path .specification ∧
    (outputLayout.named (Naming.className "Login")).path .page =
      (outputLayout.named (Naming.className "Login Page")).path .page ∧
    (write (outputLayout.named (Naming.className "Login")) (pageContents "1") {}).2.files.read
      "output/pages/login_page.py" = .ok [0x31] ∧
    (write (outputLayout.named (Naming.className "Login Page")) (pageContents "2")
      (write (outputLayout.named (Naming.className "Login")) (pageContents "1") {}).2).2.files.read
      "output/pages/login_page.py" = .ok [0x32] :=
  ⟨by decide +kernel,by decide +kernel,rfl,rfl⟩

end Generation
end TestWeaver
