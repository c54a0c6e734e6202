import TestWeaver.Generation.Write
import TestWeaver.Proofs.Files.Changes
import TestWeaver.Proofs.Naming.Files
import TestWeaver.Proofs.Session

/-! Runs that write the artifacts of a layout. A run leaves its three files with their texts, or it
takes back every file that it opened, and it leaves all other files as they were. -/
namespace TestWeaver.Generation
open Files Files.Store

def Holds (l : Layout) (contents : Contents) (t : Store) (a : Artifact) : Prop :=
  ∃ text bytes, contents.lookup a = some text ∧ Utf8.encode text = .ok bytes ∧ t.read (l.path a) = .ok bytes

structure Written (l : Layout) (contents : Contents) (artifacts : List Artifact) (s t : Store) : Prop where
  only : Only (artifacts.map l.path) s t
  holds : ∀ a ∈ artifacts, Holds l contents t a

inductive Stops (l : Layout) (contents : Contents) (a : Artifact) (s : Store) : List Artifact → Failure → Prop where
  | missing (absent : contents.lookup a = none) : Stops l contents a s [] (.missingKey a.name)
  | directory {text t e} (given : contents.lookup a = some text)
      (unmade : s.makeDirectories (Writing.directoryOf (l.path a)) = (t,some (.failed e))) :
      Stops l contents a s [] (.file e)
  | opening {text t e} (given : contents.lookup a = some text)
      (made : s.makeDirectories (Writing.directoryOf (l.path a)) = (t,none))
      (closed : t.openForWriting (l.path a) = .error (.failed e)) : Stops l contents a s [] (.file e)
  | writing {text t u e} (given : contents.lookup a = some text)
      (made : s.makeDirectories (Writing.directoryOf (l.path a)) = (t,none))
      (opens : t.openForWriting (l.path a) = .ok u) (unwritten : u.write (l.path a) text = .error (.failed e)) :
      Stops l contents a s [a] (.file e)

/- How the writing of one artifact ends. Its text may have no bytes, which is found out when its
file is open. -/
inductive PutEnds (l : Layout) (contents : Contents) (a : Artifact) (w : Writing) :
    Writing × Option PathFailure → Prop where
  | written {v} (holds : Holds l contents v.files a) (only : Only [l.path a] w.files v.files)
      (opened : v.opened = w.opened ++ [l.path a]) : PutEnds l contents a w (v,none)
  | stopped {v own e} (stops : Stops l contents a w.files own (.file e))
      (only : Only (own.map l.path) w.files v.files) (opened : v.opened = w.opened ++ own.map l.path)
      (found : ∀ b ∈ own, v.files.find (l.path b) = .ok (v.files.placeOf (l.path b))) :
      PutEnds l contents a w (v,some (.failed e))
  | left {v text e} (given : contents.lookup a = some text) (bare : Utf8.encode text = .error e)
      (empty : v.files.read (l.path a) = .ok []) (only : Only [l.path a] w.files v.files)
      (opened : v.opened = w.opened ++ [l.path a]) : PutEnds l contents a w (v,some (.unencodable e))

section run
variable {l : Layout} {contents : Contents} {artifacts before rest : List Artifact} {a : Artifact} {s t u : Store}
  {w v : Writing} {path text : Text}

theorem directoryPlain (plain : Plain path) : Plain (Writing.directoryOf path) := by
  unfold Writing.directoryOf
  simp only
  split
  · exact ⟨_,rfl⟩
  · exact plainPrefix (parentPrefix path) plain

theorem putRead (bytes : Bytes) (named : NamesFile path) (found : s.find path = .ok (s.placeOf path))
    (other : s.node? (s.placeOf path) ≠ some .directory) :
    (s.put (s.placeOf path) (.file bytes)).read path = .ok bytes := by
  have only := putFile other bytes
  refine readOk.mpr ⟨?_,?_⟩
  · rw [onlyPlace only]
    exact onlyFind only named found
  · rw [onlyPlace only,fileSome,nodePut (belowRoot other),if_pos rfl]

theorem putEnds (plain : Plain (l.path a)) (given : contents.lookup a = some text) :
    PutEnds l contents a w (w.put (l.path a) text) := by
  have named := l.pathNamesFile a
  have directories := directoriesMade w.files (Writing.directoryOf (l.path a)) ((Writing.directoryOf (l.path a)).length + 1)
  unfold Writing.put
  split
  · rename_i t f made
    have fails := directories.fails (directoryPlain plain) f
    rw [← makeDirectories,made] at directories fails
    obtain ⟨e,rfl⟩ := fails rfl
    exact .stopped (.directory given made) directories.only (List.append_nil _).symm (by simp)
  · rename_i t made
    rw [← makeDirectories,made] at directories
    split
    · rename_i f closed
      obtain ⟨e,rfl⟩ := openFails plain closed
      exact .stopped (.opening given made closed) directories.only (List.append_nil _).symm (by simp)
    · rename_i u opens
      obtain ⟨found,other,rfl⟩ := openOk opens
      have opened := onlyTrans directories.only (putFile other [])
      have empty := putRead [] named found other
      simp only
      split
      · rename_i f unwritten
        rcases writeFails plain unwritten with ⟨e,rfl⟩ | ⟨e,rfl,bare⟩
        · refine .stopped (.writing given made opens unwritten) opened rfl ?_
          intro b own
          rw [List.mem_singleton.mp own]
          exact (readOk.mp empty).1
        · exact .left given bare empty opened rfl
      · rename_i u written
        obtain ⟨bytes,encodes,rfl⟩ := writeOk (readOk.mp empty).2 written
        have file := fileSome.mp (readOk.mp empty).2
        have whole := putRead ([] ++ bytes) named (readOk.mp empty).1 (by simp [file])
        exact .written ⟨text,bytes,given,encodes,whole⟩
          (onlyMore (by simp) (onlyTrans opened (putFile (by simp [file]) _))) rfl

theorem takeBackOnly (w : Writing) (path : Text) : Only [path] w.files (w.takeBack path).files := by
  unfold Writing.takeBack
  split
  · split
    · rename_i files removed
      obtain ⟨other,rfl⟩ := removeOk removed
      exact eraseFile other
    · exact onlySelf _ _
  · exact onlySelf _ _

theorem takeBackNone {p : Place} (gone : w.files.file? p = none) : (w.takeBack path).files.file? p = none := by
  by_cases own : p = w.files.placeOf path
  · unfold Writing.takeBack
    split
    · rename_i there
      obtain ⟨bytes,held⟩ := isFileRead.mp there
      rw [own,(readOk.mp held).2] at gone
      cases gone
    · exact gone
  · rw [(takeBackOnly w path).files p fun other member => List.mem_singleton.mp member ▸ own]
    exact gone

theorem takeBackGone (found : w.files.find path = .ok (w.files.placeOf path))
    (free : w.files.refusal? .remove path = none) : (w.takeBack path).files.file? (w.files.placeOf path) = none := by
  cases there : w.files.file? (w.files.placeOf path) with
  | none => exact takeBackNone there
  | some bytes =>
    have held : w.files.read path = .ok bytes := readOk.mpr ⟨found,there⟩
    have below : w.files.placeOf path ≠ [] := belowRoot (s := w.files) (by simp [fileSome.mp there])
    unfold Writing.takeBack
    rw [if_pos (isFileRead.mpr ⟨bytes,held⟩)]
    simp only [removeFile held free]
    exact fileNone (by simp [Writing.note,nodeErased below])

theorem takenOnly (paths : List Text) (w : Writing) : Only paths w.files (paths.foldl Writing.takeBack w).files := by
  induction paths generalizing w with
  | nil => exact onlySelf _ _
  | cons path paths ih => exact onlyTrans (takeBackOnly w path) (ih _)

theorem takenNone {p : Place} (paths : List Text) (gone : w.files.file? p = none) :
    (paths.foldl Writing.takeBack w).files.file? p = none := by
  induction paths generalizing w with
  | nil => exact gone
  | cons path paths ih => exact ih (takeBackNone gone)

theorem takenGone {paths : List Text}
    (found : ∀ path ∈ paths, NamesFile path ∧ w.files.find path = .ok (w.files.placeOf path)) :
    ∀ path ∈ paths, w.files.refusal? .remove path = none →
      (paths.foldl Writing.takeBack w).files.file? (w.files.placeOf path) = none := by
  induction paths generalizing w with
  | nil => simp
  | cons first paths ih =>
    intro path member free
    have only := takeBackOnly w first
    rcases List.mem_cons.mp member with rfl | later
    · exact takenNone paths (takeBackGone (found path List.mem_cons_self).2 free)
    · rw [← onlyPlace only path]
      refine ih (fun path member => ?_) path later (by rw [onlyRefusal only,free])
      obtain ⟨named,ok⟩ := found path (List.mem_cons_of_mem _ member)
      rw [onlyPlace only]
      exact ⟨named,onlyFind only named ok⟩

structure Reached (l : Layout) (contents : Contents) (before : List Artifact) (s : Store) (w : Writing) : Prop where
  written : Written l contents before s w.files
  opened : w.opened = before.map l.path

/- How a run ends: with all its files, with none that it opened, or at a text without bytes. -/
inductive Ends (l : Layout) (contents : Contents) (artifacts : List Artifact) (s t : Store) : Option Failure → Prop where
  | complete (written : Written l contents artifacts s t) : Ends l contents artifacts s t none
  | undone {before a after mid own f} (order : artifacts = before ++ a :: after)
      (written : Written l contents before s mid) (stops : Stops l contents a mid own f)
      (only : Only ((before ++ own).map l.path) s t)
      (gone : ∀ b ∈ before ++ own, s.refusal? .remove (l.path b) = none → t.file? (s.placeOf (l.path b)) = none) :
      Ends l contents artifacts s t (some (.artifactWrite a (l.path a) f.message))
  | left {before a after text e} (order : artifacts = before ++ a :: after)
      (holds : ∀ b ∈ before, Holds l contents t b) (given : contents.lookup a = some text)
      (bare : Utf8.encode text = .error e) (empty : t.read (l.path a) = .ok [])
      (only : Only ((before ++ [a]).map l.path) s t) : Ends l contents artifacts s t (some (.unencodable e))

theorem holdsKept (differ : a ∉ artifacts) (only : Only (artifacts.map l.path) s t) (holds : Holds l contents s a) :
    Holds l contents t a := by
  obtain ⟨text,bytes,given,encodes,held⟩ := holds
  refine ⟨text,bytes,given,encodes,readKept only (l.pathNamesFile a) ?_ held⟩
  intro other member
  obtain ⟨b,inside,rfl⟩ := List.mem_map.mp member
  exact l.placesDiffer s fun same => differ (same ▸ inside)

theorem holdsFound (holds : Holds l contents t a) : t.find (l.path a) = .ok (t.placeOf (l.path a)) := by
  obtain ⟨_,_,_,_,held⟩ := holds
  exact (readOk.mp held).1

theorem writtenMore (written : Written l contents before s t) (fresh : a ∉ before) (holds : Holds l contents u a)
    (only : Only [l.path a] t u) : Written l contents (before ++ [a]) s u where
  only := by
    rw [List.map_append]
    exact onlyTrans written.only only
  holds := by
    intro b member
    rcases List.mem_append.mp member with early | last
    · have apart : b ∉ [a] := fun same => fresh (List.mem_singleton.mp same ▸ early)
      exact holdsKept apart only (written.holds b early)
    · rw [List.mem_singleton.mp last]
      exact holds

theorem giveUpEnds {own after : List Artifact} {f : Failure} (order : artifacts = before ++ a :: after)
    (written : Written l contents before s t) (stops : Stops l contents a t own f)
    (only : Only ((before ++ own).map l.path) s w.files) (opened : w.opened = (before ++ own).map l.path)
    (found : ∀ b ∈ before ++ own, w.files.find (l.path b) = .ok (w.files.placeOf (l.path b))) :
    Ends l contents artifacts s (w.giveUp a (l.path a) f).1.files (some (w.giveUp a (l.path a) f).2) := by
  have foreseen : w.giveUp a (l.path a) f =
      (w.rollback.note (Writing.failed a (l.path a) f.message),.artifactWrite a (l.path a) f.message) := by
    cases stops <;> rfl
  have taken := takenOnly w.opened w
  have all : ∀ path ∈ w.opened, NamesFile path ∧ w.files.find path = .ok (w.files.placeOf path) := by
    intro path member
    rw [opened] at member
    obtain ⟨b,inside,rfl⟩ := List.mem_map.mp member
    exact ⟨l.pathNamesFile b,found b inside⟩
  rw [foreseen]
  refine .undone order written stops ?_ ?_
  · refine onlyMore ?_ (onlyTrans only taken)
    rw [opened]
    simp
  · intro b member free
    have gone := takenGone all (l.path b) (opened ▸ List.mem_map_of_mem member) (by rw [onlyRefusal only,free])
    rw [onlyPlace only] at gone
    exact gone

theorem putAllEnds (rest : List Artifact) (plain : ∀ a, Plain (l.path a)) (reached : Reached l contents before s w)
    (distinct : (before ++ rest).Nodup) :
    Ends l contents (before ++ rest) s (w.putAll l contents rest).1.files (w.putAll l contents rest).2 := by
  -- by induction on the artifacts that are left: what was written of those before stays, as none comes twice
  induction rest generalizing before w with
  | nil =>
    rw [List.append_nil]
    exact .complete reached.written
  | cons a rest ih =>
    have fresh : a ∉ before := fun again =>
      (List.nodup_append.mp distinct).2.2 a again a List.mem_cons_self rfl
    have found : ∀ b ∈ before, w.files.find (l.path b) = .ok (w.files.placeOf (l.path b)) :=
      fun b member => holdsFound (reached.written.holds b member)
    unfold Writing.putAll
    simp only
    split
    · rename_i absent
      refine giveUpEnds rfl reached.written (.missing absent) ?_ ?_ ?_
      · rw [List.append_nil]
        exact reached.written.only
      · rw [List.append_nil]
        exact reached.opened
      · rw [List.append_nil]
        exact found
    · rename_i text given
      have put := putEnds (w := w) (plain a) given
      split
      · rename_i v f ended
        rw [ended] at put
        cases put with
        | stopped stops only opened own =>
          refine giveUpEnds rfl reached.written stops ?_ ?_ ?_
          · rw [List.map_append]
            exact onlyTrans reached.written.only only
          · rw [opened,reached.opened,List.map_append]
          · intro b member
            rcases List.mem_append.mp member with early | last
            · rw [onlyPlace only]
              exact onlyFind only (l.pathNamesFile b) (found b early)
            · exact own b last
        | left given bare empty only opened =>
          have holds : ∀ b ∈ before, Holds l contents v.files b := by
            intro b early
            have apart : b ∉ [a] := fun same => fresh (List.mem_singleton.mp same ▸ early)
            exact holdsKept apart only (reached.written.holds b early)
          refine .left rfl holds given bare empty ?_
          rw [List.map_append]
          exact onlyTrans reached.written.only only
      · rename_i v ended
        rw [ended] at put
        cases put with
        | written holds only opened =>
          have next := @ih (before ++ [a]) (v.note (Writing.written a (l.path a) text))
            ⟨writtenMore reached.written fresh holds only,by
              rw [List.map_append,← reached.opened]
              exact opened⟩
            (by rwa [List.append_assoc,List.singleton_append])
          rwa [List.append_assoc,List.singleton_append] at next

theorem putAllLeft {e : Utf8.EncodeError} (given : contents.lookup a = some text) (bare : Utf8.encode text = .error e)
    (made : w.files.makeDirectories (Writing.directoryOf (l.path a)) = (t,none))
    (opens : t.openForWriting (l.path a) = .ok u) (free : u.refusal? .write (l.path a) = none) :
    w.putAll l contents (a :: rest) =
      ({ w with files := u, opened := w.opened ++ [l.path a] },some (.unencodable e)) := by
  have unwritten : u.write (l.path a) text = .error (.unencodable e) := by
    unfold Store.write
    simp only [free,bare,bind,Except.bind,Except.mapError]
  unfold Writing.putAll
  simp only [given,Writing.put,made,opens,unwritten]
  rfl

def answer (l : Layout) : Option Failure → Except Failure (List (Artifact × Text))
  | none => .ok (pathsOf l)
  | some f => .error f

theorem writeRun (l : Layout) (contents : Contents) (session : Session) {failure : Option Failure}
    (run : Writing.putAll { files := session.files } l contents Artifact.all = (w,failure)) :
    write l contents session =
      (answer l failure,{ session with files := w.files, records := session.records ++ w.records }) := by
  rw [write,Work.bindRun (Work.filesRun session),run]
  simp only
  rw [Work.bindRun (Work.setFilesRun _ session),Work.bindRun (Work.logRun _ _)]
  cases failure <;> rfl

theorem writeEnds (contents : Contents) (session : Session) (plain : ∀ a, Plain (l.path a)) :
    ∃ failure, Ends l contents Artifact.all session.files (write l contents session).2.files failure ∧
      (write l contents session).1 = answer l failure := by
  have start : Reached l contents [] session.files { files := session.files } := ⟨⟨onlySelf _ _,by simp⟩,rfl⟩
  have ends := putAllEnds Artifact.all plain start (by decide)
  rw [List.nil_append] at ends
  cases run : Writing.putAll { files := session.files } l contents Artifact.all with
  | mk w failure =>
    rw [run] at ends
    rw [writeRun l contents session run]
    exact ⟨failure,ends,rfl⟩

end run

structure Task where
  layout : Layout
  contents : Contents
  refusals : List Refusal := []

namespace Task

def given (t : Task) (session : Session) : Store := { session.files with refusals := t.refusals }

def run (t : Task) (session : Session) : Except Failure (List (Artifact × Text)) × Session :=
  write t.layout t.contents { session with files := t.given session }

def runAll (session : Session) (tasks : List Task) : Session := tasks.foldl (fun session t => (t.run session).2) session

structure Fit (t : Task) : Prop where
  paths : ∀ a, Plain (t.layout.path a)
  texts : ∀ a text, t.contents.lookup a = some text → ∃ bytes, Utf8.encode text = .ok bytes

/- A run of a task as it should be. It returns with all its files and no other file changed; or it
names the first artifact that was not written, and has taken back what it opened, as far as that
can be removed, with no other file changed. -/
structure Kept (t : Task) (s u : Store) (r : Except Failure (List (Artifact × Text))) : Prop where
  returned : ∀ paths, r = .ok paths → paths = pathsOf t.layout ∧ Written t.layout t.contents Artifact.all s u
  failed : ∀ f, r = .error f → ∃ before a after mid own reason,
    Artifact.all = before ++ a :: after ∧ f = .artifactWrite a (t.layout.path a) (Failure.message reason) ∧
    Written t.layout t.contents before s mid ∧ Stops t.layout t.contents a mid own reason ∧
    Only ((before ++ own).map t.layout.path) s u ∧
    (∀ b, b ∉ before ++ own → u.file? (s.placeOf (t.layout.path b)) = s.file? (s.placeOf (t.layout.path b))) ∧
    ∀ b ∈ before ++ own, s.refusal? .remove (t.layout.path b) = none → u.file? (s.placeOf (t.layout.path b)) = none

def Puts (t : Task) (s : Store) (place : Place) (bytes : Bytes) : Prop :=
  ∃ a text, place = s.placeOf (t.layout.path a) ∧ t.contents.lookup a = some text ∧ Utf8.encode text = .ok bytes

section tasks
variable {t : Task} {tasks : List Task} {session : Session} {s : Store}

theorem runKept (fit : t.Fit) (session : Session) : t.Kept (t.given session) (t.run session).2.files (t.run session).1 := by
  obtain ⟨failure,ends,result⟩ := writeEnds t.contents { session with files := t.given session } fit.paths
  rw [run,result]
  cases ends with
  | complete written =>
    refine ⟨fun paths same => ?_,fun f same => (nomatch same)⟩
    cases same
    exact ⟨rfl,written⟩
  | undone order written stops only gone =>
    refine ⟨fun paths same => (nomatch same),fun f same => ?_⟩
    cases same
    refine ⟨_,_,_,_,_,_,order,rfl,written,stops,only,?_,gone⟩
    intro b outside
    refine only.files _ fun path member => ?_
    obtain ⟨c,inside,rfl⟩ := List.mem_map.mp member
    exact t.layout.placesDiffer _ fun same => outside (same ▸ inside)
  | left order holds given bare empty only =>
    obtain ⟨bytes,encodes⟩ := fit.texts _ _ given
    rw [bare] at encodes
    cases encodes

theorem runWorking (fit : t.Fit) (session : Session) : (t.run session).2.files.working = session.files.working := by
  obtain ⟨failure,ends,_⟩ := writeEnds t.contents { session with files := t.given session } fit.paths
  cases ends with
  | complete written => exact written.only.working
  | undone _ _ _ only _ | left _ _ _ _ _ only => exact only.working

theorem runWhole (fit : t.Fit) (free : ∀ r ∈ t.refusals, r.operation ≠ .remove) {place : Place} {bytes : Bytes}
    (held : (t.run session).2.files.file? place = some bytes) :
    session.files.file? place = some bytes ∨ t.Puts session.files place bytes := by
  have kept := runKept fit session
  have same : ∀ a, (t.given session).placeOf (t.layout.path a) = session.files.placeOf (t.layout.path a) := fun a => rfl
  cases ended : (t.run session).1 with
  | ok paths =>
    have written := (kept.returned paths ended).2
    by_cases own : ∃ a, place = session.files.placeOf (t.layout.path a)
    · obtain ⟨a,rfl⟩ := own
      obtain ⟨text,whole,given,encodes,read⟩ := written.holds a (by cases a <;> decide)
      have file := (readOk.mp read).2
      rw [onlyPlace written.only,same,held] at file
      cases file
      exact .inr ⟨a,text,rfl,given,encodes⟩
    · refine .inl ?_
      rw [written.only.files place fun path member => ?_] at held
      · exact held
      · obtain ⟨a,_,rfl⟩ := List.mem_map.mp member
        exact fun here => own ⟨a,here⟩
  | error f =>
    obtain ⟨before,a,after,mid,own,reason,_,_,_,_,only,_,gone⟩ := kept.failed f ended
    have unrefused : ∀ path, (t.given session).refusal? .remove path = none := by
      intro path
      rw [refusal?,Option.map_eq_none_iff,List.find?_eq_none]
      intro r member
      simp [free r member]
    by_cases own' : ∃ b ∈ before ++ own, place = session.files.placeOf (t.layout.path b)
    · obtain ⟨b,inside,rfl⟩ := own'
      have none := gone b inside (unrefused _)
      rw [same,held] at none
      cases none
    · refine .inl ?_
      rw [only.files place fun path member => ?_] at held
      · exact held
      · obtain ⟨b,inside,rfl⟩ := List.mem_map.mp member
        exact fun here => own' ⟨b,inside,here⟩

theorem allWhole (fit : ∀ t ∈ tasks, t.Fit) (free : ∀ t ∈ tasks, ∀ r ∈ t.refusals, r.operation ≠ .remove)
    {place : Place} {bytes : Bytes} (held : (runAll session tasks).files.file? place = some bytes) :
    session.files.file? place = some bytes ∨ ∃ t ∈ tasks, t.Puts session.files place bytes := by
  induction tasks generalizing session with
  | nil => exact .inl held
  | cons t tasks ih =>
    have working := runWorking (fit t List.mem_cons_self) session
    rcases ih (fun u member => fit u (List.mem_cons_of_mem _ member))
      (fun u member => free u (List.mem_cons_of_mem _ member)) held with early | ⟨u,member,a,text,place,given,encodes⟩
    · rcases runWhole (fit t List.mem_cons_self) (free t List.mem_cons_self) early with old | puts
      · exact .inl old
      · exact .inr ⟨t,List.mem_cons_self,puts⟩
    · refine .inr ⟨u,List.mem_cons_of_mem _ member,a,text,?_,given,encodes⟩
      rw [place,placeOf,working]
      rfl

theorem tasksKept (tasks : List Task) (session : Session) (fit : ∀ t ∈ tasks, t.Fit) :
    (∀ before t later, tasks = before ++ t :: later →
      t.Kept (t.given (runAll session before)) (t.run (runAll session before)).2.files (t.run (runAll session before)).1) ∧
    ((∀ t ∈ tasks, ∀ r ∈ t.refusals, r.operation ≠ .remove) → ∀ place bytes,
      (runAll session tasks).files.file? place = some bytes →
        session.files.file? place = some bytes ∨ ∃ t ∈ tasks, t.Puts session.files place bytes) := by
  refine ⟨?_,fun free place bytes held => allWhole fit free held⟩
  rintro before t later rfl
  exact runKept (fit t (List.mem_append_right _ List.mem_cons_self)) _

end tasks

def firstLogin : Task where
  layout := { outputDir := "output", className := "Login" }
  contents := [(.page,"page one"),(.specification,"feature one"),(.glue,"steps one")]

def secondLogin : Task where
  layout := { outputDir := "output", className := "Login" }
  contents := [(.page,"page two"),(.specification,"feature two"),(.glue,"steps two")]
  refusals := [⟨.write,"login.feature","No space left on device"⟩]

theorem loginFit : firstLogin.Fit ∧ secondLogin.Fit := by
  have plain : ∀ a, Plain (firstLogin.layout.path a) := by
    intro a
    cases a <;> exact ⟨_,rfl⟩
  refine ⟨⟨plain,?_⟩,⟨plain,?_⟩⟩
  all_goals
    intro a text given
    cases a <;> cases given <;> exact ⟨_,rfl⟩

theorem secondLoginUndone :
    (secondLogin.run (runAll {} [firstLogin])).1 = .error (.artifactWrite .specification
      "output/features/login.feature" "No space left on device") ∧
    secondLogin.Kept (secondLogin.given (runAll {} [firstLogin])) (secondLogin.run (runAll {} [firstLogin])).2.files
      (secondLogin.run (runAll {} [firstLogin])).1 ∧
    ∀ place bytes, (runAll {} [firstLogin,secondLogin]).files.file? place = some bytes →
      ∃ t ∈ [firstLogin,secondLogin], t.Puts {} place bytes := by
  have kept := tasksKept [firstLogin,secondLogin] {} (by simpa using loginFit)
  have free : ∀ t ∈ [firstLogin,secondLogin], ∀ r ∈ t.refusals, r.operation ≠ .remove := by
    simp [firstLogin,secondLogin]
  refine ⟨rfl,kept.1 [firstLogin] secondLogin [] rfl,fun place bytes held => ?_⟩
  refine (kept.2 free place bytes held).resolve_left fun old => ?_
  cases place <;> cases old

end Task
end TestWeaver.Generation
