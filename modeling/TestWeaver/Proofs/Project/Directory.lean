import TestWeaver.Proofs.Project.Keys

/-! Directories of project files, and the registries that loads, registrations and choices lead to. A file that is refused
is told and left out, and the others are loaded. Only a refusal of an unforeseen sort, an identity that is no key, and one
that is too long to be told end the loading early; what was loaded before stays. -/
namespace TestWeaver.Registry
open Value

section loading
variable {e : Environment} {r : Registry} {session : Session} {isVerbose : Bool} {path : Text} {paths : List Text}

def describedBy (e : Environment) (files : Files.Store) (path : Text) : Except Failure Project :=
  ((files.read path).mapError Failure.ofPath).bind (Project.ofContent e)

def accepted (e : Environment) (files : Files.Store) (paths : List Text) : List Project :=
  paths.filterMap fun path => (describedBy e files path).toOption

def told (e : Environment) (files : Files.Store) (isVerbose : Bool) (path : Text) : Text :=
  match describedBy e files path with
  | .error f => "  Warning: Could not load " ++ path ++ ": " ++ f.message ++ "\n"
  | .ok p => if isVerbose then "  Loaded project config: " ++ p.id.shown ++ "\n" else []

def withAll (r : Registry) (known : List Project) : Registry := { r with projects := known.foldl put r.projects }

def printing (session : Session) (t : Text) : Session := { session with printed := session.printed ++ t }

inductive Passes (e : Environment) (files : Files.Store) (isVerbose : Bool) (path : Text) : Prop where
  | skipped {f} (refused : describedBy e files path = .error f) (foreseen : isSkippable f = true)
  | loaded {p} (described : describedBy e files path = .ok p) (key : p.id.isKey = true)
      (short : isVerbose = true → p.id.isTooLong = false)

inductive Stops (e : Environment) (files : Files.Store) (isVerbose : Bool) (path : Text) : Failure → List Project → Prop where
  | unforeseen {f} (refused : describedBy e files path = .error f) (kind : isSkippable f = false) :
      Stops e files isVerbose path f []
  | noKey {p} (described : describedBy e files path = .ok p) (key : p.id.isKey = false) :
      Stops e files isVerbose path (.wrongType ("unhashable type: " ++ p.id.kindName.quoted)) []
  | tooLong {p} (described : describedBy e files path = .ok p) (key : p.id.isKey = true) (verbose : isVerbose = true)
      (long : p.id.isTooLong = true) : Stops e files isVerbose path (.longNumeral .needed) [p]

theorem passesOrStops (e : Environment) (files : Files.Store) (isVerbose : Bool) (path : Text) :
    Passes e files isVerbose path ∨ ∃ f kept, Stops e files isVerbose path f kept := by
  cases described : describedBy e files path with
  | error f =>
    cases kind : isSkippable f with
    | true => exact .inl (.skipped described kind)
    | false => exact .inr ⟨f,[],.unforeseen described kind⟩
  | ok p =>
    cases key : p.id.isKey with
    | false => exact .inr ⟨_,[],.noKey described key⟩
    | true =>
      by_cases long : isVerbose = true ∧ p.id.isTooLong = true
      · exact .inr ⟨_,[p],.tooLong described key long.1 long.2⟩
      · exact .inl (.loaded described key fun verbose => by simpa [verbose] using long)

theorem describedRun (e : Environment) (path : Text) (session : Session) :
    Project.load e path session = (describedBy e session.files path,session) := by
  unfold Project.load
  rw [Work.bindRun (Work.filesRun session)]
  cases read : session.files.read path <;> simp only [describedBy,read] <;> rfl

theorem registerKey {p : Project} (key : p.id.isKey = true) : r.register p = .ok (r.withAll [p]) := by
  simp only [register,checkKey,key]
  rfl

theorem sayRun (line : Text) (session : Session) : Work.say line session = (.ok (),printing session (line ++ "\n")) := by
  unfold printing
  rw [← List.append_assoc]
  rfl

theorem passRun (passes : Passes e session.files isVerbose path) (paths : List Text) (n : Nat) (r : Registry) :
    loadFiles e isVerbose (path :: paths) n r session =
      loadFiles e isVerbose paths (n + (accepted e session.files [path]).length)
        (r.withAll (accepted e session.files [path])) (printing session (told e session.files isVerbose path)) := by
  rw [loadFiles,Work.bindRun (Work.attemptRun (describedRun e path session))]
  cases passes with
  | skipped refused foreseen =>
    have none : accepted e session.files [path] = [] := by simp [accepted,refused,Except.toOption]
    simp only [refused,foreseen,if_pos]
    rw [Work.bindRun (sayRun _ session),none]
    simp only [told,refused]
    rfl
  | @loaded p described key short =>
    have one : accepted e session.files [path] = [p] := by simp [accepted,described,Except.toOption]
    simp only [described,registerKey key]
    rw [one]
    cases isVerbose with
    | false =>
      have quiet : printing session (told e session.files false path) = session := by simp [told,described,printing]
      rw [quiet]
      cases p.id.written <;> rfl
    | true =>
      have shown : p.id.written = .ok p.id.shown := by simp [written,short rfl]
      simp only [shown,if_pos]
      rw [Work.bindRun (sayRun _ session)]
      simp only [told,described,if_pos]
      rfl

theorem stopRun {f : Failure} {kept : List Project} (stops : Stops e session.files isVerbose path f kept)
    (paths : List Text) (n : Nat) (r : Registry) :
    loadFiles e isVerbose (path :: paths) n r session = (.ok (.error f,r.withAll kept),session) := by
  rw [loadFiles,Work.bindRun (Work.attemptRun (describedRun e path session))]
  cases stops with
  | unforeseen refused kind =>
    simp only [refused,kind]
    rfl
  | noKey described key =>
    simp only [described,register,checkKey,key]
    rfl
  | tooLong described key verbose long =>
    simp only [described,registerKey key,written,long,verbose]
    rfl

theorem acceptedCons (e : Environment) (files : Files.Store) (path : Text) (paths : List Text) :
    accepted e files (path :: paths) = accepted e files [path] ++ accepted e files paths :=
  List.filterMap_append (l := [path])

theorem withAllTwice (r : Registry) (first second : List Project) :
    (r.withAll first).withAll second = r.withAll (first ++ second) := by
  simp only [withAll,List.foldl_append]

theorem printingTwice (session : Session) (first second : Text) :
    printing (printing session first) second = printing session (first ++ second) := by
  simp only [printing,List.append_assoc]

theorem passAll (after : List Text) (n : Nat) (r : Registry) (session : Session)
    (pass : ∀ path ∈ paths, Passes e session.files isVerbose path) :
    loadFiles e isVerbose (paths ++ after) n r session =
      loadFiles e isVerbose after (n + (accepted e session.files paths).length) (r.withAll (accepted e session.files paths))
        (printing session (paths.flatMap (told e session.files isVerbose))) := by
  -- on the files gone through; the count, the projects and the lines that are printed go along
  induction paths generalizing n r session with
  | nil => simp [accepted,withAll,printing]
  | cons path paths ih =>
    have later := ih (n + (accepted e session.files [path]).length) (r.withAll (accepted e session.files [path]))
      (printing session (told e session.files isVerbose path)) fun path member => pass path (List.mem_cons_of_mem _ member)
    rw [List.cons_append,passRun (pass path List.mem_cons_self),later,withAllTwice,printingTwice,Nat.add_assoc,
      ← List.length_append,List.flatMap_cons,acceptedCons e session.files path paths]
    rfl

def listing (session : Session) (directory : Value) : Except Failure (List Text) :=
  (directory.orElse (.text Project.directory)).path.bind fun path => filesIn session.files (Path.tidy path)

theorem loadListed {directory : Value} (listed : listing session directory = .ok paths) :
    r.loadDirectory e directory isVerbose session = loadFiles e isVerbose paths 0 r session := by
  unfold loadDirectory
  rw [Work.bindRun (Work.filesRun session)]
  simp only [listing] at listed
  simp only [listed]

theorem loadUnlisted {directory : Value} {f : Failure} (unlisted : listing session directory = .error f) :
    r.loadDirectory e directory isVerbose session = (.ok (.error f,r),session) := by
  unfold loadDirectory
  rw [Work.bindRun (Work.filesRun session)]
  simp only [listing] at unlisted
  simp only [unlisted]
  rfl

theorem listedSorted {directory : Value} (listed : listing session directory = .ok paths) :
    ∃ (base : Text) (names : List Text), paths = names.map (fun name => Path.tidy (Path.join base name)) ∧
      (names.Pairwise fun a b => Text.le a b = true) ∧ ∀ name ∈ names, isProjectFile name = true := by
  obtain ⟨path,_,listed⟩ := Failure.bindOk listed
  unfold filesIn at listed
  obtain ⟨found,_,listed⟩ := Failure.bindOk listed
  split at listed
  · cases Except.ok.inj listed
    refine ⟨_,_,rfl,List.Pairwise.filter _ ?_,fun name member => (List.mem_filter.mp member).2⟩
    unfold Files.Store.entries
    split
    · exact List.Pairwise.nil
    · exact List.pairwise_mergeSort Text.leTrans Text.leTotal _
  · cases Except.ok.inj listed
    exact ⟨[],[],rfl,List.Pairwise.nil,nofun⟩

/- How a directory is loaded whose files all pass, and how it ends at the first file that does not. -/
structure Loads (r : Registry) (e : Environment) (isVerbose : Bool) (session : Session) (directory : Value)
    (paths : List Text) : Prop where
  normal : (∃ n s next, r.loadDirectory e directory isVerbose session = (.ok (.ok n,s),next)) ↔
    ∀ path ∈ paths, Passes e session.files isVerbose path
  whole : (∀ path ∈ paths, Passes e session.files isVerbose path) →
    r.loadDirectory e directory isVerbose session =
      (.ok (.ok (accepted e session.files paths).length,r.withAll (accepted e session.files paths)),
        printing session (paths.flatMap (told e session.files isVerbose)))
  early : ∀ before path after f kept, paths = before ++ path :: after →
    (∀ path ∈ before, Passes e session.files isVerbose path) → Stops e session.files isVerbose path f kept →
    r.loadDirectory e directory isVerbose session =
      (.ok (.error f,r.withAll (accepted e session.files before ++ kept)),
        printing session (before.flatMap (told e session.files isVerbose)))

theorem wholeRun (n : Nat) (r : Registry) (pass : ∀ path ∈ paths, Passes e session.files isVerbose path) :
    loadFiles e isVerbose paths n r session =
      (.ok (.ok (n + (accepted e session.files paths).length),r.withAll (accepted e session.files paths)),
        printing session (paths.flatMap (told e session.files isVerbose))) := by
  have run := passAll [] n r session pass
  rw [List.append_nil] at run
  rw [run]
  rfl

theorem earlyRun {before after : List Text} {f : Failure} {kept : List Project} (n : Nat) (r : Registry)
    (pass : ∀ path ∈ before, Passes e session.files isVerbose path) (stops : Stops e session.files isVerbose path f kept) :
    loadFiles e isVerbose (before ++ path :: after) n r session =
      (.ok (.error f,r.withAll (accepted e session.files before ++ kept)),
        printing session (before.flatMap (told e session.files isVerbose))) := by
  rw [passAll (path :: after) n r session pass,stopRun,withAllTwice]
  exact stops

theorem firstStop (e : Environment) (session : Session) (isVerbose : Bool) (paths : List Text) :
    (∀ path ∈ paths, Passes e session.files isVerbose path) ∨
    ∃ before path after f kept, paths = before ++ path :: after ∧
      (∀ path ∈ before, Passes e session.files isVerbose path) ∧ Stops e session.files isVerbose path f kept := by
  induction paths with
  | nil => exact .inl nofun
  | cons path paths ih =>
    rcases passesOrStops e session.files isVerbose path with passes | ⟨f,kept,stops⟩
    · rcases ih with pass | ⟨before,last,after,f,kept,rfl,pass,stops⟩
      · exact .inl (List.forall_mem_cons.mpr ⟨passes,pass⟩)
      · exact .inr ⟨path :: before,last,after,f,kept,rfl,List.forall_mem_cons.mpr ⟨passes,pass⟩,stops⟩
    · exact .inr ⟨[],path,paths,f,kept,rfl,nofun,stops⟩

theorem directoryLoads {directory : Value} (r : Registry) (e : Environment) (isVerbose : Bool)
    (listed : listing session directory = .ok paths) : r.Loads e isVerbose session directory paths := by
  have run : r.loadDirectory e directory isVerbose session = loadFiles e isVerbose paths 0 r session := loadListed listed
  refine ⟨⟨?_,?_⟩,?_,?_⟩
  · rintro ⟨n,s,next,ended⟩
    rcases firstStop e session isVerbose paths with pass | ⟨before,path,after,f,kept,rfl,pass,stops⟩
    · exact pass
    · rw [run,earlyRun 0 r pass stops] at ended
      cases ended
  · intro pass
    exact ⟨_,_,_,run.trans (wholeRun 0 r pass)⟩
  · intro pass
    rw [run,wholeRun 0 r pass,Nat.zero_add]
  · rintro before path after f kept rfl pass stops
    rw [run,earlyRun 0 r pass stops]

/- Projects that the files of a directory describe. -/
def Listed (e : Environment) (session : Session) (directory : Value) (known : List Project) : Prop :=
  ∀ p ∈ known, ∃ paths path, listing session directory = .ok paths ∧ path ∈ paths ∧
    describedBy e session.files path = .ok p

theorem acceptedListed {directory : Value} {part : List Text} (listed : listing session directory = .ok paths)
    (among : ∀ path ∈ part, path ∈ paths) : Listed e session directory (accepted e session.files part) := by
  intro p member
  obtain ⟨path,inside,made⟩ := List.mem_filterMap.mp member
  exact ⟨paths,path,listed,among path inside,Failure.ofResult made⟩

/- Whatever a directory holds, loading it comes to an end and adds what some of its files describe. -/
theorem directoryRun (r : Registry) (e : Environment) (directory : Value) (isVerbose : Bool) (session : Session) :
    ∃ result known next, r.loadDirectory e directory isVerbose session = (.ok (result,r.withAll known),next) ∧
      Listed e session directory known := by
  cases listed : listing session directory with
  | error f => exact ⟨_,[],_,loadUnlisted listed,nofun⟩
  | ok paths =>
    have loads := directoryLoads r e isVerbose listed
    rcases firstStop e session isVerbose paths with pass | ⟨before,path,after,f,kept,rfl,pass,stops⟩
    · exact ⟨_,_,_,loads.whole pass,acceptedListed listed fun _ member => member⟩
    · refine ⟨_,_,_,loads.early before path after f kept rfl pass stops,?_⟩
      intro p member
      rcases List.mem_append.mp member with early | last
      · exact acceptedListed listed (fun _ member => List.mem_append_left _ member) p early
      · cases stops with
        | unforeseen => cases last
        | noKey => cases last
        | tooLong described =>
          cases List.mem_singleton.mp last
          exact ⟨_,path,listed,by simp,described⟩

/- As far as the project files of a directory can be read, they are descriptions with texts. -/
def AllDescribed (session : Session) (directory : Value) : Prop :=
  ∀ paths path content v, listing session directory = .ok paths → path ∈ paths → session.files.read path = .ok content →
    Yaml.ofBytes content = .ok v → Project.Described (v.orElse (.mapping []))

theorem describedOf {directory : Value} {p : Project} (all : AllDescribed session directory)
    (listed : listing session directory = .ok paths) (member : path ∈ paths) (made : describedBy e session.files path = .ok p) :
    ∃ v, Project.Described v ∧ Project.ofValue e v = .ok p := by
  unfold describedBy at made
  obtain ⟨content,held,made⟩ := Failure.bindOk made
  unfold Project.ofContent at made
  obtain ⟨v,parsed,made⟩ := Failure.bindOk made
  cases read : session.files.read path with
  | error f =>
    rw [read] at held
    cases held
  | ok bytes =>
    rw [read] at held
    cases Except.ok.inj held
    exact ⟨_,all paths path content v listed member read parsed,made⟩

theorem withAllLoaded {known : List Project} (before : r.Loaded e)
    (described : ∀ p ∈ known, ∃ v, Project.Described v ∧ Project.ofValue e v = .ok p) : (r.withAll known).Loaded e := by
  induction known generalizing r with
  | nil => exact before
  | cons p rest ih =>
    obtain ⟨⟨v,texts,made⟩,later⟩ := List.forall_mem_cons.mp described
    obtain ⟨t,named⟩ := (Project.describedValid texts made).id
    have key : p.id.isKey = true := by rw [named]; rfl
    have next := ih (before.load texts made (registerKey key)) later
    rwa [withAllTwice] at next

theorem directoryLoaded {directory : Value} (before : r.Loaded e) (all : AllDescribed session directory)
    (isVerbose : Bool) :
    ∃ result known next, r.loadDirectory e directory isVerbose session = (.ok (result,known),next) ∧ known.Loaded e := by
  obtain ⟨result,known,next,run,made⟩ := directoryRun r e directory isVerbose session
  refine ⟨result,_,next,run,withAllLoaded before fun p member => ?_⟩
  obtain ⟨paths,path,listed,inside,described⟩ := made p member
  exact describedOf all listed inside described

end loading

section states
variable {r s : Registry}

/- What is known and active after any loads, registrations and choices, of whatever projects in whatever environments. -/
inductive Reached : Registry → Prop where
  | start (e : Environment) : Reached (start e)
  | directory {r s e directory isVerbose session result next} (before : Reached r)
      (ran : r.loadDirectory e directory isVerbose session = (.ok (result,s),next)) : Reached s
  | load {r s e path session p next} (before : Reached r) (ran : r.load e path session = (.ok (p,s),next)) : Reached s
  | register {r s p} (before : Reached r) (known : r.register p = .ok s) : Reached s
  | activate {r s id found} (before : Reached r) (chosen : r.activate id = .ok (found,s)) : Reached s

structure Sound (r : Registry) : Prop where
  builtIn : ∃ p, r.find? (.text "default") = some p
  active : ∀ id, r.active = some id → ∃ p, r.find? id = some p

theorem soundWithAll (sound : r.Sound) (known : List Project) : (r.withAll known).Sound := by
  have kept : ∀ id, (∃ p, r.find? id = some p) → ∃ p, (r.withAll known).find? id = some p := by
    rintro id ⟨p,found⟩
    rw [withAll,putEachFound,found]
    cases known.reverse.find? fun p => p.id.isSameKey id with
    | none => exact ⟨p,rfl⟩
    | some q => exact ⟨q,rfl⟩
  exact ⟨kept _ sound.builtIn,fun id active => kept id (sound.active id active)⟩

theorem registerAdds {p : Project} (ok : r.register p = .ok s) : s = r.withAll [p] := by
  unfold register at ok
  obtain ⟨_,_,ok⟩ := Failure.bindOk ok
  exact (Except.ok.inj ok).symm

theorem directoryAdds {e : Environment} {directory : Value} {isVerbose : Bool} {session next : Session}
    {result : Except Failure Nat} (ran : r.loadDirectory e directory isVerbose session = (.ok (result,s),next)) :
    ∃ known, s = r.withAll known := by
  obtain ⟨_,known,_,run,_⟩ := directoryRun r e directory isVerbose session
  rw [run] at ran
  cases ran
  exact ⟨known,rfl⟩

theorem loadAdds {e : Environment} {path : Value} {session next : Session} {p : Project}
    (ran : r.load e path session = (.ok (p,s),next)) : ∃ known, s = r.withAll known := by
  obtain ⟨place,_,_,ok⟩ := Work.bindOk (congrArg Prod.fst ran)
  obtain ⟨q,_,_,ok⟩ := Work.bindOk ok
  cases known : r.register q with
  | error f =>
    rw [known] at ok
    cases ok
  | ok t =>
    rw [known] at ok
    cases ok
    exact ⟨_,registerAdds known⟩

theorem activateSound {id : Value} {found : Bool} (sound : r.Sound) (ok : r.activate id = .ok (found,s)) : s.Sound := by
  unfold activate Registry.get at ok
  obtain ⟨known,get,ok⟩ := Failure.bindOk ok
  obtain ⟨_,_,get⟩ := Failure.bindOk get
  cases Except.ok.inj get
  split at ok
  · rename_i p found
    cases Except.ok.inj ok
    refine ⟨sound.builtIn,?_⟩
    rintro other ⟨⟩
    exact ⟨p,found⟩
  · cases Except.ok.inj ok
    exact sound

theorem reachedSound (reached : Reached r) : r.Sound := by
  induction reached with
  | start => exact ⟨⟨_,rfl⟩,nofun⟩
  | directory before ran ih =>
    obtain ⟨known,rfl⟩ := directoryAdds ran
    exact soundWithAll ih known
  | load before ran ih =>
    obtain ⟨known,rfl⟩ := loadAdds ran
    exact soundWithAll ih known
  | register before known ih =>
    rw [registerAdds known]
    exact soundWithAll ih _
  | activate before chosen ih => exact activateSound ih chosen

theorem soundCurrent (sound : r.Sound) (e : Environment) : ∃ entry ∈ r.projects, r.current e = some entry.2 := by
  have found : ∀ {id p}, r.find? id = some p → ∃ entry ∈ r.projects, some p = some entry.2 := by
    intro id p found
    obtain ⟨entry,first,rfl⟩ := Option.map_eq_some_iff.mp found
    exact ⟨entry,List.mem_of_find?_eq_some first,rfl⟩
  unfold current
  split
  · rename_i id active
    obtain ⟨p,there⟩ := sound.active id (Option.filter_eq_some_iff.mp active).1
    rw [there]
    exact found there
  · cases preferred : r.find? (.text e.defaultProject) with
    | some p => exact found preferred
    | none =>
      obtain ⟨p,there⟩ := sound.builtIn
      rw [Option.none_or,there]
      exact found there

def textOf (entry : Value × Project) : Except Failure Text :=
  match entry.1 with
  | .text t => .ok t
  | v => .error (.wrongType ("'<' not supported between instances of " ++ v.kindName.quoted ++ " and 'str'"))

theorem idsRead (r : Registry) : r.ids = r.projects.mapM textOf >>= fun ts => .ok (ts.mergeSort Text.le) := rfl

theorem textOfText {entry : Value × Project} {t : Text} (key : entry.1 = .text t) : textOf entry = .ok t := by
  simp only [textOf,key]

theorem textOfOther {entry : Value × Project} (other : ¬entry.1.IsText) :
    ∃ message, textOf entry = .error (.wrongType message) := by
  unfold textOf
  split
  · rename_i t key
    exact (other ⟨t,key⟩).elim
  · exact ⟨_,rfl⟩

theorem textsRead {projects : List (Value × Project)} {ts : List Text} (keys : projects.map (·.1) = ts.map .text) :
    projects.mapM textOf = .ok ts := by
  induction projects generalizing ts with
  | nil =>
    cases List.map_eq_nil_iff.mp keys.symm
    rfl
  | cons entry rest ih =>
    cases ts with
    | nil => cases keys
    | cons t ts =>
      obtain ⟨key,keys⟩ := List.cons.inj keys
      rw [List.mapM_cons,textOfText key,ih keys]
      rfl

theorem textsRefused {projects : List (Value × Project)} (other : ∃ entry ∈ projects, ¬entry.1.IsText) :
    ∃ message, projects.mapM textOf = .error (.wrongType message) := by
  induction projects with
  | nil => simp at other
  | cons entry rest ih =>
    rw [List.mapM_cons]
    by_cases kind : entry.1.IsText
    · obtain ⟨t,key⟩ := kind
      obtain ⟨found,member,kind⟩ := other
      rcases List.mem_cons.mp member with rfl | later
      · exact (kind ⟨t,key⟩).elim
      · obtain ⟨message,refused⟩ := ih ⟨found,later,kind⟩
        rw [textOfText key,refused]
        exact ⟨message,rfl⟩
    · obtain ⟨message,refused⟩ := textOfOther kind
      rw [refused]
      exact ⟨message,rfl⟩

theorem textKeys {keys : List Value} (all : ∀ key ∈ keys, key.IsText) : ∃ ts : List Text, keys = ts.map .text := by
  induction keys with
  | nil => exact ⟨[],rfl⟩
  | cons key rest ih =>
    obtain ⟨t,rfl⟩ := all key List.mem_cons_self
    obtain ⟨ts,rfl⟩ := ih fun key member => all key (List.mem_cons_of_mem _ member)
    exact ⟨t :: ts,rfl⟩

theorem idsIff (r : Registry) (listed : List Text) : r.ids = .ok listed ↔
    (listed.map Value.text).Perm (r.projects.map (·.1)) ∧ listed.Pairwise fun s t => Text.le s t = true := by
  by_cases all : ∀ key ∈ r.projects.map (·.1), key.IsText
  · obtain ⟨ts,keys⟩ := textKeys all
    have same : (listed.map Value.text).Perm (ts.map .text) ↔ listed.Perm ts := by
      refine ⟨fun perm => ?_,fun perm => perm.map _⟩
      simpa [List.filterMap_map,Function.comp_def,Value.text?] using perm.filterMap Value.text?
    rw [idsRead,textsRead keys,keys,same,← Text.sortedIff]
    exact ⟨Except.ok.inj,congrArg Except.ok⟩
  · have other : ∃ entry ∈ r.projects, ¬entry.1.IsText := by simpa using all
    obtain ⟨message,refused⟩ := textsRefused other
    rw [idsRead,refused]
    refine iff_of_false nofun fun ⟨perm,_⟩ => all fun key member => ?_
    obtain ⟨t,_,rfl⟩ := List.mem_map.mp (perm.mem_iff.mpr member)
    exact ⟨t,rfl⟩

theorem idsRefused (other : ∃ entry ∈ r.projects, ¬entry.1.IsText) : ∃ message, r.ids = .error (.wrongType message) := by
  obtain ⟨message,refused⟩ := textsRefused other
  rw [idsRead,refused]
  exact ⟨message,rfl⟩

structure Manages (r : Registry) : Prop where
  directories : ∀ e isVerbose session directory paths, listing session directory = .ok paths →
    r.Loads e isVerbose session directory paths
  unlisted : ∀ e isVerbose session directory f, listing session directory = .error f →
    r.loadDirectory e directory isVerbose session = (.ok (.error f,r),session)
  inOrder : ∀ session directory paths, listing session directory = .ok paths →
    ∃ (base : Text) (names : List Text), paths = names.map (fun name => Path.tidy (Path.join base name)) ∧
      (names.Pairwise fun a b => Text.le a b = true) ∧ ∀ name ∈ names, isProjectFile name = true
  last : ∀ known id, (r.withAll known).find? id = (known.reverse.find? fun p => p.id.isSameKey id).or (r.find? id)
  current : ∀ e, ∃ entry ∈ r.projects, r.current e = some entry.2
  ids : ∀ listed, r.ids = .ok listed ↔
    (listed.map Value.text).Perm (r.projects.map (·.1)) ∧ listed.Pairwise fun s t => Text.le s t = true
  unordered : (∃ entry ∈ r.projects, ¬entry.1.IsText) → ∃ message, r.ids = .error (.wrongType message)

theorem reachedManages (reached : Reached r) : r.Manages where
  directories _ _ _ _ _ := directoryLoads r _ _
  unlisted _ _ _ _ _ := loadUnlisted
  inOrder _ _ _ := listedSorted
  last known id := putEachFound known r.projects r.active id
  current := soundCurrent (reachedSound reached)
  ids := idsIff r
  unordered := idsRefused

def plainShop : Project := { id := .text "shop", application := { name := .text "Shop" } }

def stocked : Registry := { (start []).withAll [plainShop] with active := some (.text "shop") }

theorem stockedReached : Reached stocked := by
  have known : (start []).register plainShop = .ok ((start []).withAll [plainShop]) := registerKey rfl
  have chosen : ((start []).withAll [plainShop]).activate (.text "shop") = .ok (true,stocked) := rfl
  exact .activate (.register (.start []) known) chosen

theorem stockedManages : Reached stocked ∧ stocked.Manages := ⟨stockedReached,reachedManages stockedReached⟩

def asciiOf (t : Text) : Bytes := t.map fun c => UInt8.ofNat c.value

def halfBroken : Session where
  files := { nodes := [(["c"],.directory),(["c","a.yaml"],.file (asciiOf "project_id: !!bool maybe")),
    (["c","b.yaml"],.file (asciiOf "project_id: shop"))] }

theorem halfBrokenEntries : halfBroken.files.entries "c" = ([("a.yaml" : Text),"b.yaml"] : List Text) := by
  have found : halfBroken.files.find "c" = .ok [("c" : Text)] := by rfl
  unfold Files.Store.entries
  rw [found]
  exact List.mergeSort_of_pairwise (by decide +kernel)

theorem halfBrokenListed : listing halfBroken (.text "c") = .ok ([("c/a.yaml" : Text),"c/b.yaml"] : List Text) := by
  have tidy : Path.tidy "c" = ("c" : Text) := by decide +kernel
  have directory : halfBroken.files.look "c" = .ok (some .directory) := by rfl
  have paths : ([("a.yaml" : Text),"b.yaml"].filter isProjectFile).map (fun name => Path.tidy (Path.join "c" name)) =
      ([("c/a.yaml" : Text),"c/b.yaml"] : List Text) := by decide +kernel
  change filesIn halfBroken.files (Path.tidy "c") = _
  rw [tidy,filesIn,directory,halfBrokenEntries]
  exact congrArg Except.ok paths

theorem maybeRefused : describedBy [] halfBroken.files "c/a.yaml" = .error (.missingKey "maybe") :=
  Failure.ofFailure (by decide +kernel)

theorem shopDescribed : ∃ p, describedBy [] halfBroken.files "c/b.yaml" = .ok p ∧ p.id = .text "shop" := by
  have named : (describedBy [] halfBroken.files "c/b.yaml").toOption.bind (fun p => p.id.text?) = some ("shop" : Text) := by
    decide +kernel
  obtain ⟨p,described,text⟩ := Option.bind_eq_some_iff.mp named
  refine ⟨p,Failure.ofResult described,?_⟩
  cases id : p.id <;> rw [id] at text <;> cases text
  rfl

def numbered : Project := { id := .int 7, application := { name := .text "Seven" } }

theorem numberedKnown : (start []).register numbered = .ok ((start []).withAll [numbered]) := rfl

theorem othersTakenDown :
    (∃ p, describedBy [] halfBroken.files "c/b.yaml" = .ok p ∧ p.id = .text "shop") ∧
    (start []).loadDirectory [] (.text "c") false halfBroken = (.ok (.error (.missingKey "maybe"),start []),halfBroken) ∧
    (start []).find? (.text "shop") = none ∧
    Project.make (.int 7) (.text "local") numbered = .ok numbered ∧
    Reached ((start []).withAll [numbered]) ∧
    ∃ message, ((start []).withAll [numbered]).ids = .error (.wrongType message) := by
  refine ⟨shopDescribed,?_,rfl,rfl,.register (.start []) numberedKnown,idsRefused ⟨(.int 7,numbered),?_,?_⟩⟩
  · have loads := directoryLoads (start []) [] false halfBrokenListed
    have stops : Stops [] halfBroken.files false "c/a.yaml" (.missingKey "maybe") [] := .unforeseen maybeRefused rfl
    rw [loads.early [] "c/a.yaml" ["c/b.yaml"] _ _ rfl nofun stops]
    rfl
  · exact List.mem_cons_of_mem _ List.mem_cons_self
  · rintro ⟨t,⟨⟩⟩

end states

end TestWeaver.Registry
