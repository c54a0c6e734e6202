import Mathlib.Data.List.DropRight
import TestWeaver.Proofs.Files.Places

/-! What the operations on a path change. Making directories adds directories, the other operations
change the file at the place of their path; all else stays. On a path that the file system takes,
they fail with an error of the file system, and a write also where its content has no bytes. -/
namespace TestWeaver.Files.Store
variable {s t u : Store} {path content : Text} {place p : Place} {xs ys : List Text}

structure Only (paths : List Text) (s t : Store) : Prop where
  working : t.working = s.working
  refusals : t.refusals = s.refusals
  directories : ∀ p, s.node? p = some .directory → t.node? p = some .directory
  files : ∀ p, (∀ path ∈ paths, p ≠ s.placeOf path) → t.file? p = s.file? p

theorem onlySelf (paths : List Text) (s : Store) : Only paths s s := ⟨rfl,rfl,fun _ => id,fun _ _ => rfl⟩

theorem onlyPlace (only : Only xs s t) (path : Text) : t.placeOf path = s.placeOf path := by
  rw [placeOf,placeOf,only.working]

theorem onlyTrans (first : Only xs s t) (second : Only ys t u) : Only (xs ++ ys) s u where
  working := second.working.trans first.working
  refusals := second.refusals.trans first.refusals
  directories p held := second.directories p (first.directories p held)
  files := by
    intro p apart
    rw [second.files p fun path member => onlyPlace first path ▸ apart path (List.mem_append_right _ member)]
    exact first.files p fun path member => apart path (List.mem_append_left _ member)

theorem onlyMore (among : xs ⊆ ys) (only : Only xs s t) : Only ys s t where
  working := only.working
  refusals := only.refusals
  directories := only.directories
  files p apart := only.files p fun path member => apart path (among member)

theorem onlyFind (only : Only xs s t) (named : NamesFile path) (ok : s.find path = .ok place) :
    t.find path = .ok place := findKept only.working only.directories named ok

theorem onlyRefusal (only : Only xs s t) (operation : Operation) (path : Text) :
    t.refusal? operation path = s.refusal? operation path := by
  rw [refusal?,refusal?,only.refusals]

theorem putDirectory (free : s.node? place = none) : Only [] s (s.put place .directory) where
  working := rfl
  refusals := rfl
  directories := by
    intro p held
    rw [nodePut (belowRoot (s := s) (by simp [free]))]
    split
    · rfl
    · exact held
  files := by
    intro p _
    have below : place ≠ [] := belowRoot (s := s) (by simp [free])
    by_cases same : p = place
    · subst same
      rw [fileNone (by simp [nodePut below]),fileNone (by simp [free])]
    · exact fileSame (by rw [nodePut below,if_neg same])

section file
variable (other : s.node? (s.placeOf path) ≠ some .directory)
include other

theorem putFile (bytes : Bytes) : Only [path] s (s.put (s.placeOf path) (.file bytes)) where
  working := rfl
  refusals := rfl
  directories := by
    intro p held
    have apart : p ≠ s.placeOf path := fun same => other (same ▸ held)
    rw [nodePut (belowRoot other),if_neg apart,held]
  files := by
    intro p apart
    exact fileSame (by rw [nodePut (belowRoot other),if_neg (apart path List.mem_cons_self)])

theorem eraseFile : Only [path] s (s.erase (s.placeOf path)) where
  working := rfl
  refusals := rfl
  directories := by
    intro p held
    have apart : p ≠ s.placeOf path := fun same => other (same ▸ held)
    rw [nodeErased (belowRoot other),if_neg apart,held]
  files := by
    intro p apart
    exact fileSame (by rw [nodeErased (belowRoot other),if_neg (apart path List.mem_cons_self)])

end file

theorem parentPrefix (path : Text) : Path.parent path <+: path := by
  have head : (path.reverse.dropWhile (· != Path.slash)).reverse <+: path := List.rdropWhile_prefix _ _
  unfold Path.parent
  simp only
  split
  · exact head
  · exact (List.rdropWhile_prefix _ _).trans head

theorem splitNamePrefix (path : Text) : (splitName path).1 <+: path := by
  unfold splitName
  simp only
  split
  · exact (parentPrefix _).trans (parentPrefix path)
  · exact parentPrefix path

structure Made (s : Store) (path : Text) (result : Store × Option PathFailure) : Prop where
  only : Only [] s result.1
  fails : Plain path → ∀ f, result.2 = some f → ∃ e, f = .failed e

theorem makeDirectoryOnly (ok : s.makeDirectory path = .ok t) : Only [] s t := by
  unfold makeDirectory at ok
  cases found : s.find path with
  | error f => simp [found,bind,Except.bind] at ok
  | ok place =>
    simp only [found,bind,Except.bind] at ok
    split at ok
    · rename_i free
      cases ok
      exact putDirectory free
    · cases ok

theorem makeDirectoryFails {f : PathFailure} (plain : Plain path) (fails : s.makeDirectory path = .error f) :
    ∃ e, f = .failed e := by
  unfold makeDirectory at fails
  cases found : s.find path with
  | error g =>
    simp only [found,bind,Except.bind] at fails
    cases fails
    exact findFails plain found
  | ok place =>
    simp only [found,bind,Except.bind] at fails
    split at fails
    · cases fails
    · cases fails
      exact ⟨_,rfl⟩

theorem finishMade (s : Store) (path : Text) : Made s path (s.finishDirectory path) := by
  unfold finishDirectory makeLast
  cases made : s.makeDirectory path with
  | ok t => exact ⟨makeDirectoryOnly made,fun _ _ none => nomatch none⟩
  | error f =>
    cases f with
    | failed e =>
      simp only
      split
      · rename_i ends
        split at ends
        · cases ends
          exact ⟨onlySelf _ _,fun _ _ none => nomatch none⟩
        · cases ends
      · rename_i f ends
        split at ends
        · cases ends
        · cases ends
          refine ⟨onlySelf _ _,fun _ f same => ?_⟩
          cases same
          exact ⟨e,rfl⟩
    | embeddedNull | unencodable =>
      refine ⟨onlySelf _ _,fun plain f same => ?_⟩
      obtain ⟨e,this⟩ := makeDirectoryFails plain made
      cases this

theorem madeAfter {result : Store × Option PathFailure} (only : Only [] s t) (made : Made t path result) :
    Made s path result := ⟨onlyTrans only made.only,made.fails⟩

theorem directoriesMade (s : Store) (path : Text) (depth : Nat) : Made s path (s.makeDirectoriesTo path depth) := by
  induction depth generalizing path with
  | zero =>
    refine ⟨onlySelf _ _,fun _ f same => ?_⟩
    cases same
    exact ⟨_,rfl⟩
  | succ depth ih =>
    unfold makeDirectoriesTo
    split
    · refine ⟨onlySelf _ _,fun _ f same => ?_⟩
      cases same
      exact ⟨_,rfl⟩
    · simp only
      split
      · exact finishMade s path
      · have above := ih (splitName path).1
        split
        · rename_i t f made
          rw [made] at above
          split
          · exact madeAfter above.only (finishMade t path)
          · exact ⟨above.only,fun plain => above.fails (plainPrefix (splitNamePrefix path) plain)⟩
        · rename_i t made
          rw [made] at above
          split
          · exact ⟨above.only,fun _ _ none => nomatch none⟩
          · exact madeAfter above.only (finishMade t path)

theorem openOk (ok : s.openForWriting path = .ok t) : s.find path = .ok (s.placeOf path) ∧
    s.node? (s.placeOf path) ≠ some .directory ∧ t = s.put (s.placeOf path) (.file []) := by
  unfold openForWriting openWith at ok
  cases refused : s.refusal? .openForWriting path with
  | some e => simp [refused,bind,Except.bind] at ok
  | none =>
    cases found : s.find path with
    | error f => simp [refused,found,bind,Except.bind] at ok
    | ok place =>
      have own := findPlace found
      subst own
      simp only [refused,found,bind,Except.bind] at ok
      split at ok
      · cases ok
      · rename_i free
        split at ok
        · cases ok
        · cases ok
          exact ⟨rfl,by simp [free],rfl⟩
      · rename_i content held
        cases ok
        exact ⟨rfl,by simp [held],rfl⟩

theorem openFails {f : PathFailure} (plain : Plain path) (fails : s.openForWriting path = .error f) :
    ∃ e, f = .failed e := by
  unfold openForWriting openWith at fails
  cases refused : s.refusal? .openForWriting path with
  | some e =>
    simp only [refused,bind,Except.bind] at fails
    cases fails
    exact ⟨_,rfl⟩
  | none =>
    cases found : s.find path with
    | error g =>
      simp only [refused,found,bind,Except.bind] at fails
      cases fails
      exact findFails plain found
    | ok place =>
      simp only [refused,found,bind,Except.bind] at fails
      split at fails
      · cases fails
        exact ⟨_,rfl⟩
      · split at fails
        · cases fails
          exact ⟨_,rfl⟩
        · cases fails
      · cases fails

theorem writeOk {before : Bytes} (held : s.file? (s.placeOf path) = some before)
    (ok : s.write path content = .ok t) :
    ∃ bytes, Utf8.encode content = .ok bytes ∧ t = s.put (s.placeOf path) (.file (before ++ bytes)) := by
  unfold write at ok
  cases refused : s.refusal? .write path with
  | some e => simp [refused,bind,Except.bind] at ok
  | none =>
    cases encodes : Utf8.encode content with
    | error e => simp [refused,encodes,bind,Except.bind,Except.mapError] at ok
    | ok bytes =>
      cases found : s.find path with
      | error f => simp [refused,encodes,found,bind,Except.bind,Except.mapError] at ok
      | ok place =>
        have own := findPlace found
        subst own
        simp only [refused,encodes,found,bind,Except.bind,Except.mapError,fileSome.mp held] at ok
        cases ok
        exact ⟨bytes,rfl,rfl⟩

theorem writeFails {f : PathFailure} (plain : Plain path) (fails : s.write path content = .error f) :
    (∃ e, f = .failed e) ∨ ∃ e, f = .unencodable e ∧ Utf8.encode content = .error e := by
  unfold write at fails
  cases refused : s.refusal? .write path with
  | some e =>
    simp only [refused,bind,Except.bind] at fails
    cases fails
    exact .inl ⟨_,rfl⟩
  | none =>
    cases encodes : Utf8.encode content with
    | error e =>
      simp only [refused,encodes,bind,Except.bind,Except.mapError] at fails
      cases fails
      exact .inr ⟨e,rfl,rfl⟩
    | ok bytes =>
      cases found : s.find path with
      | error g =>
        simp only [refused,encodes,found,bind,Except.bind,Except.mapError] at fails
        cases fails
        exact .inl (findFails plain found)
      | ok place =>
        simp only [refused,encodes,found,bind,Except.bind,Except.mapError] at fails
        split at fails <;> cases fails

theorem removeOk (ok : s.remove path = .ok t) :
    s.node? (s.placeOf path) ≠ some .directory ∧ t = s.erase (s.placeOf path) := by
  unfold remove at ok
  cases refused : s.refusal? .remove path with
  | some e => simp [refused,bind,Except.bind] at ok
  | none =>
    cases found : s.find path with
    | error f => simp [refused,found,bind,Except.bind] at ok
    | ok place =>
      have own := findPlace found
      subst own
      simp only [refused,found,bind,Except.bind] at ok
      split at ok
      · cases ok
      · cases ok
      · rename_i content held
        cases ok
        exact ⟨by simp [held],rfl⟩

theorem readOk {bytes : Bytes} :
    s.read path = .ok bytes ↔ s.find path = .ok (s.placeOf path) ∧ s.file? (s.placeOf path) = some bytes := by
  unfold read stat
  cases found : s.find path with
  | error f => simp [bind,Except.bind]
  | ok place =>
    have own := findPlace found
    subst own
    rw [fileSome]
    cases held : s.node? (s.placeOf path) with
    | none => simp [bind,Except.bind,held]
    | some node => cases node <;> simp [bind,Except.bind,held,pure,Except.pure]

theorem isFileRead : s.isFile path ↔ ∃ bytes, s.read path = .ok bytes := by
  unfold isFile read
  cases s.stat path with
  | error f => simp [bind,Except.bind]
  | ok node => cases node <;> simp [bind,Except.bind,pure,Except.pure]

theorem removeFile {bytes : Bytes} (held : s.read path = .ok bytes) (free : s.refusal? .remove path = none) :
    s.remove path = .ok (s.erase (s.placeOf path)) := by
  obtain ⟨found,file⟩ := readOk.mp held
  unfold remove
  simp only [free,found,fileSome.mp file,bind,Except.bind]
  rfl

theorem readKept {bytes : Bytes} (only : Only xs s t) (named : NamesFile path)
    (apart : ∀ other ∈ xs, s.placeOf path ≠ s.placeOf other) (held : s.read path = .ok bytes) :
    t.read path = .ok bytes := by
  obtain ⟨found,file⟩ := readOk.mp held
  refine readOk.mpr ⟨?_,?_⟩
  · rw [onlyPlace only]
    exact onlyFind only named found
  · rw [onlyPlace only,only.files _ apart]
    exact file

end TestWeaver.Files.Store
