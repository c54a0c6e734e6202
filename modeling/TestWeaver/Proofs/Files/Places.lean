import Mathlib.Data.List.Basic
import TestWeaver.Files.Store
import TestWeaver.Proofs.Text.Bytes

/-! Places of paths, and what an operation leaves as it was. A path that can be looked up leads to
the place that its segments spell, so its place stays where it is while directories stay. -/
namespace TestWeaver.Files.Store
variable {s t u : Store} {path : Text} {place q : Place}

def file? (s : Store) (place : Place) : Option Bytes :=
  match s.node? place with
  | some (.file content) => some content
  | _ => none

def placeOf (s : Store) (path : Text) : Place := Path.resolve s.working path

theorem fileSome {content : Bytes} : s.file? place = some content ↔ s.node? place = some (.file content) := by
  unfold file?
  cases s.node? place with
  | none => simp
  | some node => cases node <;> simp

theorem fileNone (bare : ∀ content, s.node? place ≠ some (.file content)) : s.file? place = none := by
  cases held : s.file? place with
  | none => rfl
  | some content => exact absurd (fileSome.mp held) (bare content)

theorem fileSame (same : t.node? q = s.node? q) : t.file? q = s.file? q := by rw [file?,file?,same]

theorem lookupApart (nodes : List (Place × Node)) (place q : Place) :
    (nodes.filter fun (p,_) => p != place).lookup q = if q = place then none else nodes.lookup q := by
  induction nodes with
  | nil => simp
  | cons node rest ih =>
    obtain ⟨p,n⟩ := node
    by_cases here : p = place
    · subst here
      rw [List.filter_cons_of_neg (by simp),ih,List.lookup_cons]
      split
      · rfl
      · rename_i other
        rw [beq_false_of_ne other]
    · rw [List.filter_cons_of_pos (by simpa using here),List.lookup_cons,List.lookup_cons,ih]
      by_cases same : q = p
      · subst same
        simp [here]
      · rw [beq_false_of_ne same]

theorem nodeErased (below : place ≠ []) : (s.erase place).node? q = if q = place then none else s.node? q := by
  unfold node? erase
  rw [lookupApart]
  by_cases same : q = place
  · subst same
    simp [below]
  · simp [same]

theorem nodePut (below : place ≠ []) (node : Node) :
    (s.put place node).node? q = if q = place then some node else s.node? q := by
  unfold node? put
  rw [List.lookup_append,lookupApart]
  by_cases same : q = place
  · subst same
    simp [below]
  · simp [same,List.lookup_cons,beq_false_of_ne same]

theorem belowRoot (other : s.node? place ≠ some .directory) : place ≠ [] := by
  rintro rfl
  exact other rfl

def Plain (path : Text) : Prop := ∃ bytes, encoded path = .ok bytes

def NamesFile (path : Text) : Prop := (path.endsWith "/" || path.endsWith "/.") = false

theorem plainPrefix {lead : Text} (front : lead <+: path) (plain : Plain path) : Plain lead := by
  obtain ⟨rest,rfl⟩ := front
  obtain ⟨bytes,taken⟩ := plain
  unfold encoded at taken
  split at taken
  · cases taken
  · rename_i all encodes
    obtain ⟨x,y,front,rfl⟩ := Utf8.encodePrefix encodes
    split at taken
    · cases taken
    · rename_i free
      refine ⟨x,?_⟩
      have clear : ¬ x.contains 0 := by
        intro inside
        exact free (List.contains_iff_mem.mpr (List.mem_append_left _ (List.contains_iff_mem.mp inside)))
      simp only [encoded,Utf8.encode,front,if_neg clear]

theorem plainClean (clean : Utf8.Clean path) : Plain path := by
  obtain ⟨bytes,encodes,free⟩ := Utf8.encodeClean clean 0
  refine ⟨bytes,?_⟩
  have clear : ¬ bytes.contains 0 := fun inside => free (List.contains_iff_mem.mp inside)
  simp only [encoded,Utf8.encode,encodes,if_neg clear]

theorem walkPlace {segments : List Text} (ok : s.walk place segments = .ok q) :
    q = (segments.foldl Path.step place.reverse).reverse := by
  induction segments generalizing place with
  | nil => simpa [walk] using ok.symm
  | cons segment rest ih =>
    unfold walk at ok
    split at ok <;> try contradiction
    split at ok
    · rename_i up
      rw [ih ok,List.foldl_cons,Path.step,if_pos up,← List.tail_reverse,List.drop_one]
    · rename_i down
      split at ok <;> try contradiction
      rw [ih ok,List.foldl_cons,Path.step,if_neg down,List.reverse_append,List.reverse_singleton,List.singleton_append]

theorem walkKept {segments : List Text} (kept : ∀ p, s.node? p = some .directory → t.node? p = some .directory)
    (ok : s.walk place segments = .ok q) : t.walk place segments = .ok q := by
  induction segments generalizing place with
  | nil => exact ok
  | cons segment rest ih =>
    unfold walk at ok ⊢
    split at ok <;> try contradiction
    rename_i directory
    rw [kept place directory]
    split at ok
    · rename_i up
      simp only [if_pos up]
      exact ih ok
    · rename_i down
      split at ok <;> try contradiction
      rename_i short
      simp only [if_neg down,if_neg short]
      exact ih ok

theorem findSteps {bytes : Bytes} (taken : encoded path = .ok bytes) : s.find path =
    if path.isEmpty then .error (.failed (.condition .noEntry path))
    else if pathLimit < bytes.length then .error (.failed (.condition .nameTooLong path))
    else match s.walk (if Path.isAbsolute path then [] else s.working) (Path.segments path) with
      | .error c => .error (.failed (.condition c path))
      | .ok place =>
        if (s.file? place).isSome && (path.endsWith "/" || path.endsWith "/.") then
          .error (.failed (.condition .notDirectory path))
        else .ok place := by
  unfold find
  rw [taken]
  simp only [bind,Except.bind]
  split
  · rfl
  · split
    · rfl
    · cases s.walk (if Path.isAbsolute path then [] else s.working) (Path.segments path) with
      | error c => rfl
      | ok place =>
        simp only [Except.mapError]
        split
        · rename_i content held
          rw [fileSome.mpr held]
          rfl
        · rename_i bare
          rw [fileNone bare]
          rfl

theorem findOk : s.find path = .ok place ↔
    (∃ bytes, encoded path = .ok bytes ∧ path.isEmpty = false ∧ ¬ pathLimit < bytes.length) ∧
    s.walk (if Path.isAbsolute path then [] else s.working) (Path.segments path) = .ok place ∧
    ((s.file? place).isSome && (path.endsWith "/" || path.endsWith "/.")) = false := by
  cases taken : encoded path with
  | error f =>
    have fails : s.find path = .error f := by
      unfold find
      rw [taken]
      rfl
    simp [fails]
  | ok bytes =>
    rw [findSteps taken]
    by_cases empty : path.isEmpty
    · simp [empty]
    · by_cases long : pathLimit < bytes.length
      · have other : ¬ bytes.length ≤ pathLimit := Nat.not_le.mpr long
        simp [empty,long,other]
      · simp only [if_neg empty,if_neg long]
        cases s.walk (if Path.isAbsolute path then [] else s.working) (Path.segments path) with
        | error c => simp
        | ok p =>
          by_cases blocked : ((s.file? p).isSome && (path.endsWith "/" || path.endsWith "/.")) = true
          · simp only [if_pos blocked]
            constructor
            · intro same
              cases same
            · rintro ⟨_,same,free⟩
              cases same
              exact absurd blocked (free ▸ Bool.false_ne_true)
          · simp only [if_neg blocked]
            constructor
            · intro same
              cases same
              exact ⟨⟨bytes,rfl,Bool.eq_false_iff.mpr empty,long⟩,rfl,Bool.eq_false_iff.mpr blocked⟩
            · rintro ⟨_,same,_⟩
              rw [Except.ok.inj same]

theorem findPlace (ok : s.find path = .ok place) : place = s.placeOf path := by
  have walked := walkPlace (findOk.mp ok).2.1
  rw [walked,placeOf,Path.resolve]
  split <;> rfl

theorem findKept (working : t.working = s.working)
    (kept : ∀ p, s.node? p = some .directory → t.node? p = some .directory) (named : NamesFile path)
    (ok : s.find path = .ok place) : t.find path = .ok place := by
  obtain ⟨taken,walked,_⟩ := findOk.mp ok
  refine findOk.mpr ⟨taken,?_,?_⟩
  · rw [working]
    exact walkKept kept walked
  · rw [NamesFile] at named
    rw [named,Bool.and_false]

theorem findFails {f : PathFailure} (plain : Plain path) (fails : s.find path = .error f) : ∃ e, f = .failed e := by
  obtain ⟨bytes,taken⟩ := plain
  rw [findSteps taken] at fails
  split at fails
  · cases fails
    exact ⟨_,rfl⟩
  · split at fails
    · cases fails
      exact ⟨_,rfl⟩
    · split at fails
      · cases fails
        exact ⟨_,rfl⟩
      · split at fails
        · cases fails
          exact ⟨_,rfl⟩
        · cases fails

end TestWeaver.Files.Store
