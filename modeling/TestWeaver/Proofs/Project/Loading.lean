import TestWeaver.Project.Registry
import TestWeaver.Proofs.Session

/-! Projects that are loaded from descriptions with texts where texts belong. What is loaded has
texts there too, and a registry of such projects always knows one to work for. -/
namespace TestWeaver

namespace Value
variable {v w : Value} {name : Text}

def IsText (v : Value) : Prop := ∃ t, v = .text t

def IsTextOrNull (v : Value) : Prop := v = .null ∨ v.IsText

def TextAt (v : Value) (name : Text) : Prop := ∀ w, v.member? name = some w → w.IsText

theorem givenText (kind : v.IsTextOrNull) (given : v.isGiven) : v.IsText := by
  rcases kind with rfl | text
  · cases given
  · exact text

theorem orElseText (kind : v.IsTextOrNull) (fallback : w.IsText) : (v.orElse w).IsText := by
  unfold orElse
  split
  · rename_i given
    exact givenText kind given
  · exact fallback

theorem writtenText (text : v.IsText) : v.written = .ok v.shown := by
  obtain ⟨t,rfl⟩ := text
  rfl

theorem memberGet {found : Value} (ok : v.get (.text name) w = .ok found) : found = (v.member? name).getD w := by
  unfold get at ok
  split at ok
  · rename_i entries bare
    have member : v.member? name = lookup? entries (.text name) := by simp only [member?,bare]
    rw [member]
    exact (Except.ok.inj ok).symm
  · cases ok

theorem noMembers (name : Text) : TextAt (.mapping []) name := by
  intro w found
  cases found

end Value

namespace Project
variable {e : Environment} {v w : Value} {p : Project} {name other : Text}
open Value

theorem fieldText (there : v.TextAt name) (ok : fieldOr v name other = .ok w) : w.IsText := by
  rw [memberGet ok]
  cases found : v.member? name with
  | none => exact ⟨other,rfl⟩
  | some u => exact there u found

theorem partText {field : Text} (under : ∀ u, v.member? name = some u → u.TextAt field) (ok : part v name = .ok w) :
    w.TextAt field := by
  unfold part Value.field at ok
  cases found : v.get (.text name) .null with
  | error f =>
    rw [found] at ok
    cases ok
  | ok u =>
    rw [found] at ok
    cases Except.ok.inj ok
    rw [memberGet found]
    cases member : v.member? name with
    | none => exact noMembers field
    | some u =>
      unfold orElse
      split
      · exact under u member
      · exact noMembers field

/- A description with texts for the identity, the names, the addresses and the directories that it gives. -/
structure Described (v : Value) : Prop where
  id : v.TextAt "project_id"
  stories : v.TextAt "stories_dir"
  application : ∀ u, v.member? "application" = some u → u.TextAt "name" ∧ u.TextAt "base_url"
  account : ∀ u, v.member? "jira" = some u → u.TextAt "base_url" ∧ u.TextAt "email"
  output : ∀ u, v.member? "output" = some u →
    u.TextAt "dir" ∧ u.TextAt "pages_dir" ∧ u.TextAt "features_dir" ∧ u.TextAt "steps_dir"

structure Valid (p : Project) : Prop where
  id : p.id.IsText
  name : p.application.name.IsText
  baseUrl : p.application.baseUrl.IsText
  directory : p.output.directory.IsText
  pages : p.output.pages.IsText
  features : p.output.features.IsText
  steps : p.output.steps.IsText
  stories : p.storiesDir.IsText
  account : ∀ a, p.account = some a → a.baseUrl.IsText ∧ a.email.IsText

theorem applicationValid {a : Application} (described : Described v) (ok : applicationOf e v = .ok a) :
    a.name.IsText ∧ a.baseUrl.IsText := by
  unfold applicationOf at ok
  obtain ⟨u,found,ok⟩ := Failure.bindOk ok
  obtain ⟨name,named,ok⟩ := Failure.bindOk ok
  obtain ⟨baseUrl,based,ok⟩ := Failure.bindOk ok
  obtain ⟨description,_,ok⟩ := Failure.bindOk ok
  cases Except.ok.inj ok
  exact ⟨fieldText (partText (fun u member => (described.application u member).1) found) named,
    fieldText (partText (fun u member => (described.application u member).2) found) based⟩

theorem accountValid {a : Option Tracker.Account} (described : Described v) (ok : accountOf e v = .ok a) :
    ∀ b, a = some b → b.baseUrl.IsText ∧ b.email.IsText := by
  unfold accountOf at ok
  obtain ⟨u,found,ok⟩ := Failure.bindOk ok
  split at ok
  · obtain ⟨baseUrl,based,ok⟩ := Failure.bindOk ok
    obtain ⟨email,mailed,ok⟩ := Failure.bindOk ok
    obtain ⟨projectKey,_,ok⟩ := Failure.bindOk ok
    obtain ⟨criteriaField,_,ok⟩ := Failure.bindOk ok
    obtain ⟨isCloud,_,ok⟩ := Failure.bindOk ok
    cases Except.ok.inj ok
    rintro b ⟨⟩
    exact ⟨fieldText (partText (fun u member => (described.account u member).1) found) based,
      fieldText (partText (fun u member => (described.account u member).2) found) mailed⟩
  · cases Except.ok.inj ok
    rintro b ⟨⟩

theorem outputValid {o : Output} (described : Described v) (ok : outputOf e v = .ok o) :
    o.directory.IsText ∧ o.pages.IsText ∧ o.features.IsText ∧ o.steps.IsText := by
  unfold outputOf at ok
  obtain ⟨u,found,ok⟩ := Failure.bindOk ok
  obtain ⟨directory,put,ok⟩ := Failure.bindOk ok
  obtain ⟨pages,paged,ok⟩ := Failure.bindOk ok
  obtain ⟨features,featured,ok⟩ := Failure.bindOk ok
  obtain ⟨steps,stepped,ok⟩ := Failure.bindOk ok
  cases Except.ok.inj ok
  exact ⟨fieldText (partText (fun u member => (described.output u member).1) found) put,
    fieldText (partText (fun u member => (described.output u member).2.1) found) paged,
    fieldText (partText (fun u member => (described.output u member).2.2.1) found) featured,
    fieldText (partText (fun u member => (described.output u member).2.2.2) found) stepped⟩

theorem describedValid (described : Described v) (ok : ofValue e v = .ok p) : p.Valid := by
  unfold ofValue at ok
  obtain ⟨application,applied,ok⟩ := Failure.bindOk ok
  obtain ⟨account,accounted,ok⟩ := Failure.bindOk ok
  obtain ⟨output,put,ok⟩ := Failure.bindOk ok
  obtain ⟨id,named,ok⟩ := Failure.bindOk ok
  obtain ⟨platform,_,ok⟩ := Failure.bindOk ok
  obtain ⟨storiesDir,told,ok⟩ := Failure.bindOk ok
  simp only [make] at ok
  split at ok
  · cases ok
  obtain ⟨known,_,ok⟩ := Failure.bindOk ok
  cases Except.ok.inj ok
  obtain ⟨name,baseUrl⟩ := applicationValid described applied
  obtain ⟨directory,pages,features,steps⟩ := outputValid described put
  exact {
    id := fieldText described.id named
    name, baseUrl, directory, pages, features, steps
    stories := fieldText described.stories told
    account := accountValid described accounted }

theorem builtInValid (e : Environment) : (builtIn e).Valid where
  id := ⟨_,rfl⟩
  name := ⟨_,rfl⟩
  baseUrl := ⟨_,rfl⟩
  directory := ⟨_,rfl⟩
  pages := ⟨_,rfl⟩
  features := ⟨_,rfl⟩
  steps := ⟨_,rfl⟩
  stories := ⟨_,rfl⟩
  account := by
    intro a given
    unfold builtIn at given
    simp only at given
    split at given
    · cases given
      exact ⟨⟨_,rfl⟩,⟨_,rfl⟩⟩
    · cases given

end Project

namespace Registry
variable {e : Environment} {r s : Registry} {p : Project} {id : Value}
open Value Project

inductive Loaded (e : Environment) : Registry → Prop where
  | start : Loaded e (start e)
  | load {r s v p} (before : Loaded e r) (described : Described v) (made : Project.ofValue e v = .ok p)
      (known : r.register p = .ok s) : Loaded e s
  | choose {r s id found} (before : Loaded e r) (active : r.activate id = .ok (found,s)) : Loaded e s

structure Valid (r : Registry) : Prop where
  keys : ∀ entry ∈ r.projects, entry.1.IsText
  projects : ∀ entry ∈ r.projects, entry.2.Valid
  builtIn : ∃ p, r.find? (.text "default") = some p
  active : ∀ id, r.active = some id → ∃ p, r.find? id = some p

theorem foundValid (valid : r.Valid) (found : r.find? id = some p) : p.Valid := by
  obtain ⟨entry,member,rfl⟩ := Option.map_eq_some_iff.mp found
  exact valid.projects entry (List.mem_of_find?_eq_some member)

theorem putMember {entry : Value × Project} {projects : List (Value × Project)} (member : entry ∈ put projects p) :
    entry ∈ projects ∨ entry.2 = p ∧ (entry.1 = p.id ∨ ∃ q, (entry.1,q) ∈ projects) := by
  induction projects with
  | nil =>
    cases List.mem_singleton.mp member
    exact .inr ⟨rfl,.inl rfl⟩
  | cons first rest ih =>
    unfold put at member
    split at member
    · rcases List.mem_cons.mp member with rfl | later
      · exact .inr ⟨rfl,.inr ⟨first.2,List.mem_cons_self⟩⟩
      · exact .inl (List.mem_cons_of_mem _ later)
    · rcases List.mem_cons.mp member with rfl | later
      · exact .inl List.mem_cons_self
      · rcases ih later with early | ⟨own,key⟩
        · exact .inl (List.mem_cons_of_mem _ early)
        · exact .inr ⟨own,key.imp id fun ⟨q,inside⟩ => ⟨q,List.mem_cons_of_mem _ inside⟩⟩

theorem putFind (projects : List (Value × Project)) (p : Project) (id : Value)
    (found : (projects.find? fun entry => entry.1.isSameKey id).isSome) :
    ((put projects p).find? fun entry => entry.1.isSameKey id).isSome := by
  induction projects with
  | nil => cases found
  | cons first rest ih =>
    unfold put
    by_cases key : first.1.isSameKey id
    · split <;> simp [key]
    · simp only [List.find?_cons,key] at found
      split
      · simpa [List.find?_cons,key] using found
      · simpa [List.find?_cons,key] using ih found

theorem startValid (e : Environment) : (start e).Valid where
  keys := by
    intro entry member
    cases List.mem_singleton.mp member
    exact ⟨_,rfl⟩
  projects := by
    intro entry member
    cases List.mem_singleton.mp member
    exact builtInValid e
  builtIn := ⟨_,rfl⟩
  active := by rintro id ⟨⟩

theorem registerValid (valid : r.Valid) (project : p.Valid) (ok : r.register p = .ok s) : s.Valid := by
  unfold register at ok
  obtain ⟨_,_,ok⟩ := Failure.bindOk ok
  cases Except.ok.inj ok
  -- a project that was found may be replaced, but something stays under its key
  have kept : ∀ id, (∃ q, r.find? id = some q) →
      ∃ q, Registry.find? { r with projects := put r.projects p } id = some q := by
    rintro id ⟨q,found⟩
    obtain ⟨entry,first,_⟩ := Option.map_eq_some_iff.mp found
    obtain ⟨other,there⟩ := Option.isSome_iff_exists.mp (putFind r.projects p id (by simp [first]))
    exact ⟨other.2,by simp [Registry.find?,there]⟩
  exact {
    keys := by
      intro entry member
      rcases putMember member with early | ⟨_,own | ⟨q,early⟩⟩
      · exact valid.keys entry early
      · exact own ▸ project.id
      · exact valid.keys (entry.1,q) early
    projects := by
      intro entry member
      rcases putMember member with early | ⟨own,_⟩
      · exact valid.projects entry early
      · exact own ▸ project
    builtIn := kept _ valid.builtIn
    active := fun id active => kept id (valid.active id active) }

theorem activateValid {found : Bool} (valid : r.Valid) (ok : r.activate id = .ok (found,s)) : s.Valid := by
  unfold activate Registry.get at ok
  obtain ⟨known,get,ok⟩ := Failure.bindOk ok
  obtain ⟨_,_,get⟩ := Failure.bindOk get
  cases Except.ok.inj get
  split at ok
  · rename_i p found
    cases Except.ok.inj ok
    exact {
      keys := valid.keys
      projects := valid.projects
      builtIn := valid.builtIn
      active := by
        rintro other ⟨⟩
        exact ⟨p,found⟩ }
  · cases Except.ok.inj ok
    exact valid

theorem loadedValid (loaded : Loaded e r) : r.Valid := by
  induction loaded with
  | start => exact startValid e
  | load before described made known ih => exact registerValid ih (describedValid described made) known
  | choose before active ih => exact activateValid ih active

end Registry
end TestWeaver
