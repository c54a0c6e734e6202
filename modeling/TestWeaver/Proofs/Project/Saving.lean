import TestWeaver.Proofs.Project.Loading

/-! A project that is saved and read again. Its description holds every field but the token, and what is in a
description never falls back on the environment, however empty it is. -/
namespace TestWeaver

namespace Value
variable {v w : Value}

inductive Plain : Value → Prop where
  | null : Plain .null
  | bool (b : Bool) : Plain (.bool b)
  | text (t : Text) : Plain (.text t)
  | object (fields : List (Text × Value)) (each : ∀ field ∈ fields, Plain field.2) : Plain (.object fields)

theorem textPlain (kind : v.IsText) : v.Plain := by
  obtain ⟨t,rfl⟩ := kind
  exact .text t

theorem textOrNullPlain (kind : v.IsTextOrNull) : v.Plain := by
  rcases kind with rfl | text
  · exact .null
  · exact textPlain text

theorem plainShort (plain : v.Plain) : v.isTooLong = false := by
  induction plain with
  | null => rfl
  | bool => rfl
  | text => rfl
  | object fields each ih =>
    unfold object isTooLong
    clear each
    induction fields with
    | nil => rfl
    | cons first rest later =>
      have early := ih first List.mem_cons_self
      have others := later fun field member => ih field (List.mem_cons_of_mem _ member)
      simp only [List.map_cons,hasTooLong,early,others]
      rfl

mutual

def agrees : Value → Value → Bool
  | .null, .null => true
  | .bool a, .bool b => a == b
  | .text s, .text t => s == t
  | .mapping xs, .mapping ys => agreesEach xs ys
  | _, _ => false

def agreesEach : List (Value × Value) → List (Value × Value) → Bool
  | [], [] => true
  | (k, v) :: xs, (l, w) :: ys => agrees k l && agrees v w && agreesEach xs ys
  | _, _ => false

end

mutual

theorem agreesEqual : ∀ {v w : Value}, agrees v w = true → v = w
  | .null, .null, _ => rfl
  | .bool _, .bool _, same => by simpa [agrees] using same
  | .text _, .text _, same => by simpa [agrees] using same
  | .mapping _, .mapping _, same => by
    unfold agrees at same
    rw [agreesEachEqual same]

theorem agreesEachEqual : ∀ {xs ys : List (Value × Value)}, agreesEach xs ys = true → xs = ys
  | [], [], _ => rfl
  | (_, _) :: _, (_, _) :: _, same => by
    simp only [agreesEach,Bool.and_eq_true] at same
    obtain ⟨⟨key,value⟩,rest⟩ := same
    rw [agreesEqual key,agreesEqual value,agreesEachEqual rest]

end

end Value

namespace Yaml
variable {entries : List (Value × Value)}

/- What a YAML library promises of a mapping: when it is plain, the text it is written as reads as that mapping. -/
def LoadsBack (entries : List (Value × Value)) : Prop :=
  (Value.mapping entries).Plain → ∀ t, textOf entries = .ok t → ofText t = .ok (.mapping entries)

def loadsBack (entries : List (Value × Value)) : Bool :=
  match textOf entries with
  | .error _ => true
  | .ok t => match ofText t with
    | .error _ => false
    | .ok v => v.agrees (.mapping entries)

theorem triedOut (tried : loadsBack entries = true) : LoadsBack entries := by
  intro _ t written
  simp only [loadsBack,written] at tried
  split at tried
  · cases tried
  · rename_i v read
    rw [read,Value.agreesEqual tried]

theorem plainWritten (plain : (Value.mapping entries).Plain) : ∃ t, textOf entries = .ok t := by
  have short : Value.hasTooLong entries = false := by simpa [Value.isTooLong] using Value.plainShort plain
  unfold textOf
  rw [if_neg (by rw [short]; exact Bool.false_ne_true)]
  exact ⟨_,rfl⟩

end Yaml

namespace Project
variable {e : Environment} {p q : Project} {id platform : Value}
open Value

def withToken (p : Project) (token : Value) : Project := { p with account := p.account.map fun a => { a with token } }

structure Textual (p : Project) : Prop extends p.Valid where
  description : p.application.description.IsText
  projectKey : ∀ a, p.account = some a → a.projectKey.IsText
  criteriaField : ∀ a, p.account = some a → a.criteriaField.IsTextOrNull
  isCloud : ∀ a, p.account = some a → ∃ b, a.isCloud = .bool b

theorem madeGiven (made : make id platform q = .ok p) : p.id.isGiven = true := by
  simp only [make] at made
  split at made
  · cases made
  · rename_i given
    obtain ⟨known,_,made⟩ := Failure.bindOk made
    cases Except.ok.inj made
    simpa using given

theorem describedPlain (texts : p.Textual) : (Value.mapping p.toEntries).Plain := by
  refine .object _ ?_
  refine List.forall_mem_append.mpr ⟨?_,?_⟩
  · simp only [List.forall_mem_cons]
    refine ⟨textPlain texts.id,.object _ ?_,.text _,.object _ ?_,textPlain texts.stories,List.forall_mem_nil _⟩
    · simp only [List.forall_mem_cons]
      exact ⟨textPlain texts.name,textPlain texts.baseUrl,textPlain texts.description,List.forall_mem_nil _⟩
    · simp only [List.forall_mem_cons]
      exact ⟨textPlain texts.directory,textPlain texts.pages,textPlain texts.features,textPlain texts.steps,
        List.forall_mem_nil _⟩
  · cases given : p.account with
    | none => exact List.forall_mem_nil _
    | some a =>
      obtain ⟨baseUrl,email⟩ := texts.account a given
      obtain ⟨isCloud,known⟩ := texts.isCloud a given
      refine List.forall_mem_singleton.mpr (.object _ ?_)
      simp only [List.forall_mem_cons]
      exact ⟨textPlain baseUrl,textPlain (texts.projectKey a given),textPlain email,known ▸ .bool isCloud,
        textOrNullPlain (texts.criteriaField a given),List.forall_mem_nil _⟩

theorem applicationRead (e : Environment) (p : Project) :
    applicationOf e (.mapping p.toEntries) = .ok p.application := rfl

theorem outputRead (e : Environment) (p : Project) : outputOf e (.mapping p.toEntries) = .ok p.output := rfl

theorem accountRead (e : Environment) (p : Project) :
    accountOf e (.mapping p.toEntries) = .ok (p.withToken e.token).account := by
  obtain ⟨id,application,account,platform,output,storiesDir⟩ := p
  cases account <;> rfl

theorem platformRead (platform : Platform) : Platform.ofValue (.text platform.name) = .ok platform := by
  cases platform <;> rfl

theorem describedRead (e : Environment) (given : p.id.isGiven = true) :
    ofValue e (.mapping p.toEntries) = .ok (p.withToken e.token) := by
  have id : fieldOr (.mapping p.toEntries) "project_id" [] = .ok p.id := rfl
  have platform : fieldOr (.mapping p.toEntries) "source_platform" "local" = .ok (.text p.platform.name) := rfl
  have stories : fieldOr (.mapping p.toEntries) "stories_dir" e.storiesDir = .ok p.storiesDir := rfl
  have made : make p.id (.text p.platform.name) { p.withToken e.token with platform := .files } =
      .ok (p.withToken e.token) := by
    unfold make
    rw [given,platformRead]
    rfl
  unfold ofValue
  rw [applicationRead,accountRead,outputRead,id,platform,stories]
  exact made

theorem tokenSecret (p : Project) (token : Value) : (p.withToken token).toEntries = p.toEntries := by
  obtain ⟨id,application,account,platform,output,storiesDir⟩ := p
  cases account <;> rfl

structure SavedAs (p : Project) (t : Text) : Prop where
  written : p.toYaml = .ok t
  readBack : ∀ e, (Yaml.ofText t).bind (ofValue e) = .ok (p.withToken e.token)
  secret : ∀ q : Project, q.withToken .null = p.withToken .null → q.toYaml = .ok t

theorem savedAndRead (made : make id platform q = .ok p) (texts : p.Textual) (loadsBack : Yaml.LoadsBack p.toEntries) :
    ∃ t, p.SavedAs t := by
  have plain := describedPlain texts
  obtain ⟨t,written⟩ := Yaml.plainWritten plain
  have saved : p.toYaml = .ok t := by
    unfold toYaml
    rw [written]
    rfl
  refine ⟨t,saved,fun e => ?_,fun q same => ?_⟩
  · rw [loadsBack plain t written]
    exact describedRead e (madeGiven made)
  · have entries : q.toEntries = p.toEntries := by rw [← tokenSecret q .null,same,tokenSecret]
    unfold toYaml at saved ⊢
    rw [entries,saved]

def shop : Project where
  id := .text "shop"
  application := { name := .text "Shop" }
  account := some { baseUrl := .text "https://a.net", email := .text [], token := .text "secret" }
  platform := .tracker

theorem shopTextual : shop.Textual where
  id := ⟨_,rfl⟩
  name := ⟨_,rfl⟩
  baseUrl := ⟨_,rfl⟩
  directory := ⟨_,rfl⟩
  pages := ⟨_,rfl⟩
  features := ⟨_,rfl⟩
  steps := ⟨_,rfl⟩
  stories := ⟨_,rfl⟩
  account := by
    rintro a ⟨⟩
    exact ⟨⟨_,rfl⟩,⟨_,rfl⟩⟩
  description := ⟨_,rfl⟩
  projectKey := by
    rintro a ⟨⟩
    exact ⟨_,rfl⟩
  criteriaField := by
    rintro a ⟨⟩
    exact .inl rfl
  isCloud := by
    rintro a ⟨⟩
    exact ⟨_,rfl⟩

theorem shopLoadsBack : Yaml.LoadsBack shop.toEntries := Yaml.triedOut (by decide +kernel)

theorem shopSaved :
    make (.text "shop") (.text "JIRA") shop = .ok shop ∧ shop.Textual ∧ Yaml.LoadsBack shop.toEntries ∧
      ∃ t, shop.SavedAs t := by
  have made : make (.text "shop") (.text "JIRA") shop = .ok shop := rfl
  exact ⟨made,shopTextual,shopLoadsBack,savedAndRead made shopTextual shopLoadsBack⟩

end Project
end TestWeaver
