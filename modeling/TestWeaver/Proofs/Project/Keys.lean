import TestWeaver.Proofs.Project.Loading

/-! Identities as keys. Being one key is an equivalence between the values that can be keys at all, so a project that is put
under its identity is what is found there, and whatever else was known stays. Texts have a total order, which sorts the
identities of projects in one way only. -/
namespace TestWeaver

namespace Value
variable {u v w : Value}

/- What makes a value the key that it is. Equal numbers are one key, and so are moments of one instant. -/
inductive Key where
  | null
  | whole (n : Int)
  | itself (label : Nat)
  | real (x : Binary64)
  | text (t : Text)
  | bytes (b : Bytes)
  | date (d : Date)
  | moment (m : Int ⊕ Moment)

def momentKey (m : Moment) : Int ⊕ Moment :=
  match m.offset with
  | some offset => .inl (m.instant offset)
  | none => .inr m

def plainKey? : Value → Option Key
  | .null => some .null
  | .real x => some (.real x)
  | .text t => some (.text t)
  | .bytes b => some (.bytes b)
  | .date d => some (.date d)
  | .moment m => some (.moment (momentKey m))
  | _ => none

def label? : Value → Option Nat
  | .shared label (.real _) => some label
  | _ => none

def key? (v : Value) : Option Key :=
  match v.integer?, v.label? with
  | some n, _ => some (.whole n)
  | none, some label => some (.itself label)
  | none, none => v.bare.plainKey?

theorem momentsSame (m n : Moment) : m.isSame n = true ↔ momentKey m = momentKey n := by
  unfold Moment.isSame momentKey
  cases m.offset <;> cases n.offset <;> simp

def isSamePlain : Value → Value → Bool
  | .null, .null => true
  | .real x, .real y => x == y
  | .text s, .text t => s == t
  | .bytes a, .bytes b => a == b
  | .date d, .date e => d == e
  | .moment m, .moment n => m.isSame n
  | _, _ => false

theorem plainSame (v w : Value) : isSamePlain v w = true ↔ ∃ k, v.plainKey? = some k ∧ w.plainKey? = some k := by
  cases v <;> cases w <;> simp [isSamePlain,plainKey?,momentsSame]
  all_goals exact eq_comm

theorem plainKinds {k : Key} (key : v.plainKey? = some k) : (∀ n, k ≠ .whole n) ∧ ∀ label, k ≠ .itself label := by
  unfold plainKey? at key
  split at key <;> cases key <;> exact ⟨fun _ => nofun,fun _ => nofun⟩

theorem unlabelled (other : ∀ label x, v = .shared label (.real x) → False) : v.label? = none := by
  unfold label?
  split
  · exact (other _ _ rfl).elim
  · rfl

theorem sameKeyPlain (hv : v.integer? = none) (hw : w.integer? = none) : v.isSameKey w =
    match v.label?, w.label? with
      | some m, some n => m == n
      | none, none => isSamePlain v.bare w.bare
      | _, _ => false := by
  unfold isSameKey
  simp only [hv,hw]
  split
  · rfl
  · rename_i other
    rw [unlabelled other]
    rfl
  · rename_i other
    rw [unlabelled fun label x same => other label x same]
    rfl
  · rename_i first second _
    rw [unlabelled first,unlabelled second]
    rfl

theorem keySorts (v : Value) :
    (∃ n, v.integer? = some n ∧ v.key? = some (.whole n)) ∨
    (∃ label, v.integer? = none ∧ v.label? = some label ∧ v.key? = some (.itself label)) ∨
    (v.integer? = none ∧ v.label? = none ∧ v.key? = v.bare.plainKey?) := by
  unfold key?
  cases v.integer? with
  | some n => exact .inl ⟨n,rfl,rfl⟩
  | none =>
    cases v.label? with
    | some label => exact .inr (.inl ⟨label,rfl,rfl,rfl⟩)
    | none => exact .inr (.inr ⟨rfl,rfl,rfl⟩)

theorem sameKeyIff : v.isSameKey w = true ↔ ∃ k, v.key? = some k ∧ w.key? = some k := by
  rcases keySorts v with ⟨m,hv,kv⟩ | ⟨m,hv,lv,kv⟩ | ⟨hv,lv,kv⟩ <;>
    rcases keySorts w with ⟨n,hw,kw⟩ | ⟨n,hw,lw,kw⟩ | ⟨hw,lw,kw⟩
  · simp only [isSameKey,hv,hw,kv,kw,beq_iff_eq,Option.some.injEq,exists_eq_left',Key.whole.injEq]
    exact eq_comm
  · simp [isSameKey,hv,hw,kv,kw]
  · simp only [isSameKey,hv,hw,kv,kw,Bool.false_eq_true,Option.some.injEq,exists_eq_left',false_iff]
    exact fun key => (plainKinds key).1 _ rfl
  · simp [isSameKey,hv,hw,kv,kw]
  · simp only [sameKeyPlain hv hw,lv,lw,kv,kw,beq_iff_eq,Option.some.injEq,exists_eq_left',Key.itself.injEq]
    exact eq_comm
  · simp only [sameKeyPlain hv hw,lv,lw,kv,kw,Bool.false_eq_true,Option.some.injEq,exists_eq_left',false_iff]
    exact fun key => (plainKinds key).2 _ rfl
  · simp only [isSameKey,hv,hw,kv,kw,Bool.false_eq_true,Option.some.injEq,exists_eq_right',false_iff]
    exact fun key => (plainKinds key).1 _ rfl
  · simp only [sameKeyPlain hv hw,lv,lw,kv,kw,Bool.false_eq_true,Option.some.injEq,exists_eq_right',false_iff]
    exact fun key => (plainKinds key).2 _ rfl
  · simp only [sameKeyPlain hv hw,lv,lw,kv,kw]
    exact plainSame _ _

theorem sameKeySymm (same : v.isSameKey w = true) : w.isSameKey v = true := by
  obtain ⟨k,kv,kw⟩ := sameKeyIff.mp same
  exact sameKeyIff.mpr ⟨k,kw,kv⟩

theorem sameKeyTrans (first : u.isSameKey v = true) (second : v.isSameKey w = true) : u.isSameKey w = true := by
  obtain ⟨k,ku,kv⟩ := sameKeyIff.mp first
  obtain ⟨l,lv,lw⟩ := sameKeyIff.mp second
  cases Option.some.inj (kv.symm.trans lv)
  exact sameKeyIff.mpr ⟨k,ku,lw⟩

theorem sameKeyAlike (same : u.isSameKey v = true) (w : Value) : u.isSameKey w = v.isSameKey w :=
  Bool.eq_iff_iff.mpr ⟨sameKeyTrans (sameKeySymm same),sameKeyTrans same⟩

end Value

namespace Registry
variable {projects : List (Value × Project)}
open Value

theorem putFound (projects : List (Value × Project)) (active : Option Value) (p : Project) (id : Value) :
    find? ⟨put projects p,active⟩ id = if p.id.isSameKey id then some p else find? ⟨projects,active⟩ id := by
  induction projects with
  | nil => cases own : p.id.isSameKey id <;> simp [find?,put,own]
  | cons first rest ih =>
    obtain ⟨key,q⟩ := first
    unfold put
    cases taken : key.isSameKey p.id with
    | true =>
      have alike := sameKeyAlike taken id
      cases own : p.id.isSameKey id <;> simp [find?,alike,own]
    | false =>
      cases asked : key.isSameKey id with
      | true =>
        have apart : p.id.isSameKey id = false := by
          cases own : p.id.isSameKey id with
          | false => rfl
          | true => rw [sameKeyTrans asked (sameKeySymm own)] at taken; cases taken
        simp [find?,asked,apart]
      | false => simpa [find?,asked] using ih

theorem putEachFound (known : List Project) (projects : List (Value × Project)) (active : Option Value) (id : Value) :
    find? ⟨known.foldl put projects,active⟩ id =
      (known.reverse.find? fun p => p.id.isSameKey id).or (find? ⟨projects,active⟩ id) := by
  induction known generalizing projects with
  | nil => rfl
  | cons p rest ih =>
    rw [List.foldl_cons,ih,putFound,List.reverse_cons,List.find?_append,Option.or_assoc]
    cases own : p.id.isSameKey id <;> simp [own]

end Registry

namespace Text

theorem valueInjective {a b : CodePoint} (same : a.value = b.value) : a = b := by
  have outside : ∀ (c : Char) (u : Fin 2048), c.toNat ≠ 0xD800 + u := by
    intro c u equal
    have valid : c.toNat < 0xD800 ∨ 0xDFFF < c.toNat ∧ c.toNat < 0x110000 := c.valid
    omega
  cases a with
  | char c =>
    cases b with
    | char d => rw [Char.toNat_inj.mp same]
    | half u => exact (outside c u same).elim
  | half u =>
    cases b with
    | char d => exact (outside d u same.symm).elim
    | half v => rw [Fin.ext (Nat.add_left_cancel same)]

theorem leCons (a b : CodePoint) (s t : Text) :
    le (a :: s) (b :: t) = true ↔ a.value < b.value ∨ a.value = b.value ∧ le s t = true := by
  simp [le]

theorem leTotal (s t : Text) : (le s t || le t s) = true := by
  rw [Bool.or_eq_true]
  induction s generalizing t with
  | nil => exact .inl rfl
  | cons a s ih =>
    cases t with
    | nil => exact .inr rfl
    | cons b t =>
      rw [leCons,leCons]
      rcases Nat.lt_trichotomy a.value b.value with less | same | more
      · exact .inl (.inl less)
      · exact (ih t).imp (fun le => .inr ⟨same,le⟩) fun le => .inr ⟨same.symm,le⟩
      · exact .inr (.inl more)

theorem leTrans (s t u : Text) (first : le s t = true) (second : le t u = true) : le s u = true := by
  induction s generalizing t u with
  | nil => rfl
  | cons a s ih =>
    cases t with
    | nil => cases first
    | cons b t =>
      cases u with
      | nil => cases second
      | cons c u =>
        rw [leCons] at first second ⊢
        rcases first with less | ⟨same,first⟩
        · exact .inl (by omega)
        · exact second.imp (fun less => by omega) fun ⟨next,second⟩ => ⟨same.trans next,ih t u first second⟩

theorem leAntisymm (s t : Text) (first : le s t = true) (second : le t s = true) : s = t := by
  induction s generalizing t with
  | nil =>
    cases t with
    | nil => rfl
    | cons b t => cases second
  | cons a s ih =>
    cases t with
    | nil => cases first
    | cons b t =>
      rw [leCons] at first second
      rcases first with less | ⟨same,first⟩
      · omega
      · rcases second with less | ⟨_,second⟩
        · omega
        · rw [valueInjective same,ih t first second]

theorem sortedIff (ts sorted : List Text) :
    ts.mergeSort le = sorted ↔ sorted.Perm ts ∧ sorted.Pairwise fun s t => le s t = true := by
  have ordered : (ts.mergeSort le).Pairwise fun s t => le s t = true := List.pairwise_mergeSort leTrans leTotal ts
  constructor
  · rintro rfl
    exact ⟨List.mergeSort_perm ts le,ordered⟩
  · rintro ⟨perm,pairwise⟩
    exact ((List.mergeSort_perm ts le).trans perm.symm).eq_of_pairwise (fun s t _ _ => leAntisymm s t) ordered pairwise

end Text

end TestWeaver
