import Mathlib.Data.List.Forall2
import Mathlib.Data.List.Induction
import TestWeaver.Context

/-! The gates of a context. What a gate lets through of a list of items is the first
item of every key; a call at one gate leaves the registry and the other gates as they are. -/
namespace TestWeaver

section firsts
variable {α κ : Type} [DecidableEq κ] {key : α → κ} {xs : List α} {a : α}

def firstsBy (key : α → κ) (items : List α) : List α :=
  items.foldl (fun kept a => if key a ∈ kept.map key then kept else kept ++ [a]) []

theorem firstsStep : firstsBy key (xs ++ [a]) =
    if key a ∈ (firstsBy key xs).map key then firstsBy key xs else firstsBy key xs ++ [a] := by
  simp [firstsBy,List.foldl_append]

theorem keysOfFirsts {k : κ} : k ∈ (firstsBy key xs).map key ↔ k ∈ xs.map key := by
  induction xs using List.reverseRecOn generalizing k with
  | nil => rfl
  | append_singleton xs a ih =>
    rw [firstsStep]
    split
    · rename_i seen
      rw [ih,List.map_append,List.mem_append]
      refine ⟨.inl,fun either => either.elim id fun last => ?_⟩
      rw [List.mem_singleton.mp last]
      exact ih.mp seen
    · simp only [List.map_append,List.mem_append,ih]

theorem firstsSeen (seen : key a ∈ xs.map key) : firstsBy key (xs ++ [a]) = firstsBy key xs := by
  rw [firstsStep,if_pos (keysOfFirsts.mpr seen)]

theorem firstsFresh (fresh : key a ∉ xs.map key) : firstsBy key (xs ++ [a]) = firstsBy key xs ++ [a] := by
  rw [firstsStep,if_neg fun seen => fresh (keysOfFirsts.mp seen)]

theorem firstsNodup (key : α → κ) (xs : List α) : ((firstsBy key xs).map key).Nodup := by
  induction xs using List.reverseRecOn with
  | nil => exact List.Pairwise.nil
  | append_singleton xs a ih =>
    rw [firstsStep]
    split
    · exact ih
    · rename_i fresh
      rw [List.map_append,List.nodup_append]
      refine ⟨ih,by simp,?_⟩
      intro k old l new same
      rw [List.map_singleton,List.mem_singleton] at new
      exact fresh (new ▸ same ▸ old)

theorem firstsSublist (key : α → κ) (xs : List α) : (firstsBy key xs).Sublist xs := by
  induction xs using List.reverseRecOn with
  | nil => exact .slnil
  | append_singleton xs a ih =>
    rw [firstsStep]
    split
    · exact ih.trans (List.sublist_append_left _ _)
    · exact ih.append (List.Sublist.refl _)

end firsts

section related
variable {α β : Type} {R : α → β → Prop} {as : List α} {bs : List β}

theorem leftRelated (related : List.Forall₂ R as bs) : ∀ b ∈ bs, ∃ a ∈ as, R a b := by
  induction related with
  | nil => simp
  | @cons a b as bs here _ ih =>
    intro d member
    rcases List.mem_cons.mp member with rfl | later
    · exact ⟨a,List.mem_cons_self,here⟩
    · obtain ⟨e,inside,holds⟩ := ih d later
      exact ⟨e,List.mem_cons_of_mem _ inside,holds⟩

theorem rightRelated (related : List.Forall₂ R as bs) : ∀ a ∈ as, ∃ b ∈ bs, R a b :=
  leftRelated (R := flip R) (List.Forall₂.flip related)

end related

/- A registry keeps the last entry in front, a list of items the first; with new keys alone
they agree. -/
theorem lookupGrown {α κ β : Type} [BEq κ] [LawfulBEq κ] {key : α → κ} {value : α → β} {xs : List α} {a : α}
    {pairs : List (κ × β)} (agree : ∀ k, pairs.lookup k = (xs.find? fun b => key b == k).map value)
    (fresh : key a ∉ xs.map key) (k : κ) :
    ((key a,value a) :: pairs).lookup k = ((xs ++ [a]).find? fun b => key b == k).map value := by
  rw [List.lookup_cons,List.find?_append]
  by_cases same : k = key a
  · subst same
    have none : xs.find? (fun b => key b == key a) = none := by
      rw [List.find?_eq_none]
      intro b member same
      exact fresh (List.mem_map.mpr ⟨b,member,beq_iff_eq.mp same⟩)
    simp [none]
  · have back : (key a == k) = false := by
      rw [beq_eq_false_iff_ne]
      exact fun h => same h.symm
    simp [agree,beq_false_of_ne same,back]

namespace Context
variable {c : Context} {artifact : Artifact} {part : Part} {value : Text}

theorem hasSeen : c.has artifact part value ↔ value ∈ c.seen artifact part := by
  unfold has seen
  rw [List.contains_iff_mem,List.mem_filterMap]
  constructor
  · intro member
    exact ⟨_,member,by simp⟩
  · rintro ⟨⟨a,p,v⟩,member,found⟩
    simp only [Option.ite_none_right_eq_some,Option.some.injEq] at found
    obtain ⟨⟨rfl,rfl⟩,rfl⟩ := found
    exact member

theorem emitSeen (seen : value ∈ c.seen artifact part) : c.emit artifact part value =
    (false,{ c with notes := c.notes ++ [.duplicate artifact part value] }) := by
  simp [emit,hasSeen.mpr seen]

theorem emitFresh (fresh : value ∉ c.seen artifact part) : c.emit artifact part value =
    (true,{ c with accepted := c.accepted ++ [(artifact,part,value)] }) := by
  have new : ¬ c.has artifact part value := fun has => fresh (hasSeen.mp has)
  simp [emit,new]

theorem seenGrown {c d : Context} {more : List (Artifact × Part × Text)}
    (grown : d.accepted = c.accepted ++ more) (artifact : Artifact) (part : Part) :
    d.seen artifact part = c.seen artifact part ++ seen { accepted := more } artifact part := by
  unfold seen
  rw [grown,List.filterMap_append]

/- What a document leaves as it was when it writes through gates of its own alone: what the
page registered, and what was seen at the gates of other artifacts. -/
structure OnlyAt (own : Artifact) (c d : Context) : Prop where
  constants : d.constants = c.constants
  declared : d.declared = c.declared
  owners : d.owners = c.owners
  others : ∀ artifact part, artifact ≠ own → d.seen artifact part = c.seen artifact part

theorem onlyAtSelf (own : Artifact) (c : Context) : OnlyAt own c c := ⟨rfl,rfl,rfl,fun _ _ _ => rfl⟩

theorem onlyAtTrans {own : Artifact} {c d e : Context} (first : OnlyAt own c d) (next : OnlyAt own d e) :
    OnlyAt own c e where
  constants := next.constants.trans first.constants
  declared := next.declared.trans first.declared
  owners := next.owners.trans first.owners
  others artifact part other := (next.others artifact part other).trans (first.others artifact part other)

theorem emitOnly (c : Context) (own part value) : OnlyAt own c (c.emit own part value).2 := by
  unfold emit
  split
  · exact ⟨rfl,rfl,rfl,fun _ _ _ => rfl⟩
  · refine ⟨rfl,rfl,rfl,fun artifact unit other => ?_⟩
    rw [seenGrown rfl]
    simp [seen,other.symm]

def shown (c : Context) (actions : List Action) : List Action :=
  actions.filter fun a => !a.isNavigation && c.isDeclared a

theorem shownCons (c : Context) (a : Action) (rest : List Action) : c.shown (a :: rest) =
    if a.isNavigation || !c.isDeclared a then c.shown rest else a :: c.shown rest := by
  unfold shown
  rw [List.filter_cons]
  cases a.isNavigation <;> cases c.isDeclared a <;> rfl

theorem onlyAtShown {own : Artifact} {d : Context} (only : OnlyAt own c d) (actions : List Action) :
    d.shown actions = c.shown actions := by
  unfold shown isDeclared
  rw [only.declared]

theorem memShown {actions : List Action} {a : Action} (member : a ∈ c.shown actions) :
    a ∈ actions ∧ a.isNavigation = false ∧ c.isDeclared a := by
  simpa [shown] using member

end Context

end TestWeaver
