import TestWeaver.Action
import TestWeaver.Proofs.Text.Alphabet

/-! Actions in the order of their numbers. Numbers are integers, where the truth value
is the integer one; the order of other numbers is the same order, but their texts are
not considered here. -/
namespace TestWeaver

namespace Ordinal

def IsInteger : Ordinal → Prop
  | real _ => False
  | _ => True
instance (o : Ordinal) : Decidable o.IsInteger := by cases o <;> unfold IsInteger <;> infer_instance

theorem scaledPositive (n : Nat) (e : Int) : 0 < (Binary64.ratio n e).2 := by
  unfold Binary64.ratio Binary64.scale
  split
  · exact Nat.one_pos
  · rw [Nat.one_mul]
    exact Nat.pow_pos (by decide)

theorem ratioPositive {o : Ordinal} {a b : Nat} (ratio : o.ratio? = some (a,b)) : 0 < b := by
  cases o with
  | whole n => simp only [ratio?,Option.some.injEq,Prod.mk.injEq] at ratio; omega
  | truth => simp only [ratio?,Option.some.injEq,Prod.mk.injEq] at ratio; omega
  | real x =>
    cases x with
    | finite s m e =>
      have positive := scaledPositive m e
      simp only [ratio?,Option.some.injEq] at ratio
      rwa [ratio] at positive
    | infinite s => simp [ratio?] at ratio
    | nan => simp [ratio?] at ratio

theorem leTotal (o p : Ordinal) : o.le p || p.le o := by
  unfold le
  cases o.ratio? <;> cases p.ratio? <;> simp
  omega

theorem leTrans (o p q : Ordinal) (first : o.le p) (next : p.le q) : o.le q := by
  unfold le at *
  cases hq : q.ratio? with
  | none => cases o.ratio? <;> rfl
  | some t =>
    cases hp : p.ratio? with
    | none => simp [hp,hq] at next
    | some s =>
      cases ho : o.ratio? with
      | none => simp [ho,hp] at first
      | some r =>
        have positive := ratioPositive hp
        simp only [ho,hp,hq,decide_eq_true_eq] at first next ⊢
        have scaled : r.1 * t.2 * s.2 ≤ t.1 * r.2 * s.2 := by
          calc r.1 * t.2 * s.2 = r.1 * s.2 * t.2 := Nat.mul_right_comm ..
            _ ≤ s.1 * r.2 * t.2 := Nat.mul_le_mul_right _ first
            _ = s.1 * t.2 * r.2 := Nat.mul_right_comm ..
            _ ≤ t.1 * s.2 * r.2 := Nat.mul_le_mul_right _ next
            _ = t.1 * r.2 * s.2 := Nat.mul_right_comm ..
        exact Nat.le_of_mul_le_mul_right scaled positive

theorem isSameComm (o p : Ordinal) : o.isSame p = p.isSame o := by
  unfold isSame
  cases o.ratio? <;> cases p.ratio? <;> first | rfl | exact BEq.comm

theorem isSameSelf (o : Ordinal) : o.isSame o := by
  unfold isSame
  cases o.ratio? <;> simp

theorem notLeBack {o p : Ordinal} (first : o.le p) (other : o.isSame p = false) : p.le o = false := by
  unfold le isSame at *
  cases ho : o.ratio? <;> cases hp : p.ratio? <;> simp_all
  omega

theorem integerSigns {o : Ordinal} (integer : o.IsInteger) : ∀ c ∈ o.text, c.isAlnum := by
  cases o with
  | real x => exact integer.elim
  | truth => decide
  | whole n =>
    intro c member
    simp [CodePoint.isAlnum,Text.ofNatDigits member]

theorem textOfInteger {o : Ordinal} (integer : o.IsInteger) : CodePoint.char '_' ∉ o.text :=
  fun member => absurd (integerSigns integer _ member) (by decide)

theorem textOfDistinct {o p : Ordinal} (left : o.IsInteger) (right : p.IsInteger)
    (other : o.isSame p = false) : o.text ≠ p.text := by
  have wordless : ∀ n, Text.ofNat n ≠ "True" := by
    intro n same
    have digit : (CodePoint.char 'T').isDigit := Text.ofNatDigits (n := n) (by rw [same]; decide)
    exact absurd digit (by decide)
  intro same
  cases o with
  | real x => exact left.elim
  | truth =>
    cases p with
    | real x => exact right.elim
    | truth => exact absurd other (by decide)
    | whole n => exact wordless n same.symm
  | whole m =>
    cases p with
    | real x => exact right.elim
    | truth => exact wordless m same
    | whole n =>
      rw [Text.ofNatInj same,isSameSelf] at other
      contradiction

end Ordinal

namespace Action

structure Numbered (actions : List Action) : Prop where
  integers : ∀ a ∈ actions, a.id.IsInteger
  distinct : actions.Pairwise fun a b => a.id.isSame b.id = false

theorem inOrderPerm (actions : List Action) : (inOrder actions).Perm actions :=
  List.mergeSort_perm _ _

theorem memInOrder {actions : List Action} {a : Action} : a ∈ inOrder actions ↔ a ∈ actions :=
  (inOrderPerm actions).mem_iff

theorem numberedPerm {xs ys : List Action} (perm : xs.Perm ys) (numbered : Numbered xs) : Numbered ys where
  integers a member := numbered.integers a (perm.mem_iff.mpr member)
  distinct := by
    refine (perm.pairwise_iff ?_).mp numbered.distinct
    intro a b other
    rwa [Ordinal.isSameComm]

theorem numberedSame {actions : List Action} (numbered : Numbered actions) {a b : Action}
    (left : a ∈ actions) (right : b ∈ actions) (same : a.id.isSame b.id) : a = b := by
  have distinct := numbered.distinct
  clear numbered
  induction actions with
  | nil => simp at left
  | cons head tail ih =>
    obtain ⟨others,distinct⟩ := List.pairwise_cons.mp distinct
    rcases List.mem_cons.mp left with rfl | ha
    · rcases List.mem_cons.mp right with rfl | hb
      · rfl
      · simp [others b hb] at same
    · rcases List.mem_cons.mp right with rfl | hb
      · rw [Ordinal.isSameComm,others a ha] at same
        contradiction
      · exact ih ha hb distinct

def Before (a b : Action) : Prop := a.id.le b.id = true ∧ b.id.le a.id = false

theorem inOrderBefore {actions : List Action} (numbered : Numbered actions) :
    (inOrder actions).Pairwise Before := by
  have sorted : (inOrder actions).Pairwise fun a b => a.id.le b.id :=
    List.pairwise_mergeSort (fun a b c : Action => Ordinal.leTrans a.id b.id c.id)
      (fun a b => Ordinal.leTotal a.id b.id) _
  have distinct := (numberedPerm (inOrderPerm actions).symm numbered).distinct
  exact (sorted.and distinct).imp fun ⟨le,other⟩ => ⟨le,Ordinal.notLeBack le other⟩

end Action

end TestWeaver
