import TestWeaver.Text.Utf8
import TestWeaver.Proofs.Text.Alphabet

/-! The bytes of texts: those of a front stand in front, and a text without halves has bytes, with
a zero only for the null sign. -/
namespace TestWeaver.Utf8

theorem encodePrefix {a b : Text} {position : Nat} {bytes : Bytes} (ok : encodeAt position (a ++ b) = .ok bytes) :
    ∃ x y, encodeAt position a = .ok x ∧ bytes = x ++ y := by
  induction a generalizing position bytes with
  | nil => exact ⟨[],bytes,rfl,rfl⟩
  | cons c a ih =>
    cases c with
    | half u => cases ok
    | char c =>
      rw [List.cons_append,encodeAt] at ok
      cases rest : encodeAt (position + 1) (a ++ b) with
      | error e =>
        rw [rest] at ok
        cases ok
      | ok tail =>
        rw [rest] at ok
        cases ok
        obtain ⟨x,y,front,rfl⟩ := ih rest
        refine ⟨bytesOfChar c ++ x,y,?_,(List.append_assoc _ _ _).symm⟩
        rw [encodeAt,front]
        rfl

theorem byteNotZero {n : Nat} (full : n % 256 ≠ 0) : 0 ≠ n.toUInt8 := by
  intro zero
  have same := congrArg UInt8.toNat zero
  simp at same
  omega

theorem bytesNotZero {c : Char} (sign : c ≠ '\x00') : 0 ∉ bytesOfChar c := by
  have code : c.toNat ≠ 0 := fun zero => sign (Char.toNat_inj.mp zero)
  have below : c.toNat < 0x110000 := by
    rcases c.valid with low | high
    · exact Nat.lt_trans low (by decide)
    · exact high.2
  unfold bytesOfChar
  simp only
  split
  · simpa using byteNotZero (by omega)
  · split
    · simp only [List.mem_cons,List.not_mem_nil,or_false,not_or]
      exact ⟨byteNotZero (by omega),byteNotZero (by omega)⟩
    · split
      · simp only [List.mem_cons,List.not_mem_nil,or_false,not_or]
        exact ⟨byteNotZero (by omega),byteNotZero (by omega),byteNotZero (by omega)⟩
      · simp only [List.mem_cons,List.not_mem_nil,or_false,not_or]
        exact ⟨byteNotZero (by omega),byteNotZero (by omega),byteNotZero (by omega),byteNotZero (by omega)⟩

def Clean (t : Text) : Prop := ∀ p ∈ t, ∃ c, p = .char c ∧ c ≠ '\x00'

theorem cleanAppend {t u : Text} (left : Clean t) (right : Clean u) : Clean (t ++ u) :=
  fun p member => (List.mem_append.mp member).elim (left p) (right p)

theorem cleanString {s : String} (free : '\x00' ∉ s.toList) : Clean (Text.ofString s) := by
  intro p member
  obtain ⟨c,inside,rfl⟩ := List.mem_map.mp member
  exact ⟨c,rfl,fun null => free (null ▸ inside)⟩

theorem encodeClean {t : Text} (clean : Clean t) (position : Nat) :
    ∃ bytes, encodeAt position t = .ok bytes ∧ 0 ∉ bytes := by
  induction t generalizing position with
  | nil => exact ⟨[],rfl,by simp⟩
  | cons p t ih =>
    obtain ⟨c,rfl,sign⟩ := clean p List.mem_cons_self
    obtain ⟨bytes,encodes,free⟩ := ih (fun q member => clean q (List.mem_cons_of_mem _ member)) (position + 1)
    refine ⟨bytesOfChar c ++ bytes,?_,?_⟩
    · rw [encodeAt,encodes]
      rfl
    · rw [List.mem_append,not_or]
      exact ⟨bytesNotZero sign,free⟩

theorem encodeHalf {t : Text} {u : Fin 2048} (inside : .half u ∈ t) (position : Nat) :
    ∃ e, encodeAt position t = .error e := by
  induction t generalizing position with
  | nil => contradiction
  | cons p t ih =>
    cases p with
    | half v => exact ⟨_,rfl⟩
    | char c =>
      obtain ⟨e,fails⟩ := ih (by simpa using inside) (position + 1)
      refine ⟨e,?_⟩
      rw [encodeAt,fails]
      rfl

instance : DecidablePred fun p : CodePoint => ∃ c, p = .char c
  | .char c => .isTrue ⟨c,rfl⟩
  | .half u => .isFalse (by rintro ⟨c,same⟩; cases same)

def Whole (t : Text) : Prop := ∀ p ∈ t, ∃ c, p = .char c
instance (t : Text) : Decidable (Whole t) := by unfold Whole; infer_instance

section whole
variable {t u sep : Text} {parts : List Text}

theorem encodeWhole (whole : Whole t) (position : Nat) : ∃ bytes, encodeAt position t = .ok bytes := by
  induction t generalizing position with
  | nil => exact ⟨[],rfl⟩
  | cons p t ih =>
    obtain ⟨c,rfl⟩ := whole p List.mem_cons_self
    obtain ⟨bytes,encodes⟩ := ih (fun q inside => whole q (List.mem_cons_of_mem _ inside)) (position + 1)
    refine ⟨bytesOfChar c ++ bytes,?_⟩
    rw [encodeAt,encodes]
    rfl

@[simp] theorem wholeString (s : String) : Whole (Text.ofString s) := by
  intro p member
  obtain ⟨c,_,rfl⟩ := List.mem_map.mp member
  exact ⟨c,rfl⟩

@[simp] theorem wholeNil : Whole [] := by
  rintro p ⟨⟩

@[simp] theorem wholeAppend : Whole (t ++ u) ↔ Whole t ∧ Whole u := List.forall_mem_append

theorem wholeJoin (between : Whole sep) (whole : ∀ part ∈ parts, Whole part) : Whole (Text.join sep parts) := by
  intro p member
  rcases Text.memJoin member with here | ⟨part,inside,here⟩
  · exact between p here
  · exact whole part inside p here

end whole

end TestWeaver.Utf8
