import TestWeaver.Proofs.Text.Alphabet
import TestWeaver.Text.Word

/-! Word signs in small letters. The capital i with a dot is the one word sign whose small form has a mark that is none. -/
namespace TestWeaver

def isWordNumber (n : Nat) : Bool := wordRanges.any fun (low,high) => low ≤ n && n ≤ high

def CaseRun.image (r : CaseRun) (n : Nat) : Nat := ((n : Int) + r.shift).toNat

def CaseRun.WordSigns (r : CaseRun) : Prop :=
  (wordRanges.any fun w => Nat.ble w.1 (r.image r.low) && Nat.ble (r.image r.high) w.2) ∨
  (97 ≤ r.image r.low ∧ r.image r.high ≤ 122) ∨
  (wordRanges.all fun w => Nat.blt w.2 r.low || Nat.blt r.high w.1) ∨
  r.high < r.low + 64 ∧ ∀ k < 64, Option.all isWordNumber <| r.apply? (r.low + k)
instance (r : CaseRun) : Decidable r.WordSigns := by unfold CaseRun.WordSigns; infer_instance

theorem smallRunsWord : ∀ r ∈ smallRuns, r.WordSigns := by decide +kernel

section lowered
variable {c : CodePoint} {t : Text} {n m : Nat}

theorem wordPlace (isWord : isWordNumber n) : 0x80 ≤ n ∧ (n < 0xD800 ∨ 0xE000 ≤ n) ∧ n < 0x110000 := by
  have places : ∀ w ∈ wordRanges, 0x80 ≤ w.1 ∧ (w.2 < 0xD800 ∨ 0xE000 ≤ w.1) ∧ w.2 < 0x110000 := by decide +kernel
  obtain ⟨w,listed,inside⟩ := List.any_eq_true.mp isWord
  obtain ⟨least,most⟩ := Bool.and_eq_true_iff.mp inside
  have least := of_decide_eq_true least
  have most := of_decide_eq_true most
  have place := places w listed
  omega

theorem wordOfNumber (isWord : isWordNumber n) : ∃ q, CodePoint.ofNat? n = some q ∧ q.isWord := by
  obtain ⟨beyond,scalar,bound⟩ := wordPlace isWord
  refine ⟨.char (Char.ofNat n),by rw [CodePoint.ofNat?,if_neg (by omega),if_pos bound],?_⟩
  have valid : n.isValidChar := by
    show n < 0xD800 ∨ 0xDFFF < n ∧ n < 0x110000
    omega
  have value : (Char.ofNat n).toNat = n := by rw [Char.ofNat,dif_pos valid]; rfl
  rw [CodePoint.isWord,value,if_neg (by omega)]
  exact isWord

theorem wordOfLetter (low : 97 ≤ n) (high : n ≤ 122) : ∃ q, CodePoint.ofNat? n = some q ∧ q.isWord := by
  have each : ∀ k < 26, (CodePoint.ofNat? (97 + k)).any CodePoint.isWord := by decide +kernel
  have found := each (n - 97) (by omega)
  rw [show 97 + (n - 97) = n by omega] at found
  exact (Option.any_eq_true _ _).mp found

theorem applySome {r : CaseRun} (applied : r.apply? n = some m) : r.low ≤ n ∧ n ≤ r.high ∧ m = r.image n := by
  unfold CaseRun.apply? at applied
  split at applied
  · rename_i inside
    exact ⟨inside.1,inside.2.1,(Option.some.inj applied).symm⟩
  · contradiction

theorem smallWord {r : CaseRun} (listed : r ∈ smallRuns) (isWord : isWordNumber n) (applied : r.apply? n = some m) :
    ∃ q, CodePoint.ofNat? m = some q ∧ q.isWord := by
  obtain ⟨low,high,made⟩ := applySome applied
  have above : r.image r.low ≤ m := by rw [made,CaseRun.image,CaseRun.image]; omega
  have below : m ≤ r.image r.high := by rw [made,CaseRun.image,CaseRun.image]; omega
  rcases smallRunsWord r listed with within | ⟨least,most⟩ | apart | ⟨short,each⟩
  · obtain ⟨w,range,inside⟩ := List.any_eq_true.mp within
    obtain ⟨least,most⟩ := Bool.and_eq_true_iff.mp inside
    have least := Nat.le_of_ble_eq_true least
    have most := Nat.le_of_ble_eq_true most
    refine wordOfNumber (List.any_eq_true.mpr ⟨w,range,?_⟩)
    simp only [Bool.and_eq_true,decide_eq_true_eq]
    omega
  · exact wordOfLetter (by omega) (by omega)
  · obtain ⟨w,range,inside⟩ := List.any_eq_true.mp isWord
    have none := List.all_eq_true.mp apart w range
    simp only [Bool.and_eq_true,decide_eq_true_eq] at inside
    simp only [Bool.or_eq_true,Nat.blt_eq] at none
    omega
  · have found := each (n - r.low) (by omega)
    rw [show r.low + (n - r.low) = n by omega,applied] at found
    exact wordOfNumber found

theorem mappedWord (number : isWordNumber c.value) (isWord : c.isWord) (single : smallSequences.lookup c.value = none) :
    ∃ d, CodePoint.mapCase smallRuns smallSequences c = [d] ∧ d.isWord := by
  unfold CodePoint.mapCase
  rw [single]
  simp only
  cases found : smallRuns.findSome? fun r => r.apply? c.value with
  | none => exact ⟨_,rfl,isWord⟩
  | some m =>
    obtain ⟨r,listed,applied⟩ := List.exists_of_findSome?_eq_some found
    obtain ⟨q,given,isWord⟩ := smallWord listed number applied
    rw [Option.bind_some,given]
    exact ⟨q,rfl,isWord⟩

theorem lowerWord (isWord : c.isWord) (other : c ≠ .char 'İ') : ∃ d, c.lower = [d] ∧ d.isWord := by
  cases c with
  | half u => contradiction
  | char c =>
    unfold CodePoint.lower
    split
    · rename_i low
      exact ⟨_,rfl,CodePoint.asciiForall (P := fun c => c.isWord → c.small.isWord) (by decide +kernel) low isWord⟩
    · rename_i beyond
      have number : isWordNumber c.toNat := by
        have beyond : ¬ c.toNat < 0x80 := beyond
        rwa [CodePoint.isWord,if_neg beyond] at isWord
      have turkish : (CodePoint.char c).value ≠ 0x130 := by
        intro same
        have value : c = 'İ' := Char.ext (UInt32.toNat_inj.mp same)
        exact other (congrArg CodePoint.char value)
      have single : smallSequences.lookup (CodePoint.char c).value = none := by
        rw [smallSequences,List.lookup_cons,beq_false_of_ne turkish]
        rfl
      exact mappedWord number isWord single

theorem lowerWords (signs : ∀ c ∈ t, c.isWord) (other : .char 'İ' ∉ t) :
    t.lower.length = t.length ∧ ∀ c ∈ t.lower, c.isWord := by
  suffices each : ∀ before, (Text.lowerAfter before t).length = t.length ∧ ∀ c ∈ Text.lowerAfter before t, c.isWord from each []
  induction t with
  | nil => exact fun _ => ⟨rfl,nofun⟩
  | cons p t ih =>
    obtain ⟨here,later⟩ := List.forall_mem_cons.mp signs
    rw [List.mem_cons,not_or] at other
    obtain ⟨plain,free⟩ := other
    intro before
    obtain ⟨long,each⟩ := ih later free (p :: before)
    obtain ⟨d,single,isWord⟩ : ∃ d, (if p == .char 'Σ' then
        [if Text.meetsCased before && !Text.meetsCased t then CodePoint.char 'ς' else .char 'σ'] else p.lower) = [d] ∧ d.isWord := by
      split
      · refine ⟨_,rfl,?_⟩
        split <;> decide +kernel
      · exact lowerWord here (Ne.symm plain)
    rw [Text.lowerAfter,single]
    exact ⟨by simp [long],List.forall_mem_cons.mpr ⟨isWord,each⟩⟩

end lowered
end TestWeaver
