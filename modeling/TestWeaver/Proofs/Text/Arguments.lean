import TestWeaver.Proofs.Text.Alphabet
import TestWeaver.Text.Quoted

/-! The arguments between the parentheses of a call. Commas divide them, but not the commas
inside of literals; a quoted text is one literal, whatever it quotes. -/
namespace TestWeaver.Text

inductive Within where
  | nothing
  | literal (mark : CodePoint)
  | escape (mark : CodePoint)
  deriving DecidableEq, Repr

def Within.next : Within → CodePoint → Within
  | nothing, c => if c = .char '\'' ∨ c = .char '"' then literal c else nothing
  | literal mark, c => if c = mark then nothing else if c = .char '\\' then escape mark else literal mark
  | escape mark, _ => literal mark

def scan (w : Within) : Text → Within × Nat
  | [] => (w,0)
  | c :: t =>
    let (last,commas) := scan (w.next c) t
    (last,if w = .nothing ∧ c = .char ',' then commas + 1 else commas)

def countArguments (t : Text) : Option Nat :=
  if t.isEmpty then some 0
  else match scan .nothing t with
    | (.nothing,commas) => some (commas + 1)
    | _ => none

def IsMark (c : CodePoint) : Prop := c = .char '\'' ∨ c = .char '"'

section literal
variable {mark p : CodePoint} {t : Text}

theorem scanInside (other : p ≠ mark) (plain : p ≠ .char '\\') :
    scan (.literal mark) (p :: t) = scan (.literal mark) t := by
  simp [scan,Within.next,other,plain]

theorem scanEscape (quote : IsMark mark) : scan (.literal mark) (.char '\\' :: p :: t) = scan (.literal mark) t := by
  have other : CodePoint.char '\\' ≠ mark := by rcases quote with rfl | rfl <;> decide
  simp [scan,Within.next,other]

theorem scanAll {signs : Text} (inside : ∀ p ∈ signs, p ≠ mark ∧ p ≠ .char '\\') :
    scan (.literal mark) (signs ++ t) = scan (.literal mark) t := by
  induction signs with
  | nil => rfl
  | cons p signs ih =>
    obtain ⟨other,plain⟩ := inside p List.mem_cons_self
    rw [List.cons_append,scanInside other plain]
    exact ih fun q member => inside q (List.mem_cons_of_mem _ member)

theorem digitOfHexadecimal {n : Nat} {c : Char} (member : c ∈ Nat.toDigits 16 n) : ∃ k < 16, c = Nat.digitChar k := by
  induction n using Nat.strongRecOn with
  | ind n ih =>
    by_cases small : n < 16
    · rw [Nat.toDigits_of_lt_base small,List.mem_singleton] at member
      exact ⟨n,small,member⟩
    · rw [Nat.toDigits_of_base_le (by decide) (by omega),List.mem_append,List.mem_singleton] at member
      rcases member with before | last
      · exact ih (n / 16) (by omega) before
      · exact ⟨n % 16,Nat.mod_lt _ (by decide),last⟩

theorem hexadecimalInside (quote : IsMark mark) {width n : Nat} :
    ∀ p ∈ hexadecimal width n, p ≠ mark ∧ p ≠ .char '\\' := by
  have digit : ∀ k < 16, .char (Nat.digitChar k) ≠ mark ∧ CodePoint.char (Nat.digitChar k) ≠ .char '\\' := by
    rcases quote with rfl | rfl <;> decide
  intro p member
  rcases List.mem_append.mp member with zeros | digits
  · rw [(List.mem_replicate.mp zeros).2]
    exact digit 0 (by decide)
  · obtain ⟨c,inside,rfl⟩ := List.mem_map.mp digits
    obtain ⟨k,small,rfl⟩ := digitOfHexadecimal inside
    exact digit k small

theorem scanNumeric (quote : IsMark mark) : scan (.literal mark) (p.numericEscape ++ t) = scan (.literal mark) t := by
  have wide : ∀ c width n, scan (.literal mark) (.char '\\' :: c :: hexadecimal width n ++ t) =
      scan (.literal mark) t := by
    intro c width n
    rw [List.cons_append,List.cons_append,scanEscape quote,scanAll (hexadecimalInside quote)]
  unfold CodePoint.numericEscape
  split
  · exact wide _ _ _
  · split <;> exact wide _ _ _

theorem scanQuoted (quote : IsMark mark) : scan (.literal mark) (mark.quotedIn p ++ t) = scan (.literal mark) t := by
  unfold CodePoint.quotedIn
  split
  · exact scanEscape quote
  · rename_i plain
    simp only [Bool.or_eq_true,beq_iff_eq,not_or] at plain
    split
    · exact scanEscape quote
    · split
      · exact scanEscape quote
      · split
        · exact scanEscape quote
        · split
          · exact scanInside plain.1 plain.2
          · exact scanNumeric quote

end literal

theorem quoteIsMark (t : Text) : IsMark (quoteMark t) := by
  unfold quoteMark
  split
  · exact .inr rfl
  · exact .inl rfl

theorem countQuoted (t : Text) : countArguments (quoted t) = some 1 := by
  have quote := quoteIsMark t
  have closes : ∀ mark : CodePoint, IsMark mark → ∀ u : Text,
      scan (.literal mark) (u.flatMap (CodePoint.quotedIn mark) ++ [mark]) = (.nothing,0) := by
    intro mark quote u
    induction u with
    | nil => simp [scan,Within.next]
    | cons p u ih => rw [List.flatMap_cons,List.append_assoc,scanQuoted quote,ih]
  have opens : Within.next .nothing (quoteMark t) = .literal (quoteMark t) := if_pos quote
  have comma : quoteMark t ≠ .char ',' := by rcases quote with h | h <;> rw [h] <;> decide
  simp [countArguments,quoted,scan,opens,closes _ quote,comma]

end TestWeaver.Text
