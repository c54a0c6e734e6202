import Mathlib.Data.List.Forall2
import TestWeaver.Markup.Plain
import TestWeaver.Proofs.Text.Reading
import TestWeaver.Story.Criteria

/-! Criteria of the lines that lists show. Every such line opens a criterion with what stands behind
its mark, and lines after it without a mark go on with the criterion at hand. -/
namespace TestWeaver.Criteria
open Text (IsLine)

def Opens (line opening : Text) : Prop := opened? line = some opening ∧ opening ≠ []

section marks
variable {x : Text}

theorem ofNatFull (n : Nat) : Text.ofNat n ≠ [] := by
  rw [Text.ofNatChars,ne_eq,List.map_eq_nil_iff]
  exact Nat.toDigits_ne_nil

theorem afterBulletDigit {c : CodePoint} (digit : c.isDigit) (t : Text) : afterBullet? (c :: t) = none := by
  have other : ∀ d : CodePoint, d.isDigit = false → c ≠ d := by
    rintro d sign rfl
    rw [sign] at digit
    contradiction
  have dot := other (.char '•') (by decide)
  have dash := other (.char '-') (by decide)
  have star := other (.char '*') (by decide)
  simp [afterBullet?,dot,dash,star]

theorem afterNumberOfNat (n : Nat) (x : Text) : afterNumber? (Text.ofNat n ++ .char '.' :: .char ' ' :: x) = some x := by
  have decimal : ∀ c ∈ Text.ofNat n, c.isDecimal := by
    intro c member
    have digit := Text.ofNatDigits member
    have alnum : c.isAlnum := by simp [CodePoint.isAlnum,digit]
    exact CodePoint.asciiForall (P := fun c => c.isDigit → c.isDecimal) (by decide +kernel)
      (CodePoint.alnumAscii alnum) digit
  have behind : (Text.ofNat n ++ .char '.' :: .char ' ' :: x).dropWhile CodePoint.isDecimal = .char '.' :: .char ' ' :: x := by
    rw [List.dropWhile_append_of_pos decimal,List.dropWhile_cons_of_neg (by decide)]
  have shorter : (CodePoint.char '.' :: .char ' ' :: x).length < (Text.ofNat n ++ .char '.' :: .char ' ' :: x).length := by
    have some := List.length_pos_iff.mpr (ofNatFull n)
    rw [List.length_append]
    omega
  rw [afterNumber?,behind,if_pos shorter]
  rfl

theorem markOpens (l : Markup.Listing) (n : Nat) (line : IsLine x) : Opens (l.mark n ++ x) x := by
  refine ⟨?_,line.full⟩
  have trimmed : ∀ a, (∀ c ∈ a, c.isBlank) → (a ++ x).trim = x := by
    intro a blank
    have padded := Text.trimPadded (b := []) blank (by simp) line.bare
    rwa [List.append_nil] at padded
  cases l with
  | bullets =>
    show some (Text.trim (.char ' ' :: x)) = some x
    exact congrArg some (trimmed [.char ' '] (by decide))
  | numbers =>
    have number := afterNumberOfNat n x
    have bullet : afterBullet? (Text.ofNat n ++ .char '.' :: .char ' ' :: x) = none := by
      obtain ⟨c,rest,digits⟩ := List.exists_cons_of_ne_nil (ofNatFull n)
      rw [digits]
      exact afterBulletDigit (Text.ofNatDigits (digits ▸ List.mem_cons_self)) _
    have marker : afterMarker? (Markup.Listing.numbers.mark n ++ x) = some x := by
      rw [Markup.Listing.mark,List.append_assoc]
      show (afterBullet? (Text.ofNat n ++ .char '.' :: .char ' ' :: x) <|>
        afterNumber? (Text.ofNat n ++ .char '.' :: .char ' ' :: x) <|> _) = some x
      rw [bullet,number]
      rfl
    rw [opened?,marker]
    exact congrArg some (trimmed [] (by simp))

theorem markHead (l : Markup.Listing) (n : Nat) : ∃ c rest, l.mark n = c :: rest ∧ c.isBlank = false ∧ c ≠ .char ':' := by
  cases l with
  | bullets => exact ⟨.char '•',[.char ' '],rfl,by decide,by decide⟩
  | numbers =>
    obtain ⟨c,rest,digits⟩ := List.exists_cons_of_ne_nil (ofNatFull n)
    have digit : c.isDigit := Text.ofNatDigits (digits ▸ List.mem_cons_self)
    refine ⟨c,rest ++ ". ",?_,CodePoint.notBlankOfAlnum (by simp [CodePoint.isAlnum,digit]),?_⟩
    · rw [Markup.Listing.mark,digits]
      rfl
    · rintro rfl
      contradiction

theorem markSingle (l : Markup.Listing) (n : Nat) : .char '\n' ∉ l.mark n := by
  cases l with
  | bullets =>
    show .char '\n' ∉ ("• " : Text)
    decide
  | numbers =>
    rw [Markup.Listing.mark,List.mem_append,not_or]
    exact ⟨fun inside => absurd (Text.ofNatDigits inside) (by decide),by decide⟩

theorem markedLine (l : Markup.Listing) (n : Nat) (line : IsLine x) : IsLine (l.mark n ++ x) := by
  obtain ⟨c,rest,mark,dark,_⟩ := markHead l n
  refine ⟨by simp [mark],?_,?_,?_⟩
  · rw [List.mem_append,not_or]
    exact ⟨markSingle l n,line.single⟩
  · rw [mark]
    simpa using dark
  · rw [List.getLast?_append_of_ne_nil _ line.full]
    exact line.bare.2

end marks

section groups
variable {line opening last : Text} {parts lines openings rest : List Text}

theorem groupStep (opens : Opens line opening) : group parts (line :: rest) = closed parts ++ group [opening] rest := by
  have full : opening.isEmpty = false := List.isEmpty_eq_false_iff.mpr opens.2
  rw [group,opens.1]
  simp [full]

theorem groupThen (opened : List.Forall₂ Opens lines (openings ++ [last])) :
    group parts (lines ++ rest) = closed parts ++ openings.flatMap (fun o => closed [o]) ++ group [last] rest := by
  induction openings generalizing parts lines with
  | nil =>
    obtain ⟨line,lines,opens,none,rfl⟩ := List.forall₂_cons_right_iff.mp opened
    obtain rfl := List.forall₂_nil_right_iff.mp none
    simpa using groupStep opens
  | cons o openings ih =>
    obtain ⟨line,lines,opens,later,rfl⟩ := List.forall₂_cons_right_iff.mp opened
    rw [List.cons_append,groupStep opens,ih later,List.flatMap_cons]
    simp only [List.append_assoc]

theorem groupOpened (opened : List.Forall₂ Opens lines openings) :
    group [] lines = openings.flatMap fun o => closed [o] := by
  rcases List.eq_nil_or_concat openings with rfl | ⟨front,last,rfl⟩
  · obtain rfl := List.forall₂_nil_right_iff.mp opened
    rfl
  · rw [List.concat_eq_append] at opened ⊢
    have whole : group [] (lines ++ []) = closed [] ++ _ ++ group [last] [] := groupThen opened
    rw [List.append_nil] at whole
    rw [whole,List.flatMap_append,List.flatMap_singleton]
    rfl

theorem joinedSingle (t : Text) : joined [t] = t := Text.joinSingle _ t

theorem closedLong (long : minimalLength ≤ last.length) : closed [last] = [last] := by
  rw [closed,joinedSingle,if_pos long]

theorem closedEach (openings : List Text) :
    (openings.flatMap fun o => closed [o]) = openings.filter fun o => minimalLength ≤ o.length := by
  induction openings with
  | nil => rfl
  | cons o openings ih =>
    rw [List.flatMap_cons,ih,closed,joinedSingle]
    by_cases long : minimalLength ≤ o.length
    · rw [if_pos long,List.filter_cons_of_pos (by simpa using long)]
      rfl
    · rw [if_neg long,List.filter_cons_of_neg (by simpa using long)]
      rfl

end groups

theorem ofTextLines {lines : List Text} (each : ∀ line ∈ lines, IsLine line) :
    ofText (Text.unlines lines) = group [] lines := by
  rw [ofText,Text.trimOfBare (Text.unlinesBare each)]
  exact congrArg (group []) (Text.linesOfLines each)

end TestWeaver.Criteria
