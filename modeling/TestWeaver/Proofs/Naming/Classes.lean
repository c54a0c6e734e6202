import TestWeaver.Proofs.Naming.Columns
import TestWeaver.Proofs.Naming.Files

/-! Class names that are given as names again. A class name begins with a capital. One with inner capitals stays as it
is; any other is put in small letters behind its first sign, and its files keep their names just where no word begins
inside it and the class of the page does not get to be named differently. -/
namespace TestWeaver

namespace Text

theorem runsAll {p : CodePoint → Bool} {t run : Text} (all : ∀ c ∈ t, p c) (full : run ≠ [] ∨ t ≠ []) :
    runs.go p run t = [run.reverse ++ t] := by
  induction t generalizing run with
  | nil =>
    have given : run ≠ [] := full.resolve_right (not_not_intro rfl)
    unfold runs.go
    rw [if_neg (by simpa using given),List.append_nil]
  | cons c t ih =>
    obtain ⟨first,later⟩ := List.forall_mem_cons.mp all
    unfold runs.go
    rw [if_pos first,ih later (.inl (List.cons_ne_nil c run)),List.reverse_cons,List.append_assoc]
    rfl

end Text

namespace Naming

/- A class name whose files are found under the class name itself. -/
def Steady (c : Text) : Prop := hasInnerCapital c = true ∨ .char ' ' ∉ spoken c ∧ c ≠ "PAGE"
instance (c : Text) : Decidable (Steady c) := by unfold Steady; infer_instance

def lowered : Text → Text
  | [] => []
  | c :: t => c :: t.map CodePoint.small

section heads
variable {c : CodePoint} {t word : Text}

theorem alnumForall {P : CodePoint → Prop} (alnum : c.isAlnum)
    (all : ∀ n < 128, (CodePoint.char (Char.ofNat n)).isAlnum → P (.char (Char.ofNat n))) : P c :=
  CodePoint.asciiForall (P := fun c => c.isAlnum → P c) all (CodePoint.alnumAscii alnum) alnum

theorem capitalAlnum (capital : c.isCapital) : c.isAlnum := by simp [CodePoint.isAlnum,CodePoint.isLetter,capital]

theorem capitalSelf (capital : c.isCapital) : c.capital = c ∧ c.isDigit = false :=
  alnumForall (P := fun c => c.isCapital → c.capital = c ∧ c.isDigit = false) (capitalAlnum capital) (by decide +kernel) capital

theorem smallAgain (alnum : c.isAlnum) : c.small.small = c.small ∧ c.small.isCapital = false :=
  alnumForall (P := fun c => c.small.small = c.small ∧ c.small.isCapital = false) alnum (by decide +kernel)

theorem capitalizedCons (alnum : Alnum (c :: t)) : capitalized (c :: t) = c.capital :: t.map CodePoint.small := by
  obtain ⟨first,later⟩ := List.forall_mem_cons.mp alnum
  have rest := Text.lowerAscii fun d member => CodePoint.alnumAscii (later d member)
  rw [capitalized,CodePoint.upper,if_pos (CodePoint.alnumAscii first),rest]
  rfl

theorem capitalizedHead (full : word ≠ []) (alnum : Alnum word) :
    ∃ d rest, capitalized word = d :: rest ∧ (d.isCapital ∨ d.isDigit) := by
  obtain ⟨c,t,rfl⟩ := List.exists_cons_of_ne_nil full
  exact ⟨_,_,capitalizedCons alnum,CodePoint.capitalOfAlnum (alnum c List.mem_cons_self)⟩

theorem classNameHead (t : Text) : ∃ c rest, className t = c :: rest ∧ c.isCapital := by
  have words : ∀ word ∈ alnumWords t, word ≠ [] ∧ Alnum word := fun word member =>
    ⟨(Text.runsWithin member).1,fun c inside => ((Text.runsWithin member).2 c inside).1⟩
  have numbered : ∀ name : Text, (∃ c rest, name = c :: rest ∧ (c.isCapital ∨ c.isDigit)) →
      ∃ c rest, (if name.head?.any CodePoint.isDigit then "Class" ++ name else name) = c :: rest ∧ c.isCapital := by
    rintro name ⟨c,rest,rfl,sort⟩
    split
    · exact ⟨.char 'C',_,rfl,by decide⟩
    · rename_i other
      exact ⟨c,rest,rfl,sort.resolve_right (by simpa using other)⟩
  unfold className
  split
  · exact ⟨.char 'D',_,rfl,by decide⟩
  · rename_i given
    apply numbered
    split
    · rename_i c rest found
      obtain ⟨full,alnum⟩ := words _ (by rw [found]; exact List.mem_cons_self)
      split
      · exact ⟨c.capital,rest,rfl,CodePoint.capitalOfAlnum (alnum c List.mem_cons_self)⟩
      · exact capitalizedHead full alnum
    · cases found : alnumWords t with
      | nil => exact absurd found (by assumption)
      | cons word rest =>
        obtain ⟨full,alnum⟩ := words word (by rw [found]; exact List.mem_cons_self)
        obtain ⟨d,more,head,sort⟩ := capitalizedHead full alnum
        exact ⟨d,more ++ (rest.map capitalized).flatten,by rw [List.map_cons,List.flatten_cons,head]; rfl,sort⟩

theorem classNameAgain (capital : c.isCapital) (alnum : Alnum (c :: t)) :
    className (c :: t) = if hasInnerCapital (c :: t) then c :: t else lowered (c :: t) := by
  have words : alnumWords (c :: t) = [c :: t] := Text.runsAll alnum (.inr (List.cons_ne_nil c t))
  obtain ⟨own,digit⟩ := capitalSelf capital
  rw [className,words]
  simp only [capitalizedCons alnum,own]
  split <;> simp [digit,lowered]

end heads

section whole
variable {mark a : CodePoint} {test : CodePoint → Text → Bool} {name t : Text}

def parted (name : Text) : Text := separate (.char ' ') isSpokenBreak name

theorem separateLonger (mark : CodePoint) (test : CodePoint → Text → Bool) (t : Text) :
    separate mark test t = t ∨ t.length < (separate mark test t).length := by
  induction t with
  | nil => exact .inl rfl
  | cons a t ih =>
    unfold separate
    split
    · refine .inr ?_
      have least : t.length ≤ (separate mark test t).length := by
        rcases ih with same | longer
        · rw [same]
        · exact Nat.le_of_lt longer
      simp only [List.length_cons]
      omega
    · rcases ih with same | longer
      · exact .inl (by rw [same])
      · exact .inr (by simpa using longer)

theorem separateFree (free : mark ∉ separate mark test t) : separate mark test t = t := by
  induction t with
  | nil => rfl
  | cons a t ih =>
    unfold separate at free ⊢
    split at free
    · simp at free
    · rename_i unbroken
      rw [if_neg unbroken,ih fun member => free (List.mem_cons_of_mem a member)]

theorem partedLow (low : ∀ c ∈ t, c.isCapital = false) : parted (a :: t) = a :: t := by
  induction t generalizing a with
  | nil => simp [parted,separate,isSpokenBreak,risesAfter,acronymEndsAfter]
  | cons b t ih =>
    obtain ⟨first,later⟩ := List.forall_mem_cons.mp low
    have unbroken : ¬isSpokenBreak a (b :: t) = true := by
      intro breaks
      obtain ⟨c,z,same,capital⟩ := breakCapital breaks
      rw [← (List.cons.inj same).1,first] at capital
      contradiction
    rw [parted,separate,if_neg unbroken]
    exact congrArg (List.cons a) (ih later)

variable (alnum : Alnum name)
include alnum

theorem spokenParted : spoken name = (parted name).map CodePoint.small := spokenSeparated alnum

theorem noSpace : .char ' ' ∉ name := fun member => absurd (alnum _ member) (by decide)

theorem noSmallSpace : .char ' ' ∉ name.map CodePoint.small := by
  intro member
  obtain ⟨c,inside,space⟩ := List.mem_map.mp member
  exact noSpace alnum (smallSpace (.inl (alnum c inside)) space ▸ inside)

theorem wholeIff : parted name = name ↔ .char ' ' ∉ spoken name := by
  rw [spokenParted alnum]
  constructor
  · intro whole
    rw [whole]
    exact noSmallSpace alnum
  · intro free
    exact separateFree fun member => free (List.mem_map.mpr ⟨.char ' ',member,by decide⟩)

theorem underscoredSelf : (name.map CodePoint.small).map underscored = name.map CodePoint.small := by
  have same : ∀ c ∈ name.map CodePoint.small, underscored c = id c := by
    intro c member
    have other : c ≠ .char ' ' := by
      rintro rfl
      exact noSmallSpace alnum member
    rw [underscored,if_neg other]
    rfl
  exact (List.map_congr_left same).trans (List.map_id _)

theorem snakeWhole (whole : parted name = name) : snake name = name.map CodePoint.small := by
  rw [snakeSpoken alnum,spokenParted alnum,whole,underscoredSelf alnum]

theorem snakeLength : (snake name).length = (parted name).length := by
  rw [snakeSpoken alnum,spokenParted alnum,List.length_map,List.length_map]

end whole

section files
variable {c : CodePoint} {t name : Text}

theorem loweredAlnum (alnum : Alnum (c :: t)) : Alnum (lowered (c :: t)) := by
  obtain ⟨first,later⟩ := List.forall_mem_cons.mp alnum
  refine List.forall_mem_cons.mpr ⟨first,fun d member => ?_⟩
  obtain ⟨e,inside,rfl⟩ := List.mem_map.mp member
  rcases CodePoint.smallOfAlnum (later e inside) with h | h <;> simp [CodePoint.isAlnum,CodePoint.isLetter,h]

theorem loweredWhole (alnum : Alnum (c :: t)) : parted (lowered (c :: t)) = lowered (c :: t) := by
  refine partedLow fun d member => ?_
  obtain ⟨e,inside,rfl⟩ := List.mem_map.mp member
  exact (smallAgain (alnum e (List.mem_cons_of_mem c inside))).2

theorem loweredSmall (alnum : Alnum (c :: t)) :
    (lowered (c :: t)).map CodePoint.small = (c :: t).map CodePoint.small := by
  have twice : ∀ d ∈ t, (CodePoint.small ∘ CodePoint.small) d = d.small := fun d member =>
    (smallAgain (alnum d (List.mem_cons_of_mem c member))).1
  rw [lowered,List.map_cons,List.map_map,List.map_congr_left twice,List.map_cons]

theorem loweredSnake (alnum : Alnum (c :: t)) : snake (lowered (c :: t)) = snake (c :: t) ↔ parted (c :: t) = c :: t := by
  have small := (snakeWhole (loweredAlnum alnum) (loweredWhole alnum)).trans (loweredSmall alnum)
  constructor
  · intro same
    have sizes := congrArg List.length same
    rw [small,List.length_map,snakeLength alnum] at sizes
    exact (separateLonger (.char ' ') isSpokenBreak (c :: t)).resolve_right (by rw [parted] at sizes; omega)
  · intro whole
    rw [small,snakeWhole alnum whole]

theorem pageBreak (alnum : c.isAlnum) : isSpokenBreak c "Page" = true :=
  alnumForall (P := fun c => isSpokenBreak c "Page" = true) alnum (by decide +kernel)

theorem partedPage (full : name ≠ []) (alnum : Alnum name) : parted (name ++ "Page") = parted name ++ " Page" := by
  induction name with
  | nil => contradiction
  | cons a t ih =>
    obtain ⟨first,later⟩ := List.forall_mem_cons.mp alnum
    cases t with
    | nil =>
      rw [List.singleton_append,parted,separate,if_pos (pageBreak first),partedLow (by simp)]
      rfl
    | cons b t =>
      have same : isSpokenBreak a (b :: t ++ "Page") = isSpokenBreak a (b :: t) := by
        cases t with
        | nil => simp [isSpokenBreak,risesAfter,acronymEndsAfter,Text.ofString,CodePoint.isSmall]
        | cons d t => rfl
      have rest := ih (List.cons_ne_nil b t) later
      rw [List.cons_append,parted,separate,same,parted,separate]
      split
      · exact congrArg (fun rest => a :: .char ' ' :: rest) rest
      · exact congrArg (List.cons a) rest

theorem pageAlone (alnum : Alnum name) (whole : parted name = name) (ends : name.endsWith "Page") : name = "Page" := by
  obtain ⟨front,rfl⟩ := List.isSuffixOf_iff_suffix.mp ends
  by_cases full : front = []
  · rw [full,List.nil_append]
  · have sizes := congrArg List.length whole
    rw [partedPage full fun c member => alnum c (List.mem_append_left _ member)] at sizes
    rcases separateLonger (.char ' ') isSpokenBreak front with same | longer
    · rw [parted,same] at sizes
      simp [Text.ofString] at sizes
    · simp [parted,Text.ofString] at sizes
      omega

theorem snakeBehind (full : name ≠ []) (alnum : Alnum name) : snake (name ++ "Page") = snake name ++ "_page" := by
  have both := behindAlnum alnum (by decide : Alnum "Page")
  rw [snakeSpoken both,spokenParted both,partedPage full alnum,snakeSpoken alnum,spokenParted alnum,List.map_append,
    List.map_append]
  rfl

theorem snakePage (full : name ≠ []) (alnum : Alnum name) (other : name.endsWith "Page" = false) :
    snake (pageClass name) = snake name ++ "_page" := by
  have apart : pageClass name = name ++ "Page" := if_neg (by simp [other])
  rw [apart,snakeBehind full alnum]

theorem spelledSmall {d e : CodePoint} (alnum : d.isAlnum) (small : d.small = e) (letter : e.isSmall) :
    d = e ∨ d = e.capital := by
  subst small
  exact alnumForall (P := fun d => d.small.isSmall → d = d.small ∨ d = d.small.capital) alnum (by decide +kernel) letter

theorem pageSpelled (alnum : Alnum (c :: t)) (whole : parted (c :: t) = c :: t) (small : lowered (c :: t) = "Page") :
    c :: t = "Page" ∨ c :: t = "PAGE" := by
  obtain ⟨rfl,rest⟩ := List.cons.inj small
  obtain ⟨a,_,rfl,isA,rest⟩ := List.map_eq_cons_iff.mp rest
  obtain ⟨g,_,rfl,isG,rest⟩ := List.map_eq_cons_iff.mp rest
  obtain ⟨e,_,rfl,isE,rest⟩ := List.map_eq_cons_iff.mp rest
  cases List.map_eq_nil_iff.mp rest
  rcases spelledSmall (alnum a (by simp)) isA (by decide) with rfl | rfl <;>
  rcases spelledSmall (alnum g (by simp)) isG (by decide) with rfl | rfl <;>
  rcases spelledSmall (alnum e (by simp)) isE (by decide) with rfl | rfl <;>
  revert whole <;> decide

theorem pageSteady (alnum : Alnum (c :: t)) (whole : parted (c :: t) = c :: t) :
    snake (pageClass (lowered (c :: t))) = snake (pageClass (c :: t)) ↔ c :: t ≠ "PAGE" := by
  constructor
  · intro same capitals
    rw [capitals] at same
    revert same
    decide
  · intro other
    by_cases ends : Text.endsWith (c :: t) "Page"
    · rw [pageAlone alnum whole ends]
      decide
    · by_cases becomes : (lowered (c :: t)).endsWith "Page"
      · have page := pageAlone (loweredAlnum alnum) (loweredWhole alnum) becomes
        rw [(pageSpelled alnum whole page).resolve_right other]
        decide
      · have low : snake (pageClass (lowered (c :: t))) = snake (lowered (c :: t)) ++ "_page" :=
          snakePage (List.cons_ne_nil _ _) (loweredAlnum alnum) (Bool.eq_false_iff.mpr becomes)
        rw [low,snakePage (List.cons_ne_nil c t) alnum (Bool.eq_false_iff.mpr ends),(loweredSnake alnum).mpr whole]

end files

theorem steadyIff (t : Text) :
    (snake (pageClass (className (className t))) = snake (pageClass (className t)) ∧
      snake (className (className t)) = snake (className t)) ↔ Steady (className t) := by
  have alnum := classNameAlnum t
  obtain ⟨c,rest,head,capital⟩ := classNameHead t
  rw [head] at alnum ⊢
  rw [classNameAgain capital alnum,Steady,← wholeIff alnum]
  split
  · rename_i kept
    simp [kept]
  · rename_i loose
    rw [loweredSnake alnum]
    constructor
    · rintro ⟨page,whole⟩
      exact .inr ⟨whole,(pageSteady alnum whole).mp page⟩
    · intro steady
      obtain ⟨whole,other⟩ := steady.resolve_left loose
      exact ⟨(pageSteady alnum whole).mpr other,whole⟩

end Naming

namespace Path

def lead (base : Text) : Text := if base.isEmpty || base.endsWith "/" then base else base ++ "/"

theorem joinFree {name : Text} (free : slash ∉ name) (base : Text) : join base name = lead base ++ name := by
  rw [join,freeRelative free,if_neg Bool.false_ne_true,lead]
  split <;> rfl

end Path

namespace Layout
variable (l : Layout)

def named (name : Text) : Layout := { l with className := name }

theorem pathNamed (name : Text) (a : Artifact) :
    (l.named name).path a = Path.lead (Path.join l.outputDir (l.directory a)) ++ (l.named name).fileName a := by
  rw [pathJoined,Path.joinFree ((l.named name).fileNameFree a)]
  cases a <;> rfl

theorem steadyPaths (t : Text) :
    (∀ a, (l.named (Naming.className (Naming.className t))).path a = (l.named (Naming.className t)).path a) ↔
      Naming.Steady (Naming.className t) := by
  rw [← Naming.steadyIff]
  simp only [pathNamed,List.append_cancel_left_eq]
  constructor
  · intro same
    exact ⟨List.append_cancel_right (same .page),List.append_cancel_right (same .specification)⟩
  · rintro ⟨page,stem⟩ a
    cases a with
    | page => exact congrArg (· ++ Text.ofString ".py") page
    | specification => exact congrArg (· ++ Text.ofString ".feature") stem
    | glue => exact congrArg (fun s => Text.ofString "test_" ++ s ++ Text.ofString "_steps.py") stem

end Layout
end TestWeaver
