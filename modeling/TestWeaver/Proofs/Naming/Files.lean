import TestWeaver.Layout
import TestWeaver.Proofs.Files.Places
import TestWeaver.Proofs.Naming.Names
import TestWeaver.Proofs.Text.Lines

/-! The names of the three files of a layout. They differ by their last signs, so the files lie at
different places, whatever directories they are in. -/
namespace TestWeaver

namespace Text
variable {t : Text} {c : CodePoint}

theorem lastDropWhile {p : CodePoint → Bool} (last : t.getLast? = some c) (kept : p c = false) :
    (t.dropWhile p).getLast? = some c := by
  induction t with
  | nil => cases last
  | cons a t ih =>
    rw [List.dropWhile_cons]
    split
    · rename_i dropped
      cases t with
      | nil =>
        obtain rfl : a = c := by simpa using last
        rw [kept] at dropped
        contradiction
      | cons b t => exact ih (by simpa using last)
    · exact last

theorem lastTrim (last : t.getLast? = some c) (dark : c.isBlank = false) : t.trim.getLast? = some c := by
  obtain ⟨front,same⟩ := List.getLast?_eq_some_iff.mp (lastDropWhile last dark)
  rw [trim,dropBoth,same,dropTail,List.reverse_append,List.reverse_singleton,List.singleton_append,
    List.dropWhile_cons_of_neg (by simp [dark]),List.reverse_cons,List.reverse_reverse]
  exact List.getLast?_concat

theorem lastLower (before : Text) (last : t.getLast? = some c) (plain : c ≠ .char 'Σ') (own : c.lower = [c]) :
    (lowerAfter before t).getLast? = some c := by
  induction t generalizing before with
  | nil => cases last
  | cons a t ih =>
    unfold lowerAfter
    cases t with
    | nil =>
      obtain rfl : a = c := by simpa using last
      simp [plain,own,lowerAfter]
    | cons b t =>
      rw [List.getLast?_append,ih _ (by simpa using last)]
      rfl

theorem lastRun {p : CodePoint → Bool} (run : Text) (last : t.getLast? = some c) (taken : p c) :
    ∃ part ∈ (runs.go p run t).getLast?, part.getLast? = some c := by
  induction t generalizing run with
  | nil => cases last
  | cons a t ih =>
    unfold runs.go
    cases t with
    | nil =>
      obtain rfl : a = c := by simpa using last
      exact ⟨(a :: run).reverse,by simp [taken,runs.go],by simp⟩
    | cons b t =>
      have later : (b :: t).getLast? = some c := by simpa using last
      split
      · exact ih _ later
      · split
        · exact ih _ later
        · obtain ⟨part,listed,ends⟩ := ih [] later
          refine ⟨part,?_,ends⟩
          rw [Option.mem_def] at listed ⊢
          rw [List.getLast?_cons,listed]
          rfl

theorem lastJoin {sep part : Text} {parts : List Text} (last : part ∈ parts.getLast?)
    (ends : part.getLast? = some c) : (join sep parts).getLast? = some c := by
  induction parts with
  | nil => cases last
  | cons first rest ih =>
    cases rest with
    | nil =>
      obtain rfl : first = part := by simpa using last
      rw [joinSingle]
      exact ends
    | cons next rest =>
      rw [joinCons,List.getLast?_append,ih (by simpa using last)]
      rfl

end Text

namespace Naming

theorem lastSeparate (mark : CodePoint) {c : CodePoint} {test : CodePoint → Text → Bool} {t : Text}
    (last : t.getLast? = some c) (free : test c [] = false) : (separate mark test t).getLast? = some c := by
  induction t with
  | nil => cases last
  | cons a t ih =>
    unfold separate
    cases t with
    | nil =>
      obtain rfl : a = c := by simpa using last
      simp [free,separate]
    | cons b t =>
      have later := ih (by simpa using last)
      split <;> simp [List.getLast?_cons,later]

theorem lastSnake {name : Text} {c : CodePoint} (last : name.getLast? = some c) (small : c.isSmall) :
    (snake name).getLast? = some c := by
  have alnum : c.isAlnum := by simp [CodePoint.isAlnum,CodePoint.isLetter,small]
  have plain : c ≠ .char 'Σ' ∧ c.lower = [c] :=
    CodePoint.asciiForall (P := fun p => p.isSmall → p ≠ .char 'Σ' ∧ p.lower = [p]) (by decide +kernel)
      (CodePoint.alnumAscii alnum) small
  have free : (risesAfter c [] || acronymEndsAfter c []) = false := by simp [risesAfter,acronymEndsAfter]
  have parted := @lastSeparate (.char ' ') c (fun a t => risesAfter a t || acronymEndsAfter a t) name last free
  have spoken := Text.lastTrim (Text.lastLower [] parted plain.1 plain.2) (CodePoint.notBlankOfAlnum alnum)
  obtain ⟨word,listed,ends⟩ := Text.lastRun (p := CodePoint.isAlnum) [] spoken alnum
  exact Text.lastJoin listed ends

theorem snakeClean (name : Text) : Utf8.Clean (snake name) := by
  intro p member
  rcases snakeWithin member with alnum | rfl
  · cases p with
    | half u => cases alnum
    | char c =>
      refine ⟨c,rfl,?_⟩
      rintro rfl
      exact absurd alnum (by decide)
  · exact ⟨'_',rfl,by decide⟩

end Naming

namespace Layout
variable (l : Layout)

def fileName : Artifact → Text
  | .page => l.pageModule ++ ".py"
  | .specification => l.featureName
  | .glue => "test_" ++ l.stem ++ "_steps.py"

def directory : Artifact → Text
  | .page => l.directories.pages
  | .specification => l.directories.features
  | .glue => l.directories.steps

theorem pathJoined (a : Artifact) : l.path a = Path.join (Path.join l.outputDir (l.directory a)) (l.fileName a) := by
  cases a <;> rfl

theorem lastPageModule : l.pageModule.getLast? = some (.char 'e') := by
  refine Naming.lastSnake ?_ (by decide)
  unfold pageClass Naming.pageClass
  split
  · rename_i ends
    obtain ⟨front,same⟩ := List.isSuffixOf_iff_suffix.mp ends
    rw [← same,List.getLast?_append]
    rfl
  · rw [List.getLast?_append]
    rfl

def tellingSign : Artifact → CodePoint
  | .page => .char 'e'
  | .specification => .char 't'
  | .glue => .char 's'

theorem tellingSignInj {a b : Artifact} (same : tellingSign a = tellingSign b) : a = b := by
  cases a <;> cases b <;> first | rfl | exact absurd same (by decide)

theorem fileNameTold (a : Artifact) : (l.fileName a).reverse[3]? = some (tellingSign a) := by
  cases a with
  | page =>
    have last := l.lastPageModule
    rw [← List.head?_reverse,List.head?_eq_getElem?] at last
    rw [fileName,List.reverse_append,List.getElem?_append_right (by decide)]
    exact last
  | specification =>
    rw [fileName,featureName,List.reverse_append,List.getElem?_append_left (by decide)]
    rfl
  | glue =>
    rw [fileName,List.reverse_append,List.getElem?_append_left (by decide)]
    rfl

theorem fileNamesDiffer (m : Layout) {a b : Artifact} (other : a ≠ b) : l.fileName a ≠ m.fileName b := by
  intro same
  have signs : some (tellingSign a) = some (tellingSign b) := by
    rw [← l.fileNameTold a,same,m.fileNameTold b]
  exact other (tellingSignInj (Option.some.inj signs))

theorem fileNameFree (a : Artifact) : Path.slash ∉ l.fileName a := by
  have own : ∀ name, Path.slash ∉ Naming.snake name := by
    intro name member
    rcases Naming.snakeWithin member with alnum | line
    · exact absurd alnum (by decide)
    · exact absurd line (by decide)
  have page := own l.pageClass
  have stem := own l.className
  cases a with
  | page =>
    rw [fileName,List.mem_append,not_or]
    exact ⟨page,by decide⟩
  | specification =>
    rw [fileName,featureName,List.mem_append,not_or]
    exact ⟨stem,by decide⟩
  | glue =>
    rw [fileName,List.mem_append,List.mem_append,not_or,not_or]
    exact ⟨⟨by decide,stem⟩,by decide⟩

end Layout

namespace Path
variable {base name : Text}

structure Proper (name : Text) : Prop where
  free : slash ∉ name
  full : name.isEmpty = false
  here : name ≠ "."
  up : name ≠ ".."

theorem segmentsProper (proper : Proper name) : segments name = [name] := by
  rw [segments,Text.splitFree proper.free,List.filter_cons_of_pos]
  · rfl
  · simp [proper.full,proper.here]

theorem segmentsBehind (base path : Text) : segments (base ++ slash :: path) = segments base ++ segments path := by
  rw [segments,segments,segments,Text.splitAppend,List.filter_append]

theorem freeRelative (free : slash ∉ name) : isAbsolute name = false := by
  cases name with
  | nil => rfl
  | cons c name =>
    have other : c ≠ slash := fun same => free (same ▸ List.mem_cons_self)
    simpa [isAbsolute,Text.startsWith,Text.ofString,List.isPrefixOf,slash] using Ne.symm other

theorem segmentsRelative {path : Text} (relative : isAbsolute path = false) (base : Text) :
    segments (join base path) = segments base ++ segments path := by
  rw [join,relative,if_neg Bool.false_ne_true]
  split
  · rename_i ends
    rcases Bool.or_eq_true_iff.mp ends with empty | ends
    · rw [List.isEmpty_iff.mp empty]
      rfl
    · obtain ⟨front,rfl⟩ := List.isSuffixOf_iff_suffix.mp ends
      have closed : segments (front ++ Text.ofString "/") = segments front := by
        rw [show Text.ofString "/" = [slash] from rfl,segmentsBehind]
        exact List.append_nil _
      rw [closed,List.append_assoc]
      exact segmentsBehind front path
  · rw [List.append_assoc]
    exact segmentsBehind base path

theorem segmentsJoin (proper : Proper name) (base : Text) : segments (join base name) = segments base ++ [name] := by
  rw [segmentsRelative (freeRelative proper.free),segmentsProper proper]

theorem resolveJoin (proper : Proper name) (working : List Text) (base : Text) :
    (resolve working (join base name)).getLast? = some name := by
  rw [resolve,segmentsJoin proper,List.foldl_append,List.getLast?_reverse,List.foldl_cons,List.foldl_nil,step,if_neg proper.up]
  rfl

theorem joinClean (front : Utf8.Clean base) (back : Utf8.Clean name) : Utf8.Clean (join base name) := by
  unfold join
  split
  · exact back
  · split
    · exact Utf8.cleanAppend front back
    · exact Utf8.cleanAppend (Utf8.cleanAppend front (Utf8.cleanString (by decide))) back

end Path

namespace Layout
variable (l : Layout)

theorem fileNameProper (a : Artifact) : Path.Proper (l.fileName a) := by
  have told := l.fileNameTold a
  refine ⟨l.fileNameFree a,?_,?_,?_⟩
  · cases name : l.fileName a with
    | nil => simp [name] at told
    | cons c rest => rfl
  all_goals
    intro same
    rw [same] at told
    cases told

open Files Store

theorem placesApart (s : Store) (m : Layout) {a b : Artifact} (other : l.fileName a ≠ m.fileName b) :
    s.placeOf (l.path a) ≠ s.placeOf (m.path b) := by
  intro same
  have last : ∀ (l : Layout) a, (s.placeOf (l.path a)).getLast? = some (l.fileName a) := by
    intro l a
    rw [placeOf,pathJoined]
    exact Path.resolveJoin (l.fileNameProper a) s.working _
  exact other (Option.some.inj (by rw [← last l a,same,last m b]))

theorem placesDiffer (s : Store) {a b : Artifact} (other : a ≠ b) : s.placeOf (l.path a) ≠ s.placeOf (l.path b) :=
  l.placesApart s l (l.fileNamesDiffer l other)

theorem fileNameEnd (a : Artifact) : ∃ c, (l.fileName a).getLast? = some c ∧ c ≠ .char '/' ∧ c ≠ .char '.' := by
  cases a with
  | page | glue =>
    refine ⟨.char 'y',?_,by decide,by decide⟩
    rw [fileName,List.getLast?_append]
    rfl
  | specification =>
    refine ⟨.char 'e',?_,by decide,by decide⟩
    rw [fileName,featureName,List.getLast?_append]
    rfl

theorem pathNamesFile (a : Artifact) : NamesFile (l.path a) := by
  obtain ⟨c,last,slash,point⟩ := l.fileNameEnd a
  have ends : (l.path a).getLast? = some c := by
    rw [pathJoined,Path.join]
    split
    · exact last
    · split <;> simp [List.getLast?_append,last]
  have other : ∀ tail d, List.getLast? tail = some d → c ≠ d → (l.path a).endsWith tail = false := by
    intro tail d closing differ
    rw [Text.endsWith,Bool.eq_false_iff]
    intro inside
    obtain ⟨front,same⟩ := List.isSuffixOf_iff_suffix.mp inside
    rw [← same,List.getLast?_append,closing] at ends
    exact differ (Option.some.inj ends).symm
  rw [NamesFile,other "/" _ rfl slash,other "/." _ rfl point]
  rfl

theorem fileNameClean (a : Artifact) : Utf8.Clean (l.fileName a) := by
  have stem := Naming.snakeClean l.className
  cases a with
  | page => exact Utf8.cleanAppend (Naming.snakeClean l.pageClass) (Utf8.cleanString (by decide))
  | specification => exact Utf8.cleanAppend stem (Utf8.cleanString (by decide))
  | glue =>
    exact Utf8.cleanAppend (Utf8.cleanAppend (Utf8.cleanString (by decide)) stem) (Utf8.cleanString (by decide))

theorem pathPlain (out : Utf8.Clean l.outputDir) (directories : ∀ a, Utf8.Clean (l.directory a)) (a : Artifact) :
    Plain (l.path a) := by
  rw [pathJoined]
  exact plainClean (Path.joinClean (Path.joinClean out (directories a)) (l.fileNameClean a))

end Layout
end TestWeaver
