import TestWeaver.Proofs.Markup.Runs
import TestWeaver.Proofs.Tracker.Nodes

/-! Paragraphs of marked runs in the two forms of a text field, as marked-up text and as a document.
A document shows a paragraph as one line; marked-up text shows every span of it as a line of its own. So the
forms agree just where one span of every paragraph shows something. -/
namespace TestWeaver.Tracker
open Markup (Run spans)
open Text (IsLine ended)

def told (p : List Run) : Text := p.flatMap Run.text

def Written (doc : Value) (paragraphs : List (List Run)) : Prop :=
  ∃ nodes, Node "doc" nodes doc ∧ List.Forall₂ (fun v p => ∃ content, Node "paragraph" content v ∧
    List.Forall₂ Inline content (p.map Run.text)) nodes paragraphs

def squeezedLines (t : Text) : List Text := (Text.splitOn t (.char '\n')).map Text.squeeze

section formats
variable {doc : Value} {paragraphs : List (List Run)} {p : List Run}

theorem writtenParagraphs {nodes : List Value} (each : List.Forall₂ (fun v p => ∃ content, Node "paragraph" content v ∧
    List.Forall₂ Inline content (p.map Run.text)) nodes paragraphs) : List.Forall₂ Paragraph nodes (paragraphs.map told) := by
  refine List.forall₂_map_right_iff.mpr (each.imp fun v p written => ?_)
  obtain ⟨content,node,inline⟩ := written
  have paragraph := Paragraph.of (.inl rfl) node inline
  rwa [← List.flatMap_def] at paragraph

theorem shownEnded {texts : List Text} (full : ∀ t ∈ texts, t ≠ []) : shown texts = ended texts := by
  induction texts with
  | nil => rfl
  | cons t texts ih =>
    obtain ⟨here,later⟩ := List.forall_mem_cons.mp full
    have line : asLine t = t ++ [.char '\n'] := by
      rw [asLine,if_neg (by simpa using here)]
      rfl
    rw [shown,List.flatMap_cons,line]
    exact congrArg (t ++ [.char '\n'] ++ ·) (ih later)

theorem writtenText (written : Written doc paragraphs) : plainText doc = .ok (shown (paragraphs.map told)).trim := by
  obtain ⟨nodes,node,each⟩ := written
  have shows := plainShows node (otherShows node (by decide) (paragraphsShow (writtenParagraphs each)))
  rwa [← List.flatMap_def] at shows

theorem markedText (plain : ∀ p ∈ paragraphs, ∀ r ∈ p, Markup.Plain r.text)
    (single : ∀ p ∈ paragraphs, ∀ r ∈ p, .char '\n' ∉ r.text) : plainText (.text (Markup.document paragraphs)) =
      .ok (Text.unlines (paragraphs.flatMap fun p => Text.tidy (spans [] p))) :=
  congrArg (Except.mapError Failure.ofMarkup) (Markup.documentText plain single)

theorem writtenLines (full : paragraphs ≠ []) (shows : ∀ p ∈ paragraphs, (told p).trim ≠ [])
    (single : ∀ p ∈ paragraphs, ∀ r ∈ p, .char '\n' ∉ r.text) :
    squeezedLines (shown (paragraphs.map told)).trim = paragraphs.map fun p => Text.squeeze (told p) := by
  have given : ∀ t ∈ paragraphs.map told, Text.trim t ≠ [] := List.forall_mem_map.mpr shows
  have free : ∀ t ∈ paragraphs.map told, .char '\n' ∉ t := by
    refine List.forall_mem_map.mpr fun p member feed => ?_
    obtain ⟨r,inside,here⟩ := List.mem_flatMap.mp feed
    exact single p member r inside here
  have some : ∀ t ∈ paragraphs.map told, t ≠ [] := by
    rintro t member rfl
    exact given [] member rfl
  rw [squeezedLines,shownEnded some,Text.trimLines (by simpa using full) given free,List.map_map]
  rfl

theorem spansTold (p : List Run) : (spans [] p).flatten = told p := Markup.spansFlatten [] p

theorem spansShow (shows : (told p).trim ≠ []) : 1 ≤ (Text.tidy (spans [] p)).length := by
  refine List.length_pos_iff.mpr fun none => shows (Text.trimBlank ?_)
  rw [← spansTold]
  exact Text.tidyNone none

theorem soleLine (sole : (Text.tidy (spans [] p)).length = 1) :
    (Text.tidy (spans [] p)).map Text.squeeze = [Text.squeeze (told p)] := by
  obtain ⟨line,same⟩ := List.length_eq_one_iff.mp sole
  rw [same,List.map_singleton,← spansTold,Text.tidySole same]

theorem flatOnes {α β : Type} {items : List α} {f : α → List β} (each : ∀ a ∈ items, 1 ≤ (f a).length)
    (total : (items.flatMap f).length = items.length) : ∀ a ∈ items, (f a).length = 1 := by
  have least : ∀ items : List α, (∀ a ∈ items, 1 ≤ (f a).length) → items.length ≤ (items.flatMap f).length := by
    intro items each
    induction items with
    | nil => simp
    | cons a items ih =>
      obtain ⟨here,later⟩ := List.forall_mem_cons.mp each
      have rest := ih later
      rw [List.flatMap_cons,List.length_append,List.length_cons]
      omega
  induction items with
  | nil => simp
  | cons a items ih =>
    obtain ⟨here,later⟩ := List.forall_mem_cons.mp each
    have rest := least items later
    rw [List.flatMap_cons,List.length_append,List.length_cons] at total
    exact List.forall_mem_cons.mpr ⟨by omega,ih later (by omega)⟩

theorem soleLines (sole : ∀ p ∈ paragraphs, (Text.tidy (spans [] p)).length = 1) :
    (paragraphs.flatMap fun p => Text.tidy (spans [] p)).map Text.squeeze = paragraphs.map fun p => Text.squeeze (told p) := by
  rw [List.map_flatMap,List.map_eq_flatMap]
  exact List.flatMap_congr fun p member => soleLine (sole p member)

theorem markedLines (full : paragraphs ≠ []) (shows : ∀ p ∈ paragraphs, (told p).trim ≠ [])
    (single : ∀ p ∈ paragraphs, ∀ r ∈ p, .char '\n' ∉ r.text) :
    squeezedLines (Text.unlines (paragraphs.flatMap fun p => Text.tidy (spans [] p))) =
      (paragraphs.flatMap fun p => Text.tidy (spans [] p)).map Text.squeeze := by
  have lines : ∀ line ∈ paragraphs.flatMap fun p => Text.tidy (spans [] p), .char '\n' ∉ line := by
    intro line member
    obtain ⟨p,inside,here⟩ := List.mem_flatMap.mp member
    exact (Text.tidyEach (Markup.spansFree List.not_mem_nil (single p inside)) line here).single
  have some : (paragraphs.flatMap fun p => Text.tidy (spans [] p)) ≠ [] := by
    obtain ⟨p,rest,rfl⟩ := List.exists_cons_of_ne_nil full
    have shown := spansShow (shows p List.mem_cons_self)
    intro none
    rw [List.flatMap_cons,List.append_eq_nil_iff] at none
    rw [none.1] at shown
    contradiction
  rw [squeezedLines,Text.splitUnlines some lines]

/- Both forms of a description have the same lines just when every paragraph shows something in one span
alone. -/
theorem formatsAgree (written : Written doc paragraphs) (plain : ∀ p ∈ paragraphs, ∀ r ∈ p, Markup.Plain r.text)
    (single : ∀ p ∈ paragraphs, ∀ r ∈ p, .char '\n' ∉ r.text) (shows : ∀ p ∈ paragraphs, (told p).trim ≠ []) :
    ∃ marked kept, plainText (.text (Markup.document paragraphs)) = .ok marked ∧ plainText doc = .ok kept ∧
      marked = Text.unlines (paragraphs.flatMap fun p => Text.tidy (spans [] p)) ∧
      (paragraphs ≠ [] → squeezedLines kept = paragraphs.map fun p => Text.squeeze (told p)) ∧
      (squeezedLines marked = squeezedLines kept ↔ ∀ p ∈ paragraphs, (Text.tidy (spans [] p)).length = 1) := by
  refine ⟨_,_,markedText plain single,writtenText written,rfl,
    fun full => writtenLines full shows single,?_⟩
  by_cases full : paragraphs = []
  · subst full
    exact ⟨by simp,fun _ => rfl⟩
  · rw [markedLines full shows single,writtenLines full shows single]
    refine ⟨fun same => ?_,soleLines⟩
    have total := congrArg List.length same
    rw [List.length_map,List.length_map] at total
    exact flatOnes (fun p member => spansShow (shows p member)) total

end formats

def writtenDocument (paragraphs : List (List Run)) : Value :=
  block "doc" (paragraphs.map fun p => block "paragraph" (p.map fun r => run r.text))

theorem documentWritten (paragraphs : List (List Run)) : Written (writtenDocument paragraphs) paragraphs := by
  have inline : ∀ p : List Run, List.Forall₂ Inline (p.map fun r => run r.text) (p.map Run.text) := by
    intro p
    induction p with
    | nil => exact .nil
    | cons r p ih => exact .cons (runInline r.text) ih
  refine ⟨_,blockNode _ _,List.forall₂_map_left_iff.mpr (List.forall₂_same.mpr fun p _ => ?_)⟩
  exact ⟨_,blockNode _ _,inline p⟩

def savedParagraphs : List (List Run) :=
  [[{ text := "Open " },{ text := "the page" }],[{ text := " " },{ text := "Press save", marks := [.bold,.emphasis] }]]

theorem savedFormatsAgree : ∃ marked kept, plainText (.text (Markup.document savedParagraphs)) = .ok marked ∧
    plainText (writtenDocument savedParagraphs) = .ok kept ∧ squeezedLines marked = squeezedLines kept ∧
    squeezedLines kept = (["Open the page","Press save"] : List Text) := by
  obtain ⟨marked,kept,read,said,_,lines,agree⟩ := formatsAgree (documentWritten savedParagraphs) (by decide) (by decide)
    (by decide +kernel)
  exact ⟨marked,kept,read,said,agree.mpr (by decide +kernel),(lines (by simp [savedParagraphs])).trans (by decide +kernel)⟩

def boldParagraphs : List (List Run) := [[{ text := "User sees " },{ text := "bold", marks := [.bold] },{ text := " text" }]]

theorem boldWordApart : Markup.document boldParagraphs = "<p>User sees <b>bold</b> text</p>" ∧
    Written (writtenDocument boldParagraphs) boldParagraphs ∧
    ∃ marked kept, plainText (.text (Markup.document boldParagraphs)) = .ok marked ∧
      plainText (writtenDocument boldParagraphs) = .ok kept ∧
      squeezedLines marked = (["User sees","bold","text"] : List Text) ∧
      squeezedLines kept = (["User sees bold text"] : List Text) := by
  have plain : ∀ p ∈ boldParagraphs, ∀ r ∈ p, Markup.Plain r.text := by decide
  have single : ∀ p ∈ boldParagraphs, ∀ r ∈ p, .char '\n' ∉ r.text := by decide
  refine ⟨by decide +kernel,documentWritten boldParagraphs,_,_,markedText plain single,
    writtenText (documentWritten boldParagraphs),?_⟩
  decide +kernel

end TestWeaver.Tracker
