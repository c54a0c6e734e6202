import Mathlib.Data.List.Forall2
import TestWeaver.Proofs.Text.Lines
import TestWeaver.Tracker.Document

/-! Nodes of a document by their type and their content, whatever other fields they have, and what
such nodes say. -/
namespace TestWeaver.Tracker

inductive Node (kind : Text) (content : List Value) : Value → Prop where
  | fields {entries : List (Value × Value)} (typed : Value.lookup? entries (.text "type") = some (.text kind))
      (held : (Value.lookup? entries (.text "content")).getD (.list []) = .list content) :
      Node kind content (.mapping entries)

inductive Inline : Value → Text → Prop where
  | text {entries : List (Value × Value)} {t : Text} (typed : Value.lookup? entries (.text "type") = some (.text "text"))
      (told : Value.lookup? entries (.text "text") = some (.text t)) : Inline (.mapping entries) t
  | lineBreak {v : Value} (node : Node "hardBreak" [] v) : Inline v "\n"

inductive Paragraph (v : Value) : Text → Prop where
  | of {kind : Text} {content : List Value} {parts : List Text} (sort : kind = "paragraph" ∨ kind = "heading")
      (node : Node kind content v) (inline : List.Forall₂ Inline content parts) : Paragraph v parts.flatten

def shown (texts : List Text) : Text := texts.flatMap asLine

def Shows (v : Value) (t : Text) : Prop := said v = .ok (.text t)

section shows
variable {kind : Text} {content : List Value} {v : Value} {t : Text} {texts : List Text}

theorem saidUnderContent (entries : List (Value × Value)) :
    saidUnder entries = match Value.lookup? entries (.text "content") with
      | some v => saidIn v
      | none => .ok [] := by
  induction entries with
  | nil => rfl
  | cons entry rest ih =>
    obtain ⟨key,v⟩ := entry
    rw [saidUnder,ih]
    cases same : key.isSameKey (.text "content") <;> simp [Value.lookup?,same]

theorem saidNode (node : Node kind content v) :
    ∃ text, said v = (Block.ofValue (.text kind)).say text (.ok (saidEach content)) := by
  obtain ⟨typed,held⟩ := node
  rename_i entries
  refine ⟨(Value.lookup? entries (.text "text")).getD (.text []),?_⟩
  have under : saidUnder entries = .ok (saidEach content) := by
    rw [saidUnderContent]
    cases found : Value.lookup? entries (.text "content") with
    | none =>
      rw [found,Option.getD_none] at held
      cases held
      rfl
    | some v =>
      rw [found,Option.getD_some] at held
      subst held
      rfl
  rw [said,typed,under]
  rfl

theorem eachShown (each : List.Forall₂ Shows content texts) :
    saidEach content = texts.map fun t => .ok (.text t) := by
  induction each with
  | nil => rfl
  | cons here _ ih => rw [saidEach,here,ih]; rfl

theorem joinAllTexts (texts : List Text) : joinAll (texts.map .text) = .ok texts.flatten := by
  have parts : ∀ (read : Value × Nat → Except Failure Text), (∀ t n, read (.text t,n) = .ok t) →
      ∀ n, ((texts.map Value.text).zipIdx n).mapM read = .ok texts := by
    intro read known
    induction texts with
    | nil => intro n; rfl
    | cons t texts ih =>
      intro n
      rw [List.map_cons,List.zipIdx_cons,List.mapM_cons,known,ih]
      rfl
  rw [joinAll,parts _ fun _ _ => rfl]
  rfl

theorem knownAll (texts : List Text) :
    (texts.map fun t => (.ok (.text t) : Except Failure Value)).mapM id = .ok (texts.map .text) := by
  induction texts with
  | nil => rfl
  | cons t texts ih =>
    rw [List.map_cons,List.mapM_cons,ih]
    rfl

theorem otherShows (node : Node kind content v) (sort : Block.ofValue (.text kind) = .other)
    (each : List.Forall₂ Shows content texts) : Shows v texts.flatten := by
  obtain ⟨text,same⟩ := saidNode node
  rw [Shows,same,sort,eachShown each,Block.say]
  simp only [bind,Except.bind,knownAll,joinAllTexts]
  rfl

theorem inlineShows (inline : Inline v t) : Shows v t := by
  cases inline with
  | text typed told => rw [Shows,said,typed,told]; rfl
  | lineBreak node =>
    obtain ⟨text,same⟩ := saidNode node
    rw [Shows,same]
    rfl

theorem paragraphShows (paragraph : Paragraph v t) : Shows v (asLine t) := by
  obtain ⟨sort,node,inline⟩ := paragraph
  obtain ⟨text,same⟩ := saidNode node
  rw [Shows,same,eachShown (inline.imp fun _ _ => inlineShows)]
  rcases sort with rfl | rfl
  all_goals
    show Except.map _ (Except.bind ((List.map _ _).mapM id) joinAll) = _
    rw [knownAll]
    show Except.map _ (joinAll _) = _
    rw [joinAllTexts]
    rfl

theorem paragraphsShow {nodes : List Value} {texts : List Text} (each : List.Forall₂ Paragraph nodes texts) :
    List.Forall₂ Shows nodes (texts.map asLine) :=
  List.forall₂_map_right_iff.mpr (each.imp fun _ _ => paragraphShows)

theorem listShows {l : Markup.Listing} (node : Node kind content v) (sort : Block.ofValue (.text kind) = .list l)
    (each : List.Forall₂ Shows content texts) : Shows v (asLine (Text.unlines (l.lines (texts.map Text.trim)))) := by
  obtain ⟨text,same⟩ := saidNode node
  have items : ∀ texts : List Text, (texts.map fun t => (.ok (.text t) : Except Failure Value)).mapM (fun item => do
      return Text.trim (← asText (← item))) = .ok (texts.map Text.trim) := by
    intro texts
    induction texts with
    | nil => rfl
    | cons t texts ih =>
      rw [List.map_cons,List.mapM_cons,ih]
      rfl
  rw [Shows,same,sort,eachShown each,Block.say]
  simp only [bind,Except.bind] at items ⊢
  rw [items]
  rfl

theorem plainShows (node : Node kind content v) (shows : Shows v t) : plainText v = .ok t.trim := by
  obtain ⟨typed,held⟩ := node
  rename_i entries
  cases entries with
  | nil => cases typed
  | cons e es =>
    rw [plainText,shows]
    rfl

end shows

def block (kind : Text) (content : List Value) : Value := .object [("type",.text kind),("content",.list content)]

def run (t : Text) : Value := .object [("type",.text "text"),("text",.text t)]

theorem blockNode (kind : Text) (content : List Value) : Node kind content (block kind content) := .fields rfl rfl

theorem runInline (t : Text) : Inline (run t) t := .text rfl rfl

theorem paragraphOf (t : Text) : Paragraph (block "paragraph" [run t]) t := by
  have single := Paragraph.of (.inl rfl) (blockNode "paragraph" [run t]) (.cons (runInline t) .nil)
  rwa [List.flatten_singleton] at single

theorem emptyParagraph : Paragraph (block "paragraph" []) [] := .of (.inl rfl) (blockNode "paragraph" []) .nil

end TestWeaver.Tracker
