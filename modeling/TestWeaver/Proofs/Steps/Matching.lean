import Mathlib.Data.List.Nodup
import TestWeaver.Proofs.Generation.Documents
import TestWeaver.Proofs.Text.Replace

/-! The handlers of a recording against the lines of its scenario. Lines and patterns come from
the same action by different functions and pass gates with different keys: a line has a column
of the examples where a pattern has a field. What is spoken of an element holds no quotation
mark, so the last one of a line stands before it, whatever was filled in. -/
namespace TestWeaver.Steps
open TestWeaver.Action Generation

def placeholder (column : Text) : Text := "<" ++ column ++ ">"

def field (parameter : Text) : Text := "\x7b" ++ parameter ++ "\x7d"

/- What a line can be when it runs: its placeholder, if it has one, has given way to a value. -/
inductive Filled (columns : List Text) (line : Text) : Text → Prop where
  | plain : (∀ column ∈ columns, line.contains (placeholder column) = false) → Filled columns line line
  | replaced {column} (value : Text) : column ∈ columns → line.contains (placeholder column) →
      Filled columns line (line.replace (placeholder column) value)

def Handler.Matches (h : Handler) (line : Text) : Prop :=
  if h.parsed then ∃ parameter value, h.parameter = some parameter ∧ line = h.pattern.replace (field parameter) value
  else line = h.pattern

def Accepts (pattern : Text × Option Text) (line : Text) : Prop :=
  match pattern.2 with
  | some parameter => ∃ value, line = pattern.1.replace (field parameter) value
  | none => line = pattern.1

theorem bindsMatches {a : Action} {h : Handler} (binds : Binds a h) (line : Text) :
    h.Matches line ↔ Accepts (patternOf a) line := by
  unfold Handler.Matches Accepts
  rw [binds.parsed,binds.parameter,binds.pattern]
  cases (patternOf a).2 with
  | none => simp
  | some parameter => simp

def opener : Kind → Text
  | .fill => "user enters "
  | .select => "user selects "
  | .click => "user clicks on "
  | .check => "user checks "
  | .press => "user presses key on "
  | .navigate => "user navigates to page"

theorem openerUnique {k l : Kind} {t : Text} (left : opener k <+: t) (right : opener l <+: t) : k = l := by
  have apart : ∀ k l : Kind, opener k <+: opener l → k = l := by
    intro k l
    cases k <;> cases l <;> decide
  rcases List.prefix_or_prefix_of_prefix left right with first | next
  · exact apart k l first
  · exact (apart l k next).symm

def joiner : Kind → Text
  | .fill => " into "
  | .select => " from "
  | _ => []

def parameterOf : Kind → Text
  | .fill => "text"
  | _ => "option"

def lead (a : Action) : Text := opener a.kind ++ "\""

def tail (a : Action) : Text := "\"" ++ (joiner a.kind ++ Naming.spoken a.names.readable)

section action
variable {a b : Action} {line : Text}

theorem patternFramed (given : a.kind.isParameterized) :
    patternOf a = (lead a ++ field (parameterOf a.kind) ++ tail a,some (parameterOf a.kind)) := by
  unfold patternOf lead tail
  cases kind : a.kind with
  | fill | select => rfl
  | navigate | click | check | press => simp [kind,Kind.isParameterized] at given

theorem lineFramed (given : a.kind.isParameterized) {column : Text} (full : column ≠ []) :
    Feature.behaviorText a (some column) = lead a ++ placeholder column ++ tail a := by
  obtain ⟨p,rest,rfl⟩ := List.exists_cons_of_ne_nil full
  unfold Feature.behaviorText lead tail
  cases kind : a.kind with
  | fill => simp [opener,joiner,placeholder,Text.ofString]
  | select => simp [opener,joiner,placeholder,Text.ofString]
  | navigate | click | check | press => simp [kind,Kind.isParameterized] at given

theorem patternPlain (given : a.kind.isParameterized = false) : patternOf a = (a.names.phrase,none) := by
  unfold patternOf
  cases kind : a.kind <;> simp [kind,Kind.isParameterized] at given <;> rfl

theorem linePlain (given : a.kind.isParameterized = false) (column : Option Text) :
    Feature.behaviorText a column = a.names.phrase := by
  unfold Feature.behaviorText
  cases kind : a.kind <;> simp [kind,Kind.isParameterized] at given <;> rfl

end action

def IsBracket (c : CodePoint) : Prop := c = .char '<' ∨ c = .char '>' ∨ c = .char '\x7b'
instance (c) : Decidable (IsBracket c) := by unfold IsBracket; infer_instance

section signs
variable {a : Action} {c : CodePoint}

theorem spokenSigns (named : a.Named) (member : c ∈ Naming.spoken a.names.readable) :
    ¬ IsBracket c ∧ c ≠ .char '"' := by
  have spoken := Naming.spokenWithin (namedAlnum named) c member
  constructor
  · rintro (rfl | rfl | rfl) <;> exact absurd spoken (by decide)
  · rintro rfl
    exact absurd spoken (by decide)

theorem quoteFree (named : a.Named) : CodePoint.char '"' ∉ joiner a.kind ++ Naming.spoken a.names.readable := by
  have none : ∀ k, CodePoint.char '"' ∉ joiner k := by
    intro k
    cases k <;> decide
  intro member
  rcases List.mem_append.mp member with fixed | spoken
  · exact none a.kind fixed
  · exact (spokenSigns named spoken).2 rfl

theorem leadSigns (member : c ∈ lead a) : ¬ IsBracket c := by
  have none : ∀ k, ∀ c ∈ opener k ++ "\"", ¬ IsBracket c := by
    intro k
    cases k <;> decide
  exact none a.kind c member

theorem tailSigns (named : a.Named) (member : c ∈ tail a) : ¬ IsBracket c := by
  have none : ∀ k, ∀ c ∈ Text.ofString "\"" ++ joiner k, ¬ IsBracket c := by
    intro k
    cases k <;> decide
  rw [tail,← List.append_assoc,List.mem_append] at member
  rcases member with fixed | spoken
  · exact none a.kind c fixed
  · exact (spokenSigns named spoken).1

theorem phraseOpens (named : a.Named) (element : a.isNavigation = false) (given : a.kind.isParameterized = false) :
    a.names.phrase = opener a.kind ++ Naming.spoken a.names.readable := by
  have phrase : a.names.phrase = Naming.phrase a.kind a.names.readable := by
    rw [named]
    rfl
  rw [phrase]
  cases kind : a.kind with
  | click | check | press => rfl
  | fill | select => simp [kind,Kind.isParameterized] at given
  | navigate => simp [isNavigation,kind] at element

theorem phraseSigns (named : a.Named) (element : a.isNavigation = false) (given : a.kind.isParameterized = false)
    (member : c ∈ a.names.phrase) : ¬ IsBracket c := by
  have none : ∀ k, ∀ c ∈ opener k, ¬ IsBracket c := by
    intro k
    cases k <;> decide
  rw [phraseOpens named element given,List.mem_append] at member
  rcases member with fixed | spoken
  · exact none a.kind c fixed
  · exact (spokenSigns named spoken).1

theorem columnSigns {columns : List Text} {column : Text} (integer : a.id.IsInteger)
    (has : Feature.HasColumn columns a (some column)) (member : c ∈ column) : ¬ IsBracket c := by
  have word : ∀ c : CodePoint, c.isAlnum ∨ c = .char '_' → ¬ IsBracket c := by
    rintro c inside (rfl | rfl | rfl) <;> exact absurd inside (by decide)
  cases has with
  | own => exact word c (Naming.snakeWithin member)
  | numbered =>
    rw [List.mem_append,List.mem_append] at member
    rcases member with (name | mark) | id
    · exact word c (Naming.snakeWithin name)
    · exact word c (.inr (by simpa [Text.ofString] using mark))
    · exact word c (.inl (Ordinal.integerSigns integer c id))

end signs

section accepts
variable {a b : Action} {line : Text}

theorem acceptsFramed (named : a.Named) (given : a.kind.isParameterized) :
    Accepts (patternOf a) line ↔ ∃ value, line = lead a ++ value ++ tail a := by
  have field : field (parameterOf a.kind) = .char '\x7b' :: (parameterOf a.kind ++ Text.ofString "\x7d") := rfl
  have front : CodePoint.char '\x7b' ∉ lead a := fun inside => leadSigns inside (by decide)
  have back : CodePoint.char '\x7b' ∉ tail a := fun inside => tailSigns named inside (by decide)
  simp only [patternFramed given,Accepts,field,Text.replaceOnce front back]

theorem acceptsPlain (given : a.kind.isParameterized = false) :
    Accepts (patternOf a) line ↔ line = a.names.phrase := by
  rw [patternPlain given]
  rfl

theorem acceptedOpens (named : a.Named) (element : a.isNavigation = false) (accepts : Accepts (patternOf a) line) :
    opener a.kind <+: line := by
  cases given : a.kind.isParameterized with
  | true =>
    obtain ⟨value,rfl⟩ := (acceptsFramed named given).mp accepts
    simp [lead]
  | false =>
    rw [(acceptsPlain given).mp accepts,phraseOpens named element given]
    exact List.prefix_append _ _

theorem patternOpens (named : a.Named) (element : a.isNavigation = false) : opener a.kind <+: patternText a := by
  cases given : a.kind.isParameterized with
  | true =>
    simp [patternText,patternFramed given,lead]
  | false =>
    rw [patternText,patternPlain given,phraseOpens named element given]
    exact List.prefix_append _ _

theorem acceptedOnce (left : a.Named) (right : b.Named) (first : a.isNavigation = false)
    (next : b.isNavigation = false) (here : Accepts (patternOf a) line) (there : Accepts (patternOf b) line) :
    patternText a = patternText b := by
  have kind : a.kind = b.kind := openerUnique (acceptedOpens left first here) (acceptedOpens right next there)
  cases given : a.kind.isParameterized with
  | false =>
    rw [patternText,patternText,patternPlain given,patternPlain (kind ▸ given)]
    rw [← (acceptsPlain given).mp here,← (acceptsPlain (kind ▸ given)).mp there]
  | true =>
    obtain ⟨value,filled⟩ := (acceptsFramed left given).mp here
    obtain ⟨other,again⟩ := (acceptsFramed right (kind ▸ given)).mp there
    have apart : ∀ b : Action, ∀ value, lead b ++ value ++ tail b =
        (lead b ++ value) ++ .char '"' :: (joiner b.kind ++ Naming.spoken b.names.readable) := fun _ _ => rfl
    rw [filled,apart,apart] at again
    -- the last quotation mark of the line is the one at the start of both tails
    have behind := (Text.lastPartUnique (quoteFree left) (quoteFree right) again).2
    have tails : tail a = tail b := by rw [tail,behind,tail]
    have leads : lead a = lead b := by rw [lead,kind,lead]
    rw [patternText,patternText,patternFramed given,patternFramed (kind ▸ given),leads,tails,kind]

theorem sameParameter (left : a.Named) (right : b.Named) (first : a.isNavigation = false)
    (next : b.isNavigation = false) (same : patternText a = patternText b) : patternOf a = patternOf b := by
  have kind : a.kind = b.kind := openerUnique (patternOpens left first) (same ▸ patternOpens right next)
  refine Prod.ext same ?_
  unfold patternOf
  rw [kind]
  cases b.kind <;> rfl

theorem placeholderOnce {before after column other : Text}
    (front : ∀ c ∈ before, ¬ IsBracket c) (back : ∀ c ∈ after, ¬ IsBracket c) (inside : ∀ c ∈ column, ¬ IsBracket c)
    (stands : (before ++ placeholder column ++ after).contains (placeholder other)) : other = column := by
  have opens : IsBracket (.char '<') := by decide
  have closes : IsBracket (.char '>') := by decide
  obtain ⟨x,y,same⟩ := Text.containsSplit stands
  have split : before ++ .char '<' :: (column ++ .char '>' :: after) =
      x ++ .char '<' :: (other ++ .char '>' :: y) := by
    simpa [placeholder,Text.ofString] using same
  have later : CodePoint.char '<' ∉ column ++ .char '>' :: after := by
    intro there
    rcases List.mem_append.mp there with column | rest
    · exact inside _ column opens
    · rcases List.mem_cons.mp rest with wrong | after
      · exact absurd wrong (by decide)
      · exact back _ after opens
  obtain ⟨_,rest⟩ := Text.markOnce (fun there => front _ there opens) later split
  exact (Text.markOnce (fun there => inside _ there closes) (fun there => back _ there closes) rest.symm).1

theorem placeholderNone {text column : Text} (none : ∀ c ∈ text, ¬ IsBracket c) :
    text.contains (placeholder column) = false := by
  rw [Bool.eq_false_iff]
  intro stands
  obtain ⟨x,y,same⟩ := Text.containsSplit stands
  have inside : CodePoint.char '<' ∈ text := by
    rw [same]
    simp [placeholder,Text.ofString]
  exact absurd (by decide) (none _ inside)

theorem filledFramed {before after column : Text} {columns : List Text}
    (front : ∀ c ∈ before, ¬ IsBracket c) (back : ∀ c ∈ after, ¬ IsBracket c) (inside : ∀ c ∈ column, ¬ IsBracket c)
    (filled : Filled columns (before ++ placeholder column ++ after) line) :
    ∃ value, line = before ++ value ++ after := by
  cases filled with
  | plain => exact ⟨_,rfl⟩
  | @replaced other value member stands =>
    have opens : IsBracket (.char '<') := by decide
    obtain rfl := placeholderOnce front back inside stands
    have key : placeholder other = .char '<' :: (other ++ Text.ofString ">") := rfl
    rw [key,Text.replaceOnce (fun there => front _ there opens) (fun there => back _ there opens)]
    exact ⟨value,rfl⟩

theorem filledPlain {text : Text} {columns : List Text} (none : ∀ c ∈ text, ¬ IsBracket c)
    (filled : Filled columns text line) : line = text := by
  cases filled with
  | plain => rfl
  | @replaced column value member stands =>
    rw [placeholderNone none] at stands
    contradiction

end accepts

structure Answers (d : Documents) : Prop where
  opening : ∃ h s, d.steps.handlers.head? = some h ∧ h.types = [.given] ∧ h.parsed = false ∧
    d.specification.precondition = some s ∧ h.pattern = s.text
  closing : ∃ h s, d.steps.handlers.getLast? = some h ∧ h.types = [.then] ∧ h.parsed = false ∧
    d.specification.closing = some s ∧ h.pattern = s.text
  patterns : (d.steps.handlers.map (·.pattern)).Nodup
  lines : ∀ b ∈ d.specification.blocks, ∀ s ∈ b.steps, s.action.isSome →
    ∀ line, Filled b.examples.columns s.text line →
      ∃! h, h ∈ d.steps.handlers ∧ .when ∈ h.types ∧ h.Matches line

section documents
variable {actions shown : List Action} {opening closing : Handler} {hs : List Handler} {l : Layout}

theorem patternsApart (known : ∀ a ∈ shown, a.isNavigation = false ∧ a.Named) (opens : Opens l opening)
    (binds : List.Forall₂ Binds (firstsBy patternText shown) hs) (closes : Closes closing) :
    ((opening :: hs ++ [closing]).map (·.pattern)).Nodup := by
  rw [List.map_append,List.map_cons,patternsOfHandlers binds,opens.pattern]
  have ends : [closing].map (·.pattern) = [Feature.closingText] := by simp [closes.pattern]
  have apart : Feature.preconditionText l.className ≠ Feature.closingText := by
    simp [Feature.preconditionText,Feature.closingText,Text.ofString]
  have known : ∀ a ∈ firstsBy patternText shown, a.isNavigation = false ∧ a.Named :=
    fun a first => known a ((firstsSublist _ _).subset first)
  rw [ends,List.nodup_append,List.nodup_cons]
  refine ⟨⟨?_,firstsNodup patternText shown⟩,by simp,?_⟩
  · intro member
    obtain ⟨a,first,same⟩ := List.mem_map.mp member
    exact patternNotOpening (known a first).2 (known a first).1 l.className same
  · intro p front q back
    rw [List.mem_singleton.mp back]
    rcases List.mem_cons.mp front with rfl | member
    · exact apart
    · obtain ⟨a,first,rfl⟩ := List.mem_map.mp member
      exact patternNotClosing (known a first).2

theorem describedTyped {columns : List Text} {a : Action} {s : Feature.Step} (named : a.Named)
    (given : a.kind.isParameterized) (describes : Feature.Describes columns a s) :
    ∃ name, Feature.HasColumn columns a (some name) ∧ name ≠ [] ∧ s.text = Feature.behaviorText a (some name) := by
  obtain ⟨column,has,text⟩ := describes.line
  have snake := Naming.snakeFull (namedAlnum named) (namedFull named)
  cases has with
  | none plain => rw [plain] at given; contradiction
  | own given member => exact ⟨_,.own given member,snake,text⟩
  | numbered given member => exact ⟨_,.numbered given member,by simp [snake],text⟩

theorem describedAccepts {columns : List Text} {a : Action} {s : Feature.Step} {line : Text} (named : a.Named)
    (element : a.isNavigation = false) (integer : a.id.IsInteger) (describes : Feature.Describes columns a s)
    (filled : Filled columns s.text line) : Accepts (patternOf a) line := by
  cases given : a.kind.isParameterized with
  | false =>
    obtain ⟨column,_,text⟩ := describes.line
    rw [text,linePlain given] at filled
    rw [acceptsPlain given]
    exact filledPlain (fun c => phraseSigns named element given) filled
  | true =>
    obtain ⟨name,has,full,text⟩ := describedTyped named given describes
    rw [text,lineFramed given full] at filled
    rw [acceptsFramed named given]
    exact filledFramed (fun _ => leadSigns) (fun _ => tailSigns named) (fun _ => columnSigns integer has) filled

theorem lineAnswered (known : ∀ a ∈ shown, a.isNavigation = false ∧ a.Named)
    (binds : List.Forall₂ Binds (firstsBy patternText shown) hs) {a : Action} (member : a ∈ shown) {line : Text}
    (accepts : Accepts (patternOf a) line) : ∃! h, h ∈ hs ∧ h.Matches line := by
  have inside : ∀ b ∈ firstsBy patternText shown, b ∈ shown := fun b first => (firstsSublist _ _).subset first
  obtain ⟨b,first,same⟩ := List.mem_map.mp (keysOfFirsts.mpr (List.mem_map_of_mem (f := patternText) member))
  obtain ⟨element,named⟩ := known a member
  obtain ⟨elementOfFirst,namedFirst⟩ := known b (inside b first)
  have pattern := sameParameter named namedFirst element elementOfFirst same.symm
  obtain ⟨h,bound,bindsFirst⟩ := rightRelated binds b first
  refine ⟨h,⟨bound,(bindsMatches bindsFirst line).mpr (pattern ▸ accepts)⟩,?_⟩
  rintro g ⟨other,hits⟩
  obtain ⟨e,among,bindsOther⟩ := leftRelated binds g other
  obtain ⟨elementOther,namedOther⟩ := known e (inside e among)
  have alike := acceptedOnce namedOther named elementOther element ((bindsMatches bindsOther line).mp hits) accepts
  have nodup : (hs.map (·.pattern)).Nodup := by
    rw [patternsOfHandlers binds]
    exact firstsNodup patternText shown
  refine List.inj_on_of_nodup_map nodup other bound ?_
  rw [bindsOther.pattern,bindsFirst.pattern,alike,same]

theorem documentsAnswer {d : Documents} {c : Context} {baseUrl : Value} {className : Text} {storyKey pageUrl : Value}
    (named : ∀ a ∈ actions, a.Named) (numbered : Numbered actions)
    (ok : documentsOfActions actions baseUrl className storyKey pageUrl { l with className } = .ok (d,c)) :
    Answers d := by
  obtain ⟨c₀,ready,shows⟩ := documentsOfActionsOk named numbered ok
  have known : ∀ a ∈ c₀.shown (inOrder actions), a.isNavigation = false ∧ a.Named :=
    fun a shown => (ready.known a shown).2
  obtain ⟨opening,hs,closing,handlers,opens,binds,closes⟩ := shows.handlers
  obtain ⟨block,blocks,described,part,lines⟩ := shows.block
  have whens : ∀ h, h ∈ d.steps.handlers ∧ .when ∈ h.types ↔ h ∈ hs := by
    intro h
    rw [handlers,List.mem_append,List.mem_cons,List.mem_singleton]
    constructor
    · rintro ⟨(rfl | bound) | rfl,types⟩
      · simp [opens.types] at types
      · exact bound
      · simp [closes.types] at types
    · intro bound
      obtain ⟨a,_,binds⟩ := leftRelated binds h bound
      exact ⟨.inl (.inr bound),by simp [binds.types]⟩
  exact {
    opening := ⟨opening,_,by simp [handlers],opens.types,opens.parsed,shows.precondition,opens.pattern⟩
    closing := ⟨closing,_,by rw [handlers,List.getLast?_concat],closes.types,closes.parsed,shows.closing,
      closes.pattern⟩
    patterns := by
      rw [handlers]
      exact patternsApart known opens binds closes
    lines := by
      intro b member s inside _ line filled
      rw [blocks,List.mem_singleton] at member
      subst member
      obtain ⟨a,among,describes⟩ := leftRelated lines s inside
      have shown := part.subset among
      obtain ⟨member,element,resolved⟩ := ready.known a shown
      have accepts := describedAccepts resolved element (numbered.integers a member) describes filled
      simpa only [← whens,and_assoc] using lineAnswered known binds shown accepts }

end documents

theorem handlersMatchLines (table : List Recording.Shape) (recording featureName : Text)
    (baseUrl storyKey pageUrl : Value) (l : Layout) (d : Documents) (c : Context)
    (ok : documentsOfActions ((Recording.Transcript.ofText table recording).actions.map resolve) baseUrl
      (Naming.className featureName) storyKey pageUrl { l with className := Naming.className featureName }
      = .ok (d,c)) : Answers d :=
  documentsAnswer Page.namedAll (Page.numberedResolve (Recording.numberedTranscript _)) ok

def searchRecording : Text :=
  "goto('/')\nfill('#term', 'a \" into b')\nfill('.term', 'c')\nselectOption('#sort', 'new')\nclick('#go')"

theorem searchAnswered : ∃ d c,
    documentsOfActions ((Recording.Transcript.ofText Recording.defaultShapes searchRecording).actions.map resolve)
      (.text []) (Naming.className "search page") (.text "K-1") (.text "/")
      { outputDir := "out", className := Naming.className "search page" } = .ok (d,c) ∧ Answers d := by
  have path : ∀ actions, Page.pathFor (Page.addressOf actions (.text "/")) (.text []) = .ok (Text.ofString "/") := by
    intro actions
    simp only [Page.addressOf]
    decide
  obtain ⟨d,c,ok⟩ := documentsOfActionsMade (path _)
  exact ⟨d,c,ok,handlersMatchLines _ _ "search page" _ _ _ { outputDir := "out", className := [] } d c ok⟩

end TestWeaver.Steps
