import TestWeaver.Proofs.Naming.Columns
import TestWeaver.Proofs.Steps.Matching

/-! The lines of a scenario as its gate lets them through. A plain line is the phrase, so the gate
keeps the first of alike actions. The line of a fill or a select has a column that no action
before it has, so it is never there already. -/
namespace TestWeaver.Steps
open TestWeaver.Action Generation

def Alike (a b : Action) : Prop :=
  a.kind = b.kind ∧ Naming.spoken a.names.readable = Naming.spoken b.names.readable
instance (a b : Action) : Decidable (Alike a b) := by unfold Alike; infer_instance

structure Element (a : Action) : Prop where
  element : a.isNavigation = false
  named : a.Named
  integer : a.id.IsInteger

/- The key that the gate of lines goes by: a fill or a select has a line of its own. -/
def lineKey (a : Action) : Text := if a.kind.isParameterized then a.id.text else patternText a

section keys
variable {a b : Action}

theorem patternAlike (left : Element a) (right : Element b) : patternText a = patternText b ↔ Alike a b := by
  constructor
  · intro same
    have kind : a.kind = b.kind :=
      openerUnique (patternOpens left.named left.element) (same ▸ patternOpens right.named right.element)
    refine ⟨kind,?_⟩
    rw [patternOfKind left.named,patternOfKind right.named,kind] at same
    cases onElement : b.kind with
    | navigate => exact absurd right.element (by simp [isNavigation,onElement])
    | fill | select | click | check | press =>
      simp only [onElement] at same
      exact List.append_cancel_left same
  · rintro ⟨kind,spoken⟩
    rw [patternOfKind left.named,patternOfKind right.named,kind,spoken]
    cases b.kind <;> simp [Naming.phrase,spoken]

theorem numberNotPattern (left : Element a) (right : Element b) : a.id.text ≠ patternText b := by
  intro same
  have space : ∀ k, CodePoint.char ' ' ∈ opener k := by
    intro k
    cases k <;> decide
  have inside : CodePoint.char ' ' ∈ a.id.text := by
    rw [same]
    exact (patternOpens right.named right.element).subset (space b.kind)
  exact absurd (Ordinal.integerSigns left.integer _ inside) (by decide)

theorem lineKeySame (left : Element a) (right : Element b) (same : lineKey a = lineKey b) :
    a.id.isSame b.id ∨ a.kind.isParameterized = false ∧ b.kind.isParameterized = false ∧ Alike a b := by
  unfold lineKey at same
  cases first : a.kind.isParameterized <;> cases next : b.kind.isParameterized
  all_goals simp only [first,next,if_true,Bool.false_eq_true,if_false] at same
  · exact .inr ⟨rfl,rfl,(patternAlike left right).mp same⟩
  · exact absurd same.symm (numberNotPattern right left)
  · exact absurd same (numberNotPattern left right)
  · refine .inl ?_
    cases other : a.id.isSame b.id with
    | true => rfl
    | false => exact absurd same (Ordinal.textOfDistinct left.integer right.integer other)

theorem lineKeyPlain (plain : a.kind.isParameterized = false) : lineKey a = patternText a := by
  simp [lineKey,plain]

end keys

section lines
variable {columns : List Text} {a d : Action} {s : Feature.Step} {name : Text} {column : Option Text}

def ColumnOf (a : Action) (column : Text) : Prop :=
  column = Naming.snake a.names.readable ∨ column = Naming.snake a.names.readable ++ .char '_' :: a.id.text

theorem columnFull (named : a.Named) (given : ColumnOf a name) : name ≠ [] := by
  have full := Naming.snakeFull (namedAlnum named) (namedFull named)
  rcases given with rfl | rfl
  · exact full
  · simp

theorem columnPlain (integer : a.id.IsInteger) (given : ColumnOf a name) : ∀ c ∈ name, ¬ IsBracket c := by
  have word : ∀ c : CodePoint, c.isAlnum ∨ c = .char '_' → ¬ IsBracket c := by
    rintro c inside (rfl | rfl | rfl) <;> exact absurd inside (by decide)
  intro c member
  rcases given with rfl | rfl
  · exact word c (Naming.snakeWithin member)
  · rcases List.mem_append.mp member with snake | rest
    · exact word c (Naming.snakeWithin snake)
    · rcases List.mem_cons.mp rest with rfl | number
      · exact word _ (.inr rfl)
      · exact word c (.inl (Ordinal.integerSigns integer c number))

theorem numberHead {o : Ordinal} (integer : o.IsInteger) : o.text.head?.any CodePoint.isSmall = false := by
  cases o with
  | truth => rfl
  | real x => exact integer.elim
  | whole n =>
    cases first : (Text.ofNat n).head? with
    | none => simp [Ordinal.text,first]
    | some c =>
      have digit := Text.ofNatDigits (List.mem_of_head? first)
      have ascii := CodePoint.alnumAscii (p := c) (by simp [CodePoint.isAlnum,digit])
      have other := CodePoint.asciiForall (P := fun p => p.isDigit → p.isSmall = false) (by decide +kernel) ascii digit
      simpa [Ordinal.text,first] using other

theorem columnChosen (chosen : Feature.columnOf columns a = some name) : a.kind.isParameterized ∧ ColumnOf a name := by
  unfold Feature.columnOf at chosen
  dsimp only at chosen
  split at chosen
  · rename_i given
    refine ⟨given,?_⟩
    cases Option.some.inj chosen
    split
    · exact .inr (by simp [Text.ofString])
    · exact .inl rfl
  · contradiction

theorem columnFresh (known : Element a) (chosen : Feature.columnOf columns a = some name)
    (before : ∀ column ∈ columns, ∃ d, Element d ∧ d.id.isSame a.id = false ∧ ColumnOf d column) : name ∉ columns := by
  intro member
  have taken : Naming.snake a.names.readable ∈ columns → name = Naming.snake a.names.readable ++ .char '_' :: a.id.text := by
    intro inside
    simpa [Feature.columnOf,(columnChosen chosen).1,inside,Text.ofString,eq_comm] using chosen
  rcases (columnChosen chosen).2 with rfl | rfl
  · have marked := congrArg List.length (taken member)
    simp at marked
  · obtain ⟨d,element,other,same | same⟩ := before _ member
    · exact Naming.snakeUnnumbered (namedAlnum element.named) (numberHead known.integer) same.symm
    · have texts := (Text.lastPartUnique (Ordinal.textOfInteger known.integer) (Ordinal.textOfInteger element.integer) same).2
      exact Ordinal.textOfDistinct element.integer known.integer other texts.symm

theorem columnGiven (columns : List Text) (given : a.kind.isParameterized) :
    ∃ name, Feature.columnOf columns a = some name := by
  unfold Feature.columnOf
  rw [if_pos given]
  exact ⟨_,rfl⟩

theorem lineOpens (known : Element a) (given : a.kind.isParameterized → ∃ name, column = some name ∧ name ≠ []) :
    opener a.kind <+: Feature.behaviorText a column := by
  cases parameterized : a.kind.isParameterized with
  | true =>
    obtain ⟨name,rfl,full⟩ := given parameterized
    rw [lineFramed parameterized full]
    simp [lead]
  | false =>
    rw [linePlain parameterized,phraseOpens known.named known.element parameterized]
    exact List.prefix_append _ _

theorem lineAgain (left : Element d) (right : Element a) (describes : Feature.Describes columns d s)
    (valid : ∀ name ∈ columns, ∃ e, Element e ∧ ColumnOf e name)
    (fresh : a.kind.isParameterized → ∃ name, column = some name ∧ ColumnOf a name ∧ name ∉ columns)
    (same : s.text = Feature.behaviorText a column) :
    d.kind.isParameterized = false ∧ a.kind.isParameterized = false ∧ Alike d a := by
  obtain ⟨old,has,text⟩ := describes.line
  have given : d.kind.isParameterized → ∃ name, old = some name ∧ name ∈ columns := by
    intro parameterized
    cases has with
    | none plain => rw [plain] at parameterized; contradiction
    | own _ member => exact ⟨_,rfl,member⟩
    | numbered _ member => exact ⟨_,rfl,member⟩
  have fullOld : d.kind.isParameterized → ∃ name, old = some name ∧ name ≠ [] := by
    intro parameterized
    obtain ⟨name,same,member⟩ := given parameterized
    obtain ⟨e,element,columnOf⟩ := valid name member
    exact ⟨name,same,columnFull element.named columnOf⟩
  have fullNew : a.kind.isParameterized → ∃ name, column = some name ∧ name ≠ [] := by
    intro parameterized
    obtain ⟨name,same,columnOf,_⟩ := fresh parameterized
    exact ⟨name,same,columnFull right.named columnOf⟩
  rw [text] at same
  have kind : d.kind = a.kind := openerUnique (lineOpens left fullOld) (same ▸ lineOpens right fullNew)
  cases parameterized : a.kind.isParameterized with
  | false =>
    have plain := kind ▸ parameterized
    refine ⟨plain,rfl,(patternAlike left right).mp ?_⟩
    rw [linePlain plain,linePlain parameterized] at same
    rw [patternText,patternText,patternPlain plain,patternPlain parameterized,same]
  | true =>
    obtain ⟨name,rfl,columnOf,new⟩ := fresh parameterized
    obtain ⟨before,rfl,member⟩ := given (kind ▸ parameterized)
    obtain ⟨e,element,valid⟩ := valid before member
    have close : IsBracket (.char '>') := by decide
    have leads : lead d = lead a := by rw [lead,kind,lead]
    rw [lineFramed (kind ▸ parameterized) (columnFull element.named valid),
      lineFramed parameterized (columnFull right.named columnOf),leads,List.append_assoc,List.append_assoc] at same
    have framed : before ++ .char '>' :: tail d = name ++ .char '>' :: tail a := by
      simpa [placeholder,Text.ofString] using List.append_cancel_left same
    have columns := (Text.firstPartUnique (fun inside => columnPlain element.integer valid _ inside close)
      (fun inside => columnPlain right.integer columnOf _ inside close) framed).1
    exact absurd (columns ▸ member) new

theorem columnsAdded {e : Feature.Examples} {value : Value} (member : name ∈ (e.add column value).columns) :
    name ∈ e.columns ∨ column = some name := by
  unfold Feature.Examples.add at member
  split at member
  · exact .inl member
  · exact .inl member
  · rename_i added _
    rcases List.mem_append.mp member with old | last
    · exact .inl old
    · exact .inr (by rw [List.mem_singleton.mp last])

end lines

/- A scenario when some actions in order have been given lines: a line for the first action of
every key, and what the gate has seen are the lines. -/
structure Lined (done : List Action) (b : Feature.Block) (c : Context) : Prop where
  seen : c.seen .specification .step = b.steps.map (·.text)
  lines : List.Forall₂ (Feature.Describes b.examples.columns) (firstsBy lineKey done) b.steps
  columns : ∀ name ∈ b.examples.columns, ∃ d ∈ done, ColumnOf d name

section run
variable {done : List Action} {b : Feature.Block} {c : Context} {a : Action}

theorem lineGate (lined : Lined done b c) (known : ∀ d ∈ done, Element d ∧ d.id.isSame a.id = false) (here : Element a) :
    Feature.behaviorText a (Feature.columnOf b.examples.columns a) ∈ c.seen .specification .step ↔
      lineKey a ∈ done.map lineKey := by
  have inside : ∀ d ∈ firstsBy lineKey done, d ∈ done := fun d first => (firstsSublist _ _).subset first
  rw [lined.seen,List.mem_map]
  constructor
  · rintro ⟨s,listed,same⟩
    obtain ⟨d,first,describes⟩ := leftRelated lined.lines s listed
    have valid : ∀ name ∈ b.examples.columns, ∃ e, Element e ∧ ColumnOf e name := by
      intro name member
      obtain ⟨e,among,columnOf⟩ := lined.columns name member
      exact ⟨e,(known e among).1,columnOf⟩
    have fresh : a.kind.isParameterized → ∃ name, Feature.columnOf b.examples.columns a = some name ∧ ColumnOf a name ∧
        name ∉ b.examples.columns := by
      intro given
      obtain ⟨name,chosen⟩ := columnGiven b.examples.columns given
      refine ⟨name,chosen,(columnChosen chosen).2,columnFresh here chosen ?_⟩
      intro name member
      obtain ⟨e,among,columnOf⟩ := lined.columns name member
      exact ⟨e,(known e among).1,(known e among).2,columnOf⟩
    have element := (known d (inside d first)).1
    obtain ⟨plainOld,plainNew,alike⟩ := lineAgain element here describes valid fresh same
    refine List.mem_map.mpr ⟨d,inside d first,?_⟩
    rw [lineKeyPlain plainOld,lineKeyPlain plainNew,(patternAlike element here).mpr alike]
  · intro member
    obtain ⟨d,first,same⟩ := List.mem_map.mp (keysOfFirsts.mpr member)
    obtain ⟨element,other⟩ := known d (inside d first)
    obtain ⟨s,listed,describes⟩ := rightRelated lined.lines d first
    rcases lineKeySame element here same with number | ⟨plainOld,plainNew,alike⟩
    · rw [other] at number
      contradiction
    · obtain ⟨old,_,text⟩ := describes.line
      have phrase := (patternAlike element here).mpr alike
      rw [patternText,patternText,patternPlain plainOld,patternPlain plainNew] at phrase
      exact ⟨s,listed,by rw [text,linePlain plainOld,linePlain plainNew]; exact phrase⟩

theorem addActionLined (lined : Lined done b c) (known : ∀ d ∈ done, Element d ∧ d.id.isSame a.id = false)
    (here : Element a) : Lined (done ++ [a]) (b.addAction c a).1 (b.addAction c a).2 := by
  have gate := lineGate lined known here
  unfold Feature.Block.addAction
  dsimp only
  by_cases seen : lineKey a ∈ done.map lineKey
  · rw [Context.emitSeen (gate.mpr seen)]
    exact {
      seen := lined.seen
      lines := by rw [firstsSeen seen]; exact lined.lines
      columns := fun name member => (lined.columns name member).imp fun d among => among.imp_left (List.mem_append_left _) }
  · rw [Context.emitFresh fun again => seen (gate.mp again)]
    have full := Naming.snakeFull (namedAlnum here.named) (namedFull here.named)
    obtain ⟨more,columns,has⟩ := Feature.columnAdded b.examples full a.value
    exact {
      seen := by
        rw [Context.seenGrown rfl,lined.seen]
        simp [Context.seen]
      lines := by
        rw [firstsFresh seen]
        simp only [if_true,columns]
        exact List.rel_append (lined.lines.imp fun _ _ => Feature.describesKept) (.cons ⟨rfl,_,has,rfl⟩ .nil)
      columns := by
        intro name member
        rcases columnsAdded member with old | new
        · exact (lined.columns name old).imp fun d among => among.imp_left (List.mem_append_left _)
        · exact ⟨a,by simp,(columnChosen new).2⟩ }

theorem addActionsLined {rest : List Action} (lined : Lined done b c) (known : ∀ d ∈ done ++ c.shown rest, Element d)
    (distinct : (done ++ c.shown rest).Pairwise fun d e => d.id.isSame e.id = false) :
    ∃ last, Lined (done ++ c.shown rest) (b.addActions c rest).1 last := by
  induction rest generalizing done b c with
  | nil => exact ⟨c,by simpa [Feature.Block.addActions,Context.shown] using lined⟩
  | cons a rest ih =>
    rw [Context.shownCons] at known distinct ⊢
    unfold Feature.Block.addActions
    split
    · rename_i passed
      rw [if_pos passed] at known distinct
      exact ih lined known distinct
    · rename_i kept
      rw [if_neg kept] at known distinct
      have same := Context.onlyAtShown (Feature.addActionOnly b c a) rest
      obtain ⟨_,_,apart⟩ := List.pairwise_append.mp distinct
      have step := addActionLined lined
        (fun d among => ⟨known d (List.mem_append_left _ among),apart d among a List.mem_cons_self⟩)
        (known a (List.mem_append_right _ List.mem_cons_self))
      have split : done ++ a :: c.shown rest = done ++ [a] ++ c.shown rest := by simp
      rw [split] at known distinct ⊢
      rw [← same] at known distinct ⊢
      exact ih step known distinct

end run

end TestWeaver.Steps
