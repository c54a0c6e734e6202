import TestWeaver.Proofs.Steps.Coupling

/-! The table of a recording's scenario. The gate drops no fill and no select, since every one has
a column that is new, so its line, its column and its value go into the scenario together. -/
namespace TestWeaver.Feature
open TestWeaver.Action Steps Generation

structure Entry where
  action : Action
  column : Text
  value : Value
  line : Step

structure Entry.Holds (e : Entry) : Prop where
  about : e.line.action = some e.action.id
  line : e.line.text = behaviorText e.action (some e.column)
  column : ColumnOf e.action e.column
  value : e.value = e.action.value.orElse (.text [])

def recorded : Value → Value
  | .null => .text []
  | v => v

def typedLead (k : Kind) : Text := opener k ++ "\""

def Step.isTyped (s : Step) : Bool := s.text.startsWith (typedLead .fill) || s.text.startsWith (typedLead .select)

def keywordAt (i : Nat) : Text := if i = 0 then "When" else "And"

structure Tabled (done : List Action) (b : Block) (entries : List Entry) : Prop where
  actions : entries.map (·.action) = done.filter (·.kind.isParameterized)
  columns : b.examples.columns = entries.map (·.column)
  values : b.examples.values = entries.map (·.value)
  lines : b.steps.filter Step.isTyped = entries.map (·.line)
  holds : ∀ e ∈ entries, e.Holds
  distinct : (entries.map (·.column)).Nodup
  keywords : ∀ i s, b.steps[i]? = some s → s.keyword = keywordAt i

theorem recordedText {v : Value} (given : v = .null ∨ ∃ t, v = .text t) : v.orElse (.text []) = recorded v := by
  rcases given with rfl | ⟨t,rfl⟩
  · rfl
  · cases t <;> rfl

section line
variable {a : Action} {s : Step} {column : Option Text} {name : Text} {steps : List Step}

theorem typedLine (given : a.kind.isParameterized) (full : name ≠ []) (line : s.text = behaviorText a (some name)) :
    s.isTyped := by
  have lead : typedLead a.kind <+: s.text := by
    rw [line,lineFramed given full,List.append_assoc]
    exact List.prefix_append _ _
  rw [Step.isTyped,Bool.or_eq_true]
  cases kind : a.kind with
  | fill => exact .inl (List.isPrefixOf_iff_prefix.mpr (kind ▸ lead))
  | select => exact .inr (List.isPrefixOf_iff_prefix.mpr (kind ▸ lead))
  | navigate | click | check | press => simp [kind,Kind.isParameterized] at given

theorem plainLine (known : Steps.Element a) (plain : a.kind.isParameterized = false)
    (line : s.text = behaviorText a column) : s.isTyped = false := by
  have opens : opener a.kind <+: s.text := by
    rw [line,linePlain plain,phraseOpens known.named known.element plain]
    exact List.prefix_append _ _
  have other : ∀ k : Kind, k.isParameterized → s.text.startsWith (typedLead k) = false := by
    intro k given
    rw [Bool.eq_false_iff]
    intro starts
    have same := openerUnique opens ((List.prefix_append _ _).trans (List.isPrefixOf_iff_prefix.mp starts))
    rw [same,given] at plain
    contradiction
  rw [Step.isTyped,other .fill rfl,other .select rfl]
  rfl

theorem keywordsAppend (keywords : ∀ i s, steps[i]? = some s → s.keyword = keywordAt i)
    (last : s.keyword = if steps.isEmpty then Text.ofString "When" else "And") (i : Nat) (t : Step)
    (found : (steps ++ [s])[i]? = some t) : t.keyword = keywordAt i := by
  rcases Nat.lt_trichotomy i steps.length with inside | here | beyond
  · rw [List.getElem?_append_left inside] at found
    exact keywords i t found
  · rw [here,List.getElem?_concat_length] at found
    cases found
    rw [last,here]
    cases steps <;> rfl
  · rw [List.getElem?_eq_none (by simp; omega)] at found
    contradiction

end line

section run
variable {done : List Action} {b : Block} {c : Context} {a : Action} {entries : List Entry}

/- A fill or a select is new to the gate: only a plain action can be alike. -/
theorem typedFresh (known : ∀ d ∈ done, Steps.Element d ∧ d.id.isSame a.id = false) (here : Steps.Element a)
    (given : a.kind.isParameterized) : lineKey a ∉ done.map lineKey := by
  intro member
  obtain ⟨d,among,same⟩ := List.mem_map.mp member
  obtain ⟨element,other⟩ := known d among
  rcases lineKeySame element here same with number | ⟨_,plain,_⟩
  · rw [other] at number
    contradiction
  · rw [plain] at given
    contradiction

theorem entryAdded (e : Examples) (name : Text) (full : name ≠ []) (value : Value) :
    e.add (some name) value = ⟨e.columns ++ [name],e.values ++ [value.orElse (.text [])]⟩ := by
  obtain ⟨p,rest,rfl⟩ := List.exists_cons_of_ne_nil full
  rfl

def lineFor (b : Block) (a : Action) : Step where
  keyword := if b.steps.isEmpty then "When" else "And"
  text := behaviorText a (columnOf b.examples.columns a)
  action := some a.id

theorem addActionSeen (seen : (lineFor b a).text ∈ c.seen .specification .step) : (b.addAction c a).1 = b := by
  have closed : c.emit .specification .step (behaviorText a (columnOf b.examples.columns a)) = _ := Context.emitSeen seen
  simp only [Block.addAction,closed]
  rfl

theorem addActionFresh (fresh : (lineFor b a).text ∉ c.seen .specification .step) : (b.addAction c a).1 =
    { b with steps := b.steps ++ [lineFor b a], examples := b.examples.add (columnOf b.examples.columns a) a.value } := by
  have opened : c.emit .specification .step (behaviorText a (columnOf b.examples.columns a)) = _ := Context.emitFresh fresh
  simp only [Block.addAction,opened]
  rfl

theorem typedTabled (lined : Lined done b c) (known : ∀ d ∈ done, Steps.Element d ∧ d.id.isSame a.id = false)
    (here : Steps.Element a) (given : a.kind.isParameterized) (tabled : Tabled done b entries) :
    ∃ e, Tabled (done ++ [a]) (b.addAction c a).1 (entries ++ [e]) := by
  obtain ⟨name,chosen⟩ := columnGiven b.examples.columns given
  have own := (columnChosen chosen).2
  have full := columnFull here.named own
  have fresh : name ∉ entries.map (·.column) := by
    rw [← tabled.columns]
    refine columnFresh here chosen fun column member => ?_
    obtain ⟨d,among,columnOf⟩ := lined.columns column member
    exact ⟨d,(known d among).1,(known d among).2,columnOf⟩
  have text : (lineFor b a).text = behaviorText a (some name) := by rw [lineFor,chosen]
  rw [addActionFresh fun seen => typedFresh known here given ((lineGate lined known here).mp seen),chosen,
    entryAdded b.examples name full a.value]
  refine ⟨⟨a,name,a.value.orElse (.text []),lineFor b a⟩,?_⟩
  exact {
    actions := by simp [tabled.actions,given]
    columns := by simp [tabled.columns]
    values := by simp [tabled.values]
    lines := by simp [List.filter_append,tabled.lines,typedLine given full text]
    holds := by
      intro e member
      rcases List.mem_append.mp member with old | new
      · exact tabled.holds e old
      · rw [List.mem_singleton.mp new]
        exact ⟨rfl,text,own,rfl⟩
    distinct := by
      rw [List.map_append,List.nodup_append]
      refine ⟨tabled.distinct,by simp,?_⟩
      intro old inside new last same
      rw [List.map_singleton,List.mem_singleton] at last
      rw [same,last] at inside
      exact fresh inside
    keywords := keywordsAppend tabled.keywords rfl }

theorem plainTabled (c : Context) (here : Steps.Element a) (plain : a.kind.isParameterized = false)
    (tabled : Tabled done b entries) : Tabled (done ++ [a]) (b.addAction c a).1 entries := by
  have none : columnOf b.examples.columns a = none := by simp [columnOf,plain]
  have actions : entries.map (·.action) = (done ++ [a]).filter (·.kind.isParameterized) := by simp [tabled.actions,plain]
  by_cases seen : (lineFor b a).text ∈ c.seen .specification .step
  · rw [addActionSeen seen]
    exact { tabled with actions }
  · rw [addActionFresh seen,none]
    exact {
      tabled with
      actions
      lines := by simp [List.filter_append,tabled.lines,plainLine here plain (s := lineFor b a) rfl]
      keywords := keywordsAppend tabled.keywords rfl }

theorem addActionsTabled {rest : List Action} (lined : Lined done b c) (tabled : Tabled done b entries)
    (known : ∀ d ∈ done ++ c.shown rest, Steps.Element d)
    (distinct : (done ++ c.shown rest).Pairwise fun d e => d.id.isSame e.id = false) :
    ∃ all, Tabled (done ++ c.shown rest) (b.addActions c rest).1 all := by
  induction rest generalizing done b c entries with
  | nil => exact ⟨entries,by simpa [Block.addActions,Context.shown] using tabled⟩
  | cons a rest ih =>
    rw [Context.shownCons] at known distinct ⊢
    unfold Block.addActions
    split
    · rename_i passed
      rw [if_pos passed] at known distinct
      exact ih lined tabled known distinct
    · rename_i kept
      rw [if_neg kept] at known distinct
      have same := Context.onlyAtShown (addActionOnly b c a) rest
      obtain ⟨_,_,apart⟩ := List.pairwise_append.mp distinct
      have before : ∀ d ∈ done, Steps.Element d ∧ d.id.isSame a.id = false :=
        fun d among => ⟨known d (List.mem_append_left _ among),apart d among a List.mem_cons_self⟩
      have here : Steps.Element a := known a (List.mem_append_right _ List.mem_cons_self)
      have step : ∃ more, Tabled (done ++ [a]) (b.addAction c a).1 more := by
        cases given : a.kind.isParameterized with
        | true => exact (typedTabled lined before here given tabled).imp' _ fun _ next => next
        | false => exact ⟨entries,plainTabled c here given tabled⟩
      obtain ⟨more,next⟩ := step
      have split : done ++ a :: c.shown rest = done ++ [a] ++ c.shown rest := by simp
      rw [split] at known distinct ⊢
      rw [← same] at known distinct ⊢
      exact ih (addActionLined lined before here) next known distinct

end run

/- The scenario of a recording over the owners of the page's methods: its lines go up with the
numbers of owners, and the columns, the values and the lines of fills and selects are listed in
one order, as one entry each. -/
structure Ordered (owners : List Action) (d : Documents) (b : Block) : Prop where
  block : d.specification.blocks = [b]
  behavior : d.specification.behavior = b.steps
  ids : ∃ ids : List Nat, ids.Pairwise (· < ·) ∧ b.steps.map (·.action) = ids.map fun n => some (.whole n)
  declared : ∀ s ∈ b.steps, ∃ a ∈ owners, s.action = some a.id
  keywords : ∀ i s, b.steps[i]? = some s → s.keyword = keywordAt i
  kept : ∀ a ∈ owners, a.kind.isParameterized → ∃ s ∈ b.steps, s.action = some a.id
  distinct : b.examples.columns.Nodup
  sizes : b.examples.columns.length = b.examples.values.length
  table : ∃ entries : List Entry, entries.map (·.action) = owners.filter (·.kind.isParameterized) ∧
    b.examples.columns = entries.map (·.column) ∧ b.examples.values = entries.map (·.value) ∧
    b.steps.filter Step.isTyped = entries.map (·.line) ∧
    ∀ e ∈ entries, e.line.action = some e.action.id ∧ e.line.text = behaviorText e.action (some e.column) ∧
      e.line.text.contains (placeholder e.column) ∧ e.value = recorded e.action.value ∧
      ∀ s ∈ d.specification.precondition.toList ++ b.steps ++ d.specification.closing.toList, s ≠ e.line →
        s.text.contains (placeholder e.column) = false
  outline : b.isOutline ↔ ∃ a ∈ owners, a.kind.isParameterized

section documents
variable {actions owners : List Action} {baseUrl : Value} {className : Text} {storyKey pageUrl : Value} {l : Layout}
  {d : Documents} {c c₀ c₁ : Context} {b : Block} {entries : List Entry}

theorem ofActionsTabled (unseen : c₀.seen .specification .step = [])
    (known : ∀ a ∈ c₀.shown (inOrder actions), Steps.Element a) (numbered : Numbered (c₀.shown (inOrder actions)))
    (described : Document.ofActions c₀ actions className storyKey = (d.specification,c₁)) :
    ∃ b entries, d.specification.blocks = [b] ∧ Tabled (c₀.shown (inOrder actions)) b entries ∧
      List.Forall₂ (Describes b.examples.columns) (firstsBy lineKey (c₀.shown (inOrder actions))) b.steps := by
  have lined : Lined [] { name := "Complete " ++ className ++ " workflow" } c₀ := ⟨unseen,.nil,by simp⟩
  have tabled : Tabled [] { name := "Complete " ++ className ++ " workflow" } [] :=
    ⟨rfl,rfl,rfl,rfl,by simp,List.nodup_nil,by simp⟩
  obtain ⟨_,lines⟩ := @addActionsLined _ _ _ (inOrder actions) lined known numbered.distinct
  obtain ⟨entries,table⟩ := @addActionsTabled _ _ _ _ (inOrder actions) lined tabled known numbered.distinct
  refine ⟨_,entries,?_,table,lines.lines⟩
  rw [show d.specification = (Document.ofActions c₀ actions className storyKey).1 by rw [described]]
  rfl

theorem wholeIds {xs : List Action} (whole : ∀ a ∈ xs, ∃ n, a.id = .whole n) (sorted : xs.Pairwise Before) :
    ∃ ids : List Nat, ids.Pairwise (· < ·) ∧ xs.map (fun a => some a.id) = ids.map fun n => some (.whole n) := by
  induction xs with
  | nil => exact ⟨[],.nil,rfl⟩
  | cons a xs ih =>
    obtain ⟨later,sorted⟩ := List.pairwise_cons.mp sorted
    obtain ⟨ids,rising,same⟩ := ih (fun b member => whole b (List.mem_cons_of_mem _ member)) sorted
    obtain ⟨n,id⟩ := whole a List.mem_cons_self
    refine ⟨n :: ids,List.pairwise_cons.mpr ⟨?_,rising⟩,by rw [List.map_cons,List.map_cons,same,id]⟩
    intro m member
    have listed : some (Ordinal.whole m) ∈ xs.map fun a => some a.id := same ▸ List.mem_map_of_mem member
    obtain ⟨b,inside,other⟩ := List.mem_map.mp listed
    have before := (later b inside).2
    rw [id,Option.some.inj other,Ordinal.le_whole,decide_eq_false_iff_not] at before
    omega

/- A column stands in no line but that of its own entry: the other lines of the kind have other
columns, and the rest have no brackets at all. -/
theorem columnElsewhere (known : ∀ a ∈ owners, Steps.Element a) (tabled : Tabled owners b entries)
    (lines : List.Forall₂ (Describes b.examples.columns) (firstsBy lineKey owners) b.steps) {e : Entry} {s : Step}
    (entry : e ∈ entries) (line : s ∈ b.steps) (other : s ≠ e.line) :
    s.text.contains (placeholder e.column) = false := by
  have among : ∀ e ∈ entries, e.action ∈ owners ∧ e.action.kind.isParameterized := by
    intro e member
    have listed : e.action ∈ owners.filter (·.kind.isParameterized) := tabled.actions ▸ List.mem_map_of_mem member
    exact List.mem_filter.mp listed
  cases typed : s.isTyped with
  | true =>
    have listed : s ∈ entries.map (·.line) := tabled.lines ▸ List.mem_filter.mpr ⟨line,typed⟩
    obtain ⟨f,member,rfl⟩ := List.mem_map.mp listed
    obtain ⟨owner,given⟩ := among f member
    have element := known f.action owner
    have holds := tabled.holds f member
    rw [Bool.eq_false_iff]
    intro stands
    rw [holds.line,lineFramed given (columnFull element.named holds.column)] at stands
    have columns : e.column = f.column := placeholderOnce (fun _ => leadSigns) (fun _ => tailSigns element.named)
      (columnPlain element.integer holds.column) stands
    exact other (congrArg Entry.line (List.inj_on_of_nodup_map tabled.distinct member entry columns.symm))
  | false =>
    obtain ⟨a,first,describes⟩ := leftRelated lines s line
    have element := known a ((firstsSublist _ _).subset first)
    have plain : a.kind.isParameterized = false := by
      rw [Bool.eq_false_iff]
      intro given
      obtain ⟨name,_,full,text⟩ := describedTyped element.named given describes
      rw [typedLine given full text] at typed
      contradiction
    obtain ⟨column,_,text⟩ := describes.line
    rw [text,linePlain plain]
    exact placeholderNone fun c => phraseSigns element.named element.element plain

theorem preconditionSigns {sign : CodePoint} (alnum : Naming.Alnum className) (member : sign ∈ preconditionText className) :
    ¬ IsBracket sign := by
  unfold preconditionText at member
  rw [List.mem_append,List.mem_append] at member
  rcases member with (fixed | name) | fixed
  · revert sign
    decide
  · rintro (rfl | rfl | rfl) <;> exact absurd (alnum _ name) (by decide)
  · revert sign
    decide

theorem documentsOrdered (named : ∀ a ∈ actions, a.Named) (given : Numbered actions)
    (whole : ∀ a ∈ actions, ∃ n, a.id = .whole n) (texts : ∀ a ∈ actions, a.value = .null ∨ ∃ t, a.value = .text t)
    (alnum : Naming.Alnum className)
    (ok : documentsOfActions actions baseUrl className storyKey pageUrl l = .ok (d,c)) :
    ∃ b, Ordered (c.shown (inOrder actions)) d b := by
  obtain ⟨path,c₀,c₁,made,described,bound⟩ := documentsParts ok
  have ready := readyOfActions named given made
  obtain ⟨_,owns⟩ := shownLater described bound (inOrder actions)
  rw [owns]
  obtain ⟨known,sorted,numbered⟩ := ownersKnown ready given
  obtain ⟨b,entries,block,tabled,lines⟩ := ofActionsTabled (ready.unseen .specification .step (by decide)) known numbered
    described
  have ends : d.specification.precondition = some ⟨"Given",preconditionText className,none⟩ ∧
      d.specification.closing = some ⟨"Then",closingText,none⟩ := by
    rw [show d.specification = (Document.ofActions c₀ actions className storyKey).1 by rw [described]]
    exact ⟨rfl,rfl⟩
  have first := (firstsSublist lineKey (c₀.shown (inOrder actions))).subset
  have typed : ∀ a ∈ c₀.shown (inOrder actions), a.kind.isParameterized → ∃ e ∈ entries, e.action = a := by
    intro a owner given
    have listed : a ∈ entries.map (·.action) := tabled.actions ▸ List.mem_filter.mpr ⟨owner,given⟩
    exact List.mem_map.mp listed
  have owner : ∀ e ∈ entries, e.action ∈ c₀.shown (inOrder actions) ∧ e.action.kind.isParameterized := by
    intro e member
    have listed : e.action ∈ (c₀.shown (inOrder actions)).filter (·.kind.isParameterized) :=
      tabled.actions ▸ List.mem_map_of_mem member
    exact List.mem_filter.mp listed
  have inside : ∀ e ∈ entries, e.line ∈ b.steps := by
    intro e member
    have listed : e.line ∈ b.steps.filter Step.isTyped := tabled.lines ▸ List.mem_map_of_mem member
    exact (List.mem_filter.mp listed).1
  refine ⟨b,?_⟩
  exact {
    block
    behavior := behaviorSteps block lines
    ids := by
      rw [linesAbout lines]
      refine wholeIds (fun a member => ?_) (sorted.sublist (firstsSublist _ _))
      exact whole a (ready.known a (first member)).1
    declared := by
      intro s member
      obtain ⟨a,listed,describes⟩ := leftRelated lines s member
      exact ⟨a,first listed,describes.about⟩
    keywords := tabled.keywords
    kept := by
      intro a owner given
      obtain ⟨e,member,rfl⟩ := typed a owner given
      exact ⟨e.line,inside e member,(tabled.holds e member).about⟩
    distinct := tabled.columns ▸ tabled.distinct
    sizes := by rw [tabled.columns,tabled.values,List.length_map,List.length_map]
    table := by
      refine ⟨entries,tabled.actions,tabled.columns,tabled.values,tabled.lines,fun e member => ?_⟩
      obtain ⟨shown,given⟩ := owner e member
      have holds := tabled.holds e member
      refine ⟨holds.about,holds.line,?_,?_,?_⟩
      · rw [holds.line,lineFramed given (columnFull (known e.action shown).named holds.column)]
        exact Text.containsOf _ _ _
      · rw [holds.value]
        exact recordedText (texts e.action (ready.known e.action shown).1)
      · intro s line other
        rw [ends.1,ends.2,List.mem_append,List.mem_append,Option.mem_toList,Option.mem_toList] at line
        rcases line with (opening | line) | closing
        · cases opening
          exact placeholderNone fun _ => preconditionSigns alnum
        · exact columnElsewhere known tabled lines member line other
        · cases closing
          exact placeholderNone (by decide)
    outline := by
      rw [Block.isOutline,tabled.columns,Bool.not_eq_true',List.isEmpty_eq_false_iff_exists_mem]
      constructor
      · rintro ⟨_,listed⟩
        obtain ⟨e,member,_⟩ := List.mem_map.mp listed
        exact ⟨e.action,owner e member⟩
      · rintro ⟨a,shown,given⟩
        obtain ⟨e,member,_⟩ := typed a shown given
        exact ⟨e.column,List.mem_map_of_mem member⟩ }

end documents

def sessionActions (table : List Recording.Shape) (recording : Text) : List Action :=
  (Recording.Transcript.ofText table recording).actions.map resolve

theorem numberPlain (given : Nat) (calls : List Recording.Call) : ∀ a ∈ Recording.Transcript.number given calls,
    (∃ n, a.id = .whole n) ∧ (a.value = .null ∨ ∃ t, a.value = .text t) := by
  induction calls generalizing given with
  | nil => simp [Recording.Transcript.number]
  | cons call calls ih =>
    intro a member
    rcases List.mem_cons.mp member with rfl | later
    · cases call with
      | navigate url => exact ⟨⟨_,rfl⟩,.inr ⟨_,rfl⟩⟩
      | act kind selector value full =>
        cases value with
        | none => exact ⟨⟨_,rfl⟩,.inl rfl⟩
        | some t => exact ⟨⟨_,rfl⟩,.inr ⟨t,rfl⟩⟩
    · exact ih (given + 1) a later

theorem sessionPlain {table : List Recording.Shape} {recording : Text} : ∀ a ∈ sessionActions table recording,
    (∃ n, a.id = .whole n) ∧ (a.value = .null ∨ ∃ t, a.value = .text t) := by
  intro a member
  obtain ⟨b,inside,rfl⟩ := List.mem_map.mp member
  unfold Recording.Transcript.actions at inside
  split at inside <;> exact numberPlain 0 _ b inside

theorem scenarioOrdered (table : List Recording.Shape) (recording featureName : Text)
    (baseUrl storyKey pageUrl : Value) (l : Layout) :
    (∃ f, Page.pathFor (Page.addressOf (sessionActions table recording) pageUrl) baseUrl = .error f ∧
      documentsOfActions (sessionActions table recording) baseUrl (Naming.className featureName) storyKey pageUrl l
        = .error f) ∨
    ∃ d c b, documentsOfActions (sessionActions table recording) baseUrl (Naming.className featureName) storyKey pageUrl l
        = .ok (d,c) ∧
      Ordered (c.shown (inOrder (sessionActions table recording))) d b := by
  refine (documentsOfActionsEnd (sessionActions table recording) baseUrl (Naming.className featureName) storyKey
    pageUrl l).imp_right ?_
  rintro ⟨d,c,ok⟩
  obtain ⟨b,ordered⟩ := documentsOrdered Page.namedAll (Page.numberedResolve (Recording.numberedTranscript _))
    (fun a member => (sessionPlain a member).1) (fun a member => (sessionPlain a member).2)
    (Naming.classNameAlnum featureName) ok
  exact ⟨d,c,b,ok,ordered⟩

end TestWeaver.Feature
