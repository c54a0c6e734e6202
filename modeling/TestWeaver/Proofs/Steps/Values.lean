import TestWeaver.Proofs.Feature.Table

/-! The lines of a recording as they run, with the values of the table in place of their columns. A
field takes one sign at least, so a line whose value is empty finds no handler, and any other line
finds the one handler of its pattern, whatever its value looks like. -/
namespace TestWeaver.Steps
open TestWeaver.Action Generation

def cellOf? (e : Feature.Examples) (line : Text) : Option (Text × Text) :=
  (e.columns.zip (e.values.map Value.shown)).find? fun cell => line.contains (placeholder cell.1)

def concrete (e : Feature.Examples) (line : Text) : Text :=
  match cellOf? e line with
  | some (column,value) => line.replace (placeholder column) value
  | none => line

/- A plain pattern takes the line that it is, and the field of a parsed one takes any text but the empty one. -/
def Handler.Takes (h : Handler) (line : Text) : Prop :=
  if h.parsed then ∃ parameter value, h.parameter = some parameter ∧ value ≠ [] ∧
    line = h.pattern.replace (field parameter) value
  else line = h.pattern

def TakesBy (pattern : Text × Option Text) (line : Text) : Prop :=
  match pattern.2 with
  | some parameter => ∃ value, value ≠ [] ∧ line = pattern.1.replace (field parameter) value
  | none => line = pattern.1

section handlers
variable {a : Action} {h : Handler} {line : Text}

theorem bindsTakes (binds : Binds a h) (line : Text) : h.Takes line ↔ TakesBy (patternOf a) line := by
  unfold Handler.Takes TakesBy
  rw [binds.parsed,binds.parameter,binds.pattern]
  cases (patternOf a).2 with
  | none => simp
  | some parameter => simp

theorem takesMatches (takes : h.Takes line) : h.Matches line := by
  unfold Handler.Takes at takes
  unfold Handler.Matches
  split at takes
  · rename_i parsed
    obtain ⟨parameter,value,given,_,same⟩ := takes
    rw [if_pos parsed]
    exact ⟨parameter,value,given,same⟩
  · rename_i plain
    rwa [if_neg plain]

theorem takesFramed (named : a.Named) (given : a.kind.isParameterized) (value : Text) :
    TakesBy (patternOf a) (lead a ++ value ++ tail a) ↔ value ≠ [] := by
  have field : field (parameterOf a.kind) = .char '\x7b' :: (parameterOf a.kind ++ Text.ofString "\x7d") := rfl
  have front : CodePoint.char '\x7b' ∉ lead a := fun inside => leadSigns inside (by decide)
  have back : CodePoint.char '\x7b' ∉ tail a := fun inside => tailSigns named inside (by decide)
  simp only [patternFramed given,TakesBy,field,Text.replaceOnce front back]
  constructor
  · rintro ⟨other,full,same⟩
    rwa [List.append_cancel_left (List.append_cancel_right same)]
  · exact fun full => ⟨value,full,rfl⟩

theorem patternHandler {shown : List Action} {hs : List Handler} (known : ∀ a ∈ shown, a.isNavigation = false ∧ a.Named)
    (binds : List.Forall₂ Binds (firstsBy patternText shown) hs) (member : a ∈ shown) :
    ∃ h ∈ hs, ∀ line, Accepts (patternOf a) line → ∀ g ∈ hs, g.Takes line ↔ g = h ∧ TakesBy (patternOf a) line := by
  obtain ⟨b,first,same⟩ := List.mem_map.mp (keysOfFirsts.mpr (List.mem_map_of_mem (f := patternText) member))
  obtain ⟨element,named⟩ := known a member
  obtain ⟨elementOfFirst,namedFirst⟩ := known b ((firstsSublist _ _).subset first)
  have pattern := sameParameter namedFirst named elementOfFirst element same
  obtain ⟨h,bound,bindsFirst⟩ := rightRelated binds b first
  refine ⟨h,bound,fun line accepts g among => ?_⟩
  have takes : h.Takes line ↔ TakesBy (patternOf a) line := pattern ▸ bindsTakes bindsFirst line
  have hits : h.Matches line := (bindsMatches bindsFirst line).mpr (pattern ▸ accepts)
  constructor
  · intro taken
    have one : g = h := (lineAnswered known binds member accepts).unique ⟨among,takesMatches taken⟩ ⟨bound,hits⟩
    exact ⟨one,takes.mp (one ▸ taken)⟩
  · rintro ⟨rfl,taken⟩
    exact takes.mpr taken

end handlers

section cells
variable {e : Feature.Examples} {line column value : Text}

theorem cellFound (found : cellOf? e line = some (column,value)) :
    (column,value) ∈ e.columns.zip (e.values.map Value.shown) ∧ line.contains (placeholder column) :=
  ⟨List.mem_of_find?_eq_some found,List.find?_some (p := fun cell : Text × Text => line.contains (placeholder cell.1)) found⟩

theorem cellNone (sizes : e.columns.length = e.values.length) (none : cellOf? e line = none) (member : column ∈ e.columns) :
    line.contains (placeholder column) = false := by
  have whole : (e.columns.zip (e.values.map Value.shown)).map Prod.fst = e.columns :=
    List.map_fst_zip (Nat.le_of_eq (by rw [List.length_map,sizes]))
  rw [← whole] at member
  obtain ⟨cell,inside,rfl⟩ := List.mem_map.mp member
  exact Bool.eq_false_iff.mpr (List.find?_eq_none.mp none cell inside)

theorem concreteSome (found : cellOf? e line = some (column,value)) :
    concrete e line = line.replace (placeholder column) value := by
  rw [concrete,found]

theorem concreteNone (none : cellOf? e line = none) : concrete e line = line := by rw [concrete,none]

end cells

structure Served (all : List Handler) (e : Feature.Examples) (s : Feature.Step) : Prop where
  single : ∀ column ∈ e.columns, ∀ other ∈ e.columns,
    s.text.contains (placeholder column) → s.text.contains (placeholder other) → column = other
  plain : cellOf? e s.text = none →
    ∃ h, (h ∈ all ∧ .when ∈ h.types) ∧ ∀ g ∈ all, .when ∈ g.types → (g.Takes s.text ↔ g = h)
  filled : ∀ column value, cellOf? e s.text = some (column,value) → ∃ h, (h ∈ all ∧ .when ∈ h.types) ∧
    ∀ t, ∀ g ∈ all, .when ∈ g.types → (g.Takes (s.text.replace (placeholder column) t) ↔ g = h ∧ t ≠ [])

section lines
variable {all hs : List Handler} {shown : List Action} {e : Feature.Examples} {a : Action} {s : Feature.Step}
  (known : ∀ a ∈ shown, Element a) (binds : List.Forall₂ Binds (firstsBy patternText shown) hs)
  (whens : ∀ h, h ∈ all ∧ .when ∈ h.types ↔ h ∈ hs)

theorem plainDescribed (known : Element a) (plain : a.kind.isParameterized = false) (describes : Feature.Describes e.columns a s) :
    TakesBy (patternOf a) s.text ∧ ∀ column, s.text.contains (placeholder column) = false := by
  obtain ⟨_,_,text⟩ := describes.line
  rw [text,linePlain plain]
  refine ⟨?_,fun _ => placeholderNone fun _ => phraseSigns known.named known.element plain⟩
  rw [patternPlain plain]
  exact rfl

theorem typedDescribed (known : Element a) (given : a.kind.isParameterized) (describes : Feature.Describes e.columns a s) :
    ∃ name ∈ e.columns, (∀ column, s.text.contains (placeholder column) ↔ column = name) ∧
      ∀ t, s.text.replace (placeholder name) t = lead a ++ t ++ tail a := by
  obtain ⟨name,has,full,text⟩ := describedTyped known.named given describes
  have member : name ∈ e.columns := by cases has <;> assumption
  have key : placeholder name = .char '<' :: (name ++ Text.ofString ">") := rfl
  have opens : IsBracket (.char '<') := by decide
  rw [text,lineFramed given full]
  refine ⟨name,member,fun column => ⟨?_,?_⟩,fun t => ?_⟩
  · exact placeholderOnce (fun _ => leadSigns) (fun _ => tailSigns known.named) fun _ => columnSigns known.integer has
  · rintro rfl
    exact Text.containsOf _ _ _
  · rw [key,Text.replaceOnce (fun there => leadSigns there opens) (fun there => tailSigns known.named there opens)]

include known binds whens

theorem plainServed (member : a ∈ shown) (plain : a.kind.isParameterized = false) (describes : Feature.Describes e.columns a s) :
    Served all e s := by
  obtain ⟨taken,absent⟩ := plainDescribed (known a member) plain describes
  obtain ⟨h,bound,handler⟩ := patternHandler (fun a among => ⟨(known a among).element,(known a among).named⟩) binds member
  have accepts : Accepts (patternOf a) s.text := by
    rw [patternPlain plain] at taken ⊢
    exact taken
  exact {
    single := by
      intro column _ _ _ here
      rw [absent column] at here
      contradiction
    plain := fun _ => ⟨h,(whens h).mpr bound,fun g among types => by
      rw [handler s.text accepts g ((whens g).mp ⟨among,types⟩),and_iff_left taken]⟩
    filled := by
      intro column value found
      have stands := (cellFound found).2
      rw [absent column] at stands
      contradiction }

theorem typedServed (sizes : e.columns.length = e.values.length) (member : a ∈ shown) (typed : a.kind.isParameterized)
    (describes : Feature.Describes e.columns a s) : Served all e s := by
  obtain ⟨name,listed,only,replaced⟩ := typedDescribed (known a member) typed describes
  have named := (known a member).named
  obtain ⟨h,bound,handler⟩ := patternHandler (fun a among => ⟨(known a among).element,(known a among).named⟩) binds member
  exact {
    single := fun column _ other _ here there => ((only column).mp here).trans ((only other).mp there).symm
    plain := by
      intro none
      have absent := cellNone sizes none listed
      rw [(only name).mpr rfl] at absent
      contradiction
    filled := by
      intro column value found
      obtain rfl := (only column).mp (cellFound found).2
      refine ⟨h,(whens h).mpr bound,fun t g among types => ?_⟩
      have accepts : Accepts (patternOf a) (lead a ++ t ++ tail a) := (acceptsFramed named typed).mpr ⟨t,rfl⟩
      rw [replaced t,handler _ accepts g ((whens g).mp ⟨among,types⟩),takesFramed named typed] }

omit known binds whens

theorem servedConcrete (served : Served all e s) : (∃ h ∈ all, .when ∈ h.types ∧ h.Takes (concrete e s.text)) ↔
    ∀ column value, cellOf? e s.text = some (column,value) → value ≠ [] := by
  cases found : cellOf? e s.text with
  | none =>
    obtain ⟨h,⟨bound,types⟩,takes⟩ := served.plain found
    rw [concreteNone found]
    exact iff_of_true ⟨h,bound,types,(takes h bound types).mpr rfl⟩ (by simp)
  | some cell =>
    obtain ⟨column,value⟩ := cell
    obtain ⟨h,⟨bound,types⟩,takes⟩ := served.filled column value found
    rw [concreteSome found]
    constructor
    · rintro ⟨g,among,when,taken⟩ _ _ same
      obtain ⟨rfl,rfl⟩ := Prod.mk.inj (Option.some.inj same)
      exact ((takes value g among when).mp taken).2
    · exact fun full => ⟨h,bound,types,(takes value h bound types).mpr ⟨rfl,full column value rfl⟩⟩

end lines

/- The scenario of a recording, line by line: each is served, with what was recorded where it has a
column, and runs unless that is empty. -/
structure Runs (actions : List Action) (d : Documents) (b : Feature.Block) : Prop where
  block : d.specification.blocks = [b]
  behavior : d.specification.behavior = b.steps
  served : ∀ s ∈ b.steps, Served d.steps.handlers b.examples s
  values : ∀ s ∈ b.steps, ∀ column value, cellOf? b.examples s.text = some (column,value) →
    ∃ a ∈ actions, s.action = some a.id ∧ s.text = Feature.behaviorText a (some column) ∧ value = (Feature.recorded a.value).shown
  taken : ∀ s ∈ b.steps, (∃ h ∈ d.steps.handlers, .when ∈ h.types ∧ h.Takes (concrete b.examples s.text)) ↔
    ∀ column value, cellOf? b.examples s.text = some (column,value) → value ≠ []

section documents
variable {actions owners : List Action} {baseUrl : Value} {className : Text} {storyKey pageUrl : Value} {l : Layout}
  {d : Documents} {c : Context} {b : Feature.Block} {s : Feature.Step} {column value : Text}

theorem orderedCell (ordered : Feature.Ordered owners d b) (member : s ∈ b.steps)
    (found : cellOf? b.examples s.text = some (column,value)) :
    ∃ a ∈ owners, s.action = some a.id ∧ s.text = Feature.behaviorText a (some column) ∧ value = (Feature.recorded a.value).shown := by
  obtain ⟨entries,actions,columns,values,_,holds⟩ := ordered.table
  obtain ⟨listed,stands⟩ := cellFound found
  rw [columns,values,List.map_map,List.zip_map'] at listed
  obtain ⟨e,entry,same⟩ := List.mem_map.mp listed
  obtain ⟨rfl,rfl⟩ := Prod.mk.inj same
  obtain ⟨about,line,_,recorded,elsewhere⟩ := holds e entry
  have own : s = e.line := by
    by_contra other
    have inside : s ∈ d.specification.precondition.toList ++ b.steps ++ d.specification.closing.toList :=
      List.mem_append_left _ (List.mem_append_right _ member)
    rw [elsewhere s inside other] at stands
    contradiction
  have owner : e.action ∈ owners.filter (·.kind.isParameterized) := actions ▸ List.mem_map_of_mem entry
  refine ⟨e.action,(List.mem_filter.mp owner).1,?_,?_,?_⟩
  · rw [own,about]
  · rw [own,line]
  · rw [Function.comp_apply,recorded]

theorem documentsRun (named : ∀ a ∈ actions, a.Named) (given : Numbered actions)
    (ok : documentsOfActions actions baseUrl className storyKey pageUrl l = .ok (d,c))
    (ordered : Feature.Ordered (c.shown (inOrder actions)) d b) : Runs actions d b := by
  obtain ⟨c₀,ready,shows⟩ := documentsOfActionsOk named given ok
  obtain ⟨known,_,_⟩ := ownersKnown ready given
  obtain ⟨opening,hs,closing,handlers,opens,binds,closes⟩ := shows.handlers
  obtain ⟨block,blocks,described,part,lines⟩ := shows.block
  obtain rfl : block = b := List.singleton_inj.mp (blocks.symm.trans ordered.block)
  have whens := whenHandlers opens binds closes
  rw [← handlers] at whens
  have served : ∀ s ∈ block.steps, Served d.steps.handlers block.examples s := by
    intro s member
    obtain ⟨a,among,describes⟩ := leftRelated lines s member
    cases typed : a.kind.isParameterized with
    | true => exact typedServed known binds whens ordered.sizes (part.subset among) typed describes
    | false => exact plainServed known binds whens (part.subset among) typed describes
  exact {
    block := ordered.block
    behavior := ordered.behavior
    served
    values := by
      intro s member column value found
      obtain ⟨a,owner,holds⟩ := orderedCell ordered member found
      exact ⟨a,memInOrder.mp (Context.memShown owner).1,holds⟩
    taken := fun s member => servedConcrete (served s member) }

end documents

theorem sessionRuns (table : List Recording.Shape) (recording featureName : Text) (baseUrl storyKey pageUrl : Value) (l : Layout)
    {d : Documents} {c : Context} (ok : documentsOfActions (Feature.sessionActions table recording) baseUrl
      (Naming.className featureName) storyKey pageUrl l = .ok (d,c)) :
    ∃ b, Runs (Feature.sessionActions table recording) d b := by
  have named : ∀ a ∈ Feature.sessionActions table recording, a.Named := Page.namedAll
  have numbered : Numbered (Feature.sessionActions table recording) :=
    Page.numberedResolve (Recording.numberedTranscript _)
  obtain ⟨b,ordered⟩ := Feature.documentsOrdered named numbered (fun a member => (Feature.sessionPlain a member).1)
    (fun a member => (Feature.sessionPlain a member).2) (Naming.classNameAlnum featureName) ok
  exact ⟨b,documentsRun named numbered ok ordered⟩

theorem recordingRuns (table : List Recording.Shape) (recording featureName : Text) (baseUrl storyKey pageUrl : Value)
    (l : Layout) :
    (∃ f, Page.pathFor (Page.addressOf (Feature.sessionActions table recording) pageUrl) baseUrl = .error f ∧
      documentsOfActions (Feature.sessionActions table recording) baseUrl (Naming.className featureName) storyKey pageUrl l
        = .error f) ∨
    ∃ d c b, documentsOfActions (Feature.sessionActions table recording) baseUrl (Naming.className featureName) storyKey
        pageUrl l = .ok (d,c) ∧ Runs (Feature.sessionActions table recording) d b := by
  refine (documentsOfActionsEnd (Feature.sessionActions table recording) baseUrl (Naming.className featureName) storyKey
    pageUrl l).imp_right ?_
  rintro ⟨d,c,ok⟩
  obtain ⟨b,runs⟩ := sessionRuns table recording featureName baseUrl storyKey pageUrl l ok
  exact ⟨d,c,b,ok,runs⟩

def clearedRecording : Text := "fill('#email', '')"

theorem clearedTable : ∃ d c b,
    documentsOfActions (Feature.sessionActions Recording.defaultShapes clearedRecording) (.text []) (Naming.className "login")
      (.text "K-1") (.text "/") { outputDir := "out", className := [] } = .ok (d,c) ∧ d.specification.blocks = [b] ∧
    d.specification.behavior.map (·.text) = ["user enters \"<email>\" into email"] ∧
    b.examples.columns = ["email"] ∧ b.examples.values.map Value.shown = [[]] := by
  have sorted : inOrder (Feature.sessionActions Recording.defaultShapes clearedRecording) =
      Feature.sessionActions Recording.defaultShapes clearedRecording := List.mergeSort_of_pairwise (by decide)
  rw [documentsOfActions,Page.buildOnPath,givenPath]
  refine ⟨_,_,_,rfl,rfl,?_,?_,?_⟩
  all_goals
    simp only [sorted]
    decide

theorem clearedUndefined : ∃ d c b,
    documentsOfActions (Feature.sessionActions Recording.defaultShapes clearedRecording) (.text []) (Naming.className "login")
      (.text "K-1") (.text "/") { outputDir := "out", className := [] } = .ok (d,c) ∧ d.specification.blocks = [b] ∧
    ∃ s ∈ d.specification.behavior, concrete b.examples s.text = "user enters \"\" into email" ∧
      ∀ h ∈ d.steps.handlers, .when ∈ h.types → ¬ h.Takes (concrete b.examples s.text) := by
  obtain ⟨d,c,b,ok,block,lines,columns,values⟩ := clearedTable
  obtain ⟨own,runs⟩ := sessionRuns Recording.defaultShapes clearedRecording "login" _ _ _ _ ok
  obtain rfl : own = b := List.singleton_inj.mp (runs.block.symm.trans block)
  have listed : Text.ofString "user enters \"<email>\" into email" ∈ d.specification.behavior.map (·.text) := by
    rw [lines]
    exact List.mem_singleton_self _
  obtain ⟨s,member,text⟩ := List.mem_map.mp listed
  have found : cellOf? own.examples s.text = some (Text.ofString "email",[]) := by
    rw [cellOf?,columns,values,text]
    decide
  refine ⟨d,c,own,ok,block,s,member,?_,fun h bound types taken => ?_⟩
  · rw [concreteSome found,text]
    decide
  · have run := (runs.taken s (runs.behavior ▸ member)).mp ⟨h,bound,types,taken⟩
    exact run _ _ found rfl

end TestWeaver.Steps
