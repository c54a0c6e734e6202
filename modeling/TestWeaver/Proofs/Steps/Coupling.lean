import TestWeaver.Proofs.Steps.Calls
import TestWeaver.Proofs.Steps.Scenario

/-! The three documents of a recording against each other. The page has a method for every owner,
the scenario a line for every owner but those whose plain line was there before, and the steps a
handler for the first owner of every pattern. The three gates have three keys; two of them agree
on plain lines, and a column of its own keeps the line of a fill or a select. -/
namespace TestWeaver.Steps
open TestWeaver.Action Generation

def isFirst (owners : List Action) (a : Action) : Bool := owners.all fun b => !decide (Alike b a) || a.id.le b.id

def hasLine (owners : List Action) (a : Action) : Bool := a.kind.isParameterized || isFirst owners a

section owners
variable {owners : List Action} {a : Action}

theorem firstIff : isFirst owners a ↔ ∀ b ∈ owners, Alike b a → a.id.le b.id := by
  simp only [isFirst,List.all_eq_true,Bool.or_eq_true,Bool.not_eq_true',decide_eq_false_iff_not]
  exact forall₂_congr fun b _ => Decidable.imp_iff_not_or.symm

theorem ownersWithLines (known : ∀ a ∈ owners, Element a) (sorted : owners.Pairwise Before) (numbered : Numbered owners) :
    firstsBy lineKey owners = owners.filter (hasLine owners) := by
  rw [Page.firstsAreLowest sorted]
  apply List.filter_congr
  intro a member
  have self : a.id.le a.id := by simpa using Ordinal.leTotal a.id a.id
  rw [Bool.eq_iff_iff,Page.lowestIff,hasLine,Bool.or_eq_true,firstIff]
  constructor
  · intro lowest
    cases given : a.kind.isParameterized with
    | true => exact .inl rfl
    | false =>
      refine .inr fun b among alike => lowest b among ?_
      have plain : b.kind.isParameterized = false := alike.1 ▸ given
      rw [lineKeyPlain plain,lineKeyPlain given,(patternAlike (known b among) (known a member)).mpr alike]
  · intro line b among same
    rcases lineKeySame (known b among) (known a member) same with number | ⟨_,plain,alike⟩
    · rw [numberedSame numbered among member number]
      exact self
    · rcases line with given | first
      · rw [plain] at given
        contradiction
      · exact first b among alike

theorem ownersWithHandlers (known : ∀ a ∈ owners, Element a) (sorted : owners.Pairwise Before) (member : a ∈ owners)
    (first : isFirst owners a) : a ∈ firstsBy patternText owners := by
  rw [Page.firstsAreLowest sorted,List.mem_filter,Page.lowestIff]
  refine ⟨member,fun b among same => firstIff.mp first b among ?_⟩
  exact (patternAlike (known b among) (known a member)).mp same

end owners

structure Coupled (owners : List Action) (d : Documents) : Prop where
  methods : d.page.methods.map (·.name) = Naming.navigationMethod :: owners.map (·.names.method)
  apart : (d.page.methods.map (·.name)).Nodup ∧ (owners.map (·.id)).Nodup
  lines : d.specification.behavior.map (·.action) = (owners.filter (hasLine owners)).map fun a => some a.id
  answers : ∀ b ∈ d.specification.blocks, ∀ s ∈ b.steps, ∀ a ∈ owners, s.action = some a.id →
    ∀ line, Filled b.examples.columns s.text line →
      ∃ h, (h ∈ d.steps.handlers ∧ .when ∈ h.types ∧ h.Matches line) ∧
        (∀ g ∈ d.steps.handlers, .when ∈ g.types → g.Matches line → g = h) ∧
        ((a.kind.isParameterized → isFirst owners a) → h.method = some a.names.method)
  used : ∀ a ∈ owners, isFirst owners a → a.names.method ∈ d.steps.referenced

section documents
variable {actions : List Action} {baseUrl : Value} {className : Text} {storyKey pageUrl : Value} {l : Layout}
  {d : Documents} {c c₀ c₁ : Context}

theorem documentsParts (ok : documentsOfActions actions baseUrl className storyKey pageUrl l = .ok (d,c)) :
    ∃ path c₀ c₁, Page.Module.ofActions {} actions className storyKey path = (d.page,c₀) ∧
      Feature.Document.ofActions c₀ actions className storyKey = (d.specification,c₁) ∧
      Module.ofActions c₁ actions l = (d.steps,c) := by
  rw [documentsOfActions,Page.buildOnPath] at ok
  cases found : Page.pathFor (Page.addressOf actions pageUrl) baseUrl with
  | error failure => simp [found,Except.map,bind,Except.bind] at ok
  | ok path =>
    rw [found] at ok
    cases Except.ok.inj ok
    exact ⟨path,_,_,rfl,rfl,rfl⟩

theorem shownLater (described : Feature.Document.ofActions c₀ actions className storyKey = (d.specification,c₁))
    (bound : Module.ofActions c₁ actions l = (d.steps,c)) (xs : List Action) :
    c₁.shown xs = c₀.shown xs ∧ c.shown xs = c₀.shown xs := by
  have first := Feature.ofActionsOnly c₀ actions className storyKey
  have next := ofActionsOnly c₁ actions l
  rw [described] at first
  rw [bound] at next
  exact ⟨Context.onlyAtShown first xs,(Context.onlyAtShown next xs).trans (Context.onlyAtShown first xs)⟩

theorem ownersKnown {page : Page.Module} (ready : Ready actions page c₀) (given : Numbered actions) :
    (∀ a ∈ c₀.shown (inOrder actions), Element a) ∧ (c₀.shown (inOrder actions)).Pairwise Before ∧
      Numbered (c₀.shown (inOrder actions)) := by
  have part : (c₀.shown (inOrder actions)).Sublist (inOrder actions) := List.filter_sublist
  have whole := numberedPerm (inOrderPerm actions).symm given
  have numbered : Numbered (c₀.shown (inOrder actions)) :=
    ⟨fun a member => whole.integers a (part.subset member),whole.distinct.sublist part⟩
  refine ⟨fun a member => ?_,(inOrderBefore given).sublist part,numbered⟩
  exact ⟨(ready.known a member).2.1,(ready.known a member).2.2,numbered.integers a member⟩

theorem ownersLined {owners : List Action} (owns : c₀.shown (inOrder actions) = owners)
    (unseen : c₀.seen .specification .step = []) (known : ∀ a ∈ owners, Element a) (numbered : Numbered owners)
    (described : Feature.Document.ofActions c₀ actions className storyKey = (d.specification,c₁)) :
    ∃ b, d.specification.blocks = [b] ∧ List.Forall₂ (Feature.Describes b.examples.columns) (firstsBy lineKey owners) b.steps := by
  have start : Lined [] { name := "Complete " ++ className ++ " workflow" } c₀ :=
    ⟨unseen,.nil,by simp⟩
  obtain ⟨last,lined⟩ := @addActionsLined _ _ _ (inOrder actions) start (by rw [owns]; exact known)
    (by rw [owns]; exact numbered.distinct)
  rw [List.nil_append,owns] at lined
  refine ⟨_,?_,lined.lines⟩
  rw [show d.specification = (Feature.Document.ofActions c₀ actions className storyKey).1 by rw [described]]
  rfl

theorem linesAbout {owners : List Action} {columns : List Text} {steps : List Feature.Step}
    (lines : List.Forall₂ (Feature.Describes columns) owners steps) :
    steps.map (·.action) = owners.map fun a => some a.id := by
  induction lines with
  | nil => rfl
  | cons here _ ih => rw [List.map_cons,List.map_cons,here.about,ih]

theorem behaviorSteps {owners : List Action} {b : Feature.Block} (blocks : d.specification.blocks = [b])
    (lines : List.Forall₂ (Feature.Describes b.examples.columns) owners b.steps) :
    d.specification.behavior = b.steps := by
  rw [Feature.Document.behavior,blocks,List.flatMap_singleton,List.filter_eq_self]
  intro s member
  obtain ⟨a,_,describes⟩ := leftRelated lines s member
  rw [describes.about]
  rfl

theorem whenHandlers {opening closing : Handler} {hs : List Handler} {owners : List Action} (opens : Opens l opening)
    (binds : List.Forall₂ Binds owners hs) (closes : Closes closing) (h : Handler) :
    h ∈ opening :: hs ++ [closing] ∧ .when ∈ h.types ↔ h ∈ hs := by
  rw [List.mem_append,List.mem_cons,List.mem_singleton]
  constructor
  · rintro ⟨(rfl | bound) | rfl,types⟩
    · simp [opens.types] at types
    · exact bound
    · simp [closes.types] at types
  · intro bound
    obtain ⟨a,_,binds⟩ := leftRelated binds h bound
    exact ⟨.inl (.inr bound),by simp [binds.types]⟩

theorem lineOwner {owners : List Action} {columns : List Text} {steps : List Feature.Step} {a : Action} {s : Feature.Step}
    (numbered : Numbered owners) (lines : List.Forall₂ (Feature.Describes columns) (firstsBy lineKey owners) steps)
    (inside : s ∈ steps) (owner : a ∈ owners) (about : s.action = some a.id) :
    a ∈ firstsBy lineKey owners ∧ Feature.Describes columns a s := by
  obtain ⟨e,among,describes⟩ := leftRelated lines s inside
  have same : e = a := by
    refine numberedSame numbered ((firstsSublist _ _).subset among) owner ?_
    rw [Option.some.inj (describes.about.symm.trans about)]
    exact Ordinal.isSameSelf a.id
  exact ⟨same ▸ among,same ▸ describes⟩

/- A line runs the method of its own action, unless a fill or a select is behind an alike owner. -/
theorem lineRuns {owners : List Action} {hs : List Handler} {columns : List Text} {a : Action} {s : Feature.Step} {line : Text}
    (known : ∀ a ∈ owners, Element a) (sorted : owners.Pairwise Before) (numbered : Numbered owners)
    (binds : List.Forall₂ Binds (firstsBy patternText owners) hs) (lined : a ∈ firstsBy lineKey owners)
    (describes : Feature.Describes columns a s) (filled : Filled columns s.text line) :
    ∃ h, (h ∈ hs ∧ h.Matches line) ∧ (∀ g, g ∈ hs → g.Matches line → g = h) ∧
      ((a.kind.isParameterized → isFirst owners a) → h.method = some a.names.method) := by
  have member := (firstsSublist _ _).subset lined
  have here := known a member
  have accepts := describedAccepts here.named here.element here.integer describes filled
  have resolved : ∀ a ∈ owners, a.isNavigation = false ∧ a.Named := fun a among => ⟨(known a among).element,(known a among).named⟩
  obtain ⟨h,⟨bound,hits⟩,unique⟩ := lineAnswered resolved binds member accepts
  refine ⟨h,⟨bound,hits⟩,fun g among matched => unique g ⟨among,matched⟩,fun given => ?_⟩
  have first : isFirst owners a := by
    rw [ownersWithLines known sorted numbered,List.mem_filter] at lined
    rcases Bool.or_eq_true_iff.mp lined.2 with parameterized | plain
    · exact given parameterized
    · exact plain
  obtain ⟨own,among,bindsOwn⟩ := rightRelated binds a (ownersWithHandlers known sorted member first)
  rw [← unique own ⟨among,(bindsMatches bindsOwn line).mpr accepts⟩]
  exact bindsOwn.method

theorem documentsCoupled (named : ∀ a ∈ actions, a.Named) (given : Numbered actions)
    (ok : documentsOfActions actions baseUrl className storyKey pageUrl l = .ok (d,c)) :
    Coupled (c.shown (inOrder actions)) d := by
  obtain ⟨path,c₀,c₁,made,described,bound⟩ := documentsParts ok
  have ready := readyOfActions named given made
  obtain ⟨owns₁,owns⟩ := shownLater described bound (inOrder actions)
  rw [owns]
  obtain ⟨known,sorted,numbered⟩ := ownersKnown ready given
  obtain ⟨b,blocks,lines⟩ := ownersLined rfl (ready.unseen .specification .step (by decide)) known numbered described
  have unseen : c₁.seen .glue .step = [] := by
    have only := Feature.ofActionsOnly c₀ actions className storyKey
    rw [described] at only
    rw [only.others .glue .step (by decide),ready.unseen .glue .step (by decide)]
  obtain ⟨opening,hs,closing,handlers,opens,binds,closes⟩ := ofActionsHandlers (l := l) unseen
    fun a member => (known a (owns₁ ▸ member)).named
  rw [bound] at handlers
  rw [owns₁] at binds
  have whens := whenHandlers opens binds closes
  rw [← handlers] at whens
  exact {
    methods := by
      rw [Page.madeReference named given made,Page.methodNamesOf,Page.shownLowest named given made]
    apart := by
      refine ⟨ready.names,List.pairwise_map.mpr (numbered.distinct.imp ?_)⟩
      intro e f other same
      rw [same,Ordinal.isSameSelf] at other
      contradiction
    lines := by rw [behaviorSteps blocks lines,linesAbout lines,ownersWithLines known sorted numbered]
    answers := by
      intro block member s inside a owner about line filled
      rw [blocks,List.mem_singleton] at member
      subst member
      obtain ⟨lined,describes⟩ := lineOwner numbered lines inside owner about
      obtain ⟨h,⟨listed,hits⟩,unique,method⟩ := lineRuns known sorted numbered binds lined describes filled
      obtain ⟨member,types⟩ := (whens h).mpr listed
      exact ⟨h,⟨member,types,hits⟩,fun g member types => unique g ((whens g).mp ⟨member,types⟩),method⟩
    used := by
      intro a owner first
      obtain ⟨h,listed,bindsOwn⟩ := rightRelated binds a (ownersWithHandlers known sorted owner first)
      refine List.mem_filterMap.mpr ⟨h,((whens h).mpr listed).1,?_⟩
      simp [bindsOwn.method,methodFull (known a owner).named] }

end documents

theorem recordingCoupled (table : List Recording.Shape) (recording featureName : Text)
    (baseUrl storyKey pageUrl : Value) (l : Layout) (d : Documents) (c : Context)
    (ok : documentsOfActions ((Recording.Transcript.ofText table recording).actions.map resolve) baseUrl
      (Naming.className featureName) storyKey pageUrl l = .ok (d,c)) :
    Coupled (c.shown (inOrder ((Recording.Transcript.ofText table recording).actions.map resolve))) d :=
  documentsCoupled Page.namedAll (Page.numberedResolve (Recording.numberedTranscript _)) ok

theorem givenPath (actions : List Action) : Page.pathFor (Page.addressOf actions (.text "/")) (.text []) = .ok (Text.ofString "/") := by
  simp only [Page.addressOf]
  decide

theorem searchCoupled : ∃ d c,
    documentsOfActions ((Recording.Transcript.ofText Recording.defaultShapes searchRecording).actions.map resolve)
      (.text []) (Naming.className "search page") (.text "K-1") (.text "/")
      { outputDir := "out", className := Naming.className "search page" } = .ok (d,c) ∧
    Coupled (c.shown (inOrder ((Recording.Transcript.ofText Recording.defaultShapes searchRecording).actions.map resolve))) d := by
  obtain ⟨d,c,ok⟩ := documentsOfActionsMade (givenPath _)
  exact ⟨d,c,ok,recordingCoupled _ _ "search page" _ _ _ _ d c ok⟩

def twinRecording : Text := "click('text=a b')\nclick('text=ab')"

theorem twinUnused : ∃ d c,
    documentsOfActions ((Recording.Transcript.ofText Recording.defaultShapes twinRecording).actions.map resolve)
      (.text []) (Naming.className "twins") (.text "K-1") (.text "/")
      { outputDir := "out", className := Naming.className "twins" } = .ok (d,c) ∧
    d.page.methods.map (·.name) = ["navigateTo","clickAB","clickAb"] ∧
    d.specification.behavior.map (·.action) = [some (.whole 1)] ∧
    d.steps.referenced = ["navigateTo","clickAB"] := by
  have sorted : inOrder ((Recording.Transcript.ofText Recording.defaultShapes twinRecording).actions.map resolve) =
      (Recording.Transcript.ofText Recording.defaultShapes twinRecording).actions.map resolve :=
    List.mergeSort_of_pairwise (by decide +kernel)
  rw [documentsOfActions,Page.buildOnPath,givenPath]
  refine ⟨_,_,rfl,?_,?_,?_⟩
  all_goals
    simp only [sorted]
    decide +kernel

end TestWeaver.Steps
