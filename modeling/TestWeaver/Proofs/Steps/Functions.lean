import TestWeaver.Proofs.Feature.Keywords
import TestWeaver.Proofs.Naming.Classes
import TestWeaver.Proofs.Requirement.Binding
import TestWeaver.Proofs.Steps.Names

/-! The functions of the steps of a story. Every one has a name of its own, apart from the fixture and
the class of the page. Nothing keeps a name from being a word of the language or one that the module
relies on, and it is one just where a line of the story says that word alone. -/
namespace TestWeaver.Steps
open TestWeaver.Action Generation

def languageWords : List Text := ["False","None","True","and","as","assert","async","await","break","class","continue",
  "def","del","elif","else","except","finally","for","from","global","if","import","in","is","lambda","nonlocal","not",
  "or","pass","raise","return","try","while","with","yield"]

def boundNames : List Text := ["logger","logging","pytest","given","when","then","parsers","scenarios"]

def reservedWords : List Text := languageWords ++ boundNames

theorem reservedWord {w : Text} (member : w ∈ reservedWords) : Word w ∧ w ≠ "page" := by
  have all : ∀ w ∈ reservedWords, Word w ∧ w ≠ "page" := by decide
  exact all w member

section run
variable {m : Module} {c : Context} {named : List (Text × Action)} {uses : StepUses}

theorem takenAdd (m : Module) (h : Handler) : (m.add h).taken = m.taken ++ [h.function] := by simp [Module.taken,Module.add]

theorem handlerFunction (named : List (Text × Action)) (taken : List Text) (text : Text) (types : List StepType) :
    (handlerOf named taken text types).function = freshName taken text := by
  unfold handlerOf
  dsimp only
  split
  · rfl
  · split <;> rfl

theorem addUsesStep (m : Module) (c : Context) (named : List (Text × Action)) (text : Text) (types : List StepType)
    (rest : StepUses) :
    (text ∈ c.seen .glue .step ∧ ∃ d, m.addUses c named ((text,types) :: rest) = m.addUses d named rest ∧
      d.seen .glue .step = c.seen .glue .step) ∨
    ∃ d h, m.addUses c named ((text,types) :: rest) = (m.add h).addUses d named rest ∧
      h.function = freshName m.taken text ∧ d.seen .glue .step = c.seen .glue .step ++ [text] := by
  by_cases seen : text ∈ c.seen .glue .step
  · refine .inl ⟨seen,(c.emit .glue .step text).2,?_,?_⟩
    · rw [Module.addUses,Context.emitSeen seen]
      rfl
    · rw [Context.emitSeen seen]
      rfl
  · refine .inr ⟨(c.emit .glue .step text).2,_,?_,handlerFunction named m.taken text types,?_⟩
    · rw [Module.addUses,Context.emitFresh seen]
      rfl
    · rw [Context.emitFresh seen,Context.seenGrown rfl]
      rfl

theorem addUsesKeeps (m : Module) (c : Context) (named : List (Text × Action)) (uses : StepUses) :
    (m.addUses c named uses).1.fixture = m.fixture ∧ (m.addUses c named uses).1.pageClass = m.pageClass ∧
      m.taken ⊆ (m.addUses c named uses).1.taken := by
  induction uses generalizing m c with
  | nil => exact ⟨rfl,rfl,fun _ member => member⟩
  | cons use rest ih =>
    obtain ⟨text,types⟩ := use
    rcases addUsesStep m c named text types rest with ⟨_,d,same,_⟩ | ⟨d,h,same,_⟩
    · rw [same]
      exact ih m d
    · obtain ⟨fixture,pageClass,taken⟩ := ih (m.add h) d
      rw [same]
      exact ⟨fixture,pageClass,fun name member => taken (by rw [takenAdd]; exact List.mem_append_left _ member)⟩

theorem addUsesApart (apart : m.taken.Nodup) : (m.addUses c named uses).1.taken.Nodup := by
  induction uses generalizing m c with
  | nil => exact apart
  | cons use rest ih =>
    obtain ⟨text,types⟩ := use
    rcases addUsesStep m c named text types rest with ⟨_,d,same,_⟩ | ⟨d,h,same,function,_⟩
    · rw [same]
      exact ih apart
    · rw [same]
      apply ih
      obtain ⟨_,_,fresh,_⟩ := freshCandidate m.taken text
      rw [takenAdd,function]
      refine List.nodup_append.mpr ⟨apart,by simp,?_⟩
      rintro name member _ last rfl
      exact fresh (List.mem_singleton.mp last ▸ member)

theorem addUsesStems : ∀ use ∈ uses, use.1 ∈ c.seen .glue .step ∨ functionStem use.1 ∈ (m.addUses c named uses).1.taken := by
  induction uses generalizing m c with
  | nil => nofun
  | cons use rest ih =>
    obtain ⟨text,types⟩ := use
    rcases addUsesStep m c named text types rest with ⟨seen,d,same,kept⟩ | ⟨d,h,same,function,grown⟩
    · rw [same]
      exact List.forall_mem_cons.mpr ⟨.inl seen,fun use member => kept ▸ ih use member⟩
    · have stem : functionStem text ∈ ((m.add h).addUses d named rest).1.taken := by
        refine (addUsesKeeps (m.add h) d named rest).2.2 ?_
        rw [takenAdd,function]
        exact freshStem m.taken text
      rw [same]
      refine List.forall_mem_cons.mpr ⟨.inr stem,fun use member => ?_⟩
      rcases ih use member with before | taken
      · rw [grown] at before
        rcases List.mem_append.mp before with old | here
        · exact .inl old
        · exact .inr (List.mem_singleton.mp here ▸ stem)
      · exact .inr taken

end run

section words
variable {lead text w : Text}

theorem wordsBehind (ascii : ∀ p ∈ lead, p.value < 0x80) (rest : Text) :
    ∃ more, functionWords (lead ++ .char ' ' :: rest) = functionWords lead ++ more := by
  have space : (CodePoint.char ' ').small = .char ' ' := by decide
  have low : ∀ p ∈ lead ++ [CodePoint.char ' '], p.value < 0x80 := List.forall_mem_append.mpr ⟨ascii,by decide⟩
  have lower : Text.lower (lead ++ .char ' ' :: rest) = lead.map CodePoint.small ++ .char ' ' ::
      Text.lowerAfter (lead ++ [CodePoint.char ' ']).reverse rest := by
    have both := Text.lowerBehind low [] rest
    rw [List.append_assoc,List.map_append,List.append_assoc] at both
    rw [List.append_nil,List.map_singleton,space] at both
    exact both
  exact ⟨_,by rw [functionWords,lower,Text.runs,Text.runsBehind (by decide),functionWords,Text.lowerAscii ascii]; rfl⟩

theorem wordsMany (ascii : ∀ p ∈ lead, p.value < 0x80) (many : 2 ≤ (functionWords lead).length) (rest w : Text) :
    functionWords (lead ++ .char ' ' :: rest) ≠ [w] := by
  obtain ⟨more,words⟩ := wordsBehind ascii rest
  intro same
  have sizes := congrArg List.length same
  rw [words,List.length_append,List.length_singleton] at sizes
  omega

def arrivalText (className : Text) : Text := "navigate to " ++ className ++ " page"

theorem arrivalMany (className w : Text) : functionWords (arrivalText className) ≠ [w] := by
  have parts : arrivalText className =
      Text.ofString "navigate to" ++ CodePoint.char ' ' :: (className ++ Text.ofString " page") := by
    simp [arrivalText,Text.ofString]
  rw [parts]
  exact wordsMany (by decide) (by decide) _ w

theorem preconditionMany (className w : Text) : functionWords (Feature.preconditionText className) ≠ [w] := by
  have parts : Feature.preconditionText className =
      Text.ofString "user navigates to" ++ CodePoint.char ' ' :: (className ++ Text.ofString " page") := by
    simp [Feature.preconditionText,Text.ofString]
  rw [parts]
  exact wordsMany (by decide) (by decide) _ w

theorem madeMany {step : Text} (made : Requirement.Made step) (w : Text) :
    functionWords (Feature.Step.ofText step).text ≠ [w] := by
  have leads : ∀ lead ∈ Requirement.phraseLeads, (∀ p ∈ lead, p.value < 0x80) ∧ 2 ≤ (functionWords lead).length := by
    decide
  have phrase : ∀ {e : TestWeaver.Element} {p : Text}, p ∈ Requirement.phrasesOf e → functionWords p ≠ [w] := by
    intro e p phrase
    obtain ⟨lead,listed,rfl⟩ := Requirement.phraseParts phrase
    exact wordsMany (leads lead listed).1 (leads lead listed).2 e.name w
  cases made with
  | fixed member =>
    intro words
    have several := (Requirement.fixedSentences step member).several
    rw [words] at several
    exact absurd several (by simp)
  | acts known phrased => rw [(Requirement.phrasesKnown _ known _ phrased).first]; exact phrase phrased
  | goesOn known phrased => rw [(Requirement.phrasesKnown _ known _ phrased).later]; exact phrase phrased
  | expects criterion =>
    obtain ⟨y,split⟩ := Feature.expectedSplit (Requirement.expectedResult criterion)
    have parts : Text.ofString "the system should" ++ y =
        Text.ofString "the system" ++ CodePoint.char ' ' :: (Text.ofString "should" ++ y) := by
      simp [Text.ofString]
    rw [split,parts]
    exact wordsMany (by decide) (by decide) _ w

end words

section requirements
variable {r : Requirement} {c : Context} {actions : List Action} {l : Layout} {w : Text}

theorem startTaken (c : Context) (l : Layout) :
    (Module.start c l).1.taken = [l.pageModule,freshName [l.pageModule] (arrivalText l.className)] := by
  simp [Module.start,Module.taken,Module.add,Module.ofLayout,arrivalText]

theorem requirementApart (c : Context) (r : Requirement) (actions : List Action) (l : Layout) :
    (Module.ofRequirement c r actions l).1.taken.Nodup ∧ (Module.ofRequirement c r actions l).1.fixture = l.pageModule ∧
      (Module.ofRequirement c r actions l).1.pageClass = l.pageClass := by
  obtain ⟨fixture,pageClass,_⟩ := addUsesKeeps (Module.start c l).1 (Module.start c l).2
    (elementActions (Module.start c l).2 r actions) (usesOf r)
  obtain ⟨_,_,fresh,_⟩ := freshCandidate [l.pageModule] (arrivalText l.className)
  have apart : (Module.start c l).1.taken.Nodup := by
    rw [startTaken]
    simpa using Ne.symm (fun same => fresh (List.mem_singleton.mpr same))
  exact ⟨addUsesApart apart,fixture,pageClass⟩

theorem requirementNamed : ∀ h ∈ (Module.ofRequirement c r actions l).1.handlers, ∃ taken text,
    h.function = freshName taken text ∧ (text = arrivalText l.className ∨ text ∈ (usesOf r).map (·.1)) := by
  intro h member
  rcases addUsesHandlers h member with opening | ⟨taken,text,types,use,rfl⟩
  · have function : h.function ∈ (Module.start c l).1.taken.tail := List.mem_map_of_mem opening
    rw [startTaken,List.tail_cons,List.mem_singleton] at function
    exact ⟨_,_,function,.inl rfl⟩
  · exact ⟨taken,text,handlerFunction _ taken text types,.inr (List.mem_map_of_mem (f := (·.1)) use)⟩

theorem requirementSpelled : ∀ h ∈ (Module.ofRequirement c r actions l).1.handlers, Spelled h.function := by
  intro h member
  obtain ⟨taken,text,name,_⟩ := requirementNamed h member
  exact name ▸ freshSpelled taken text

theorem requirementWords (unseen : c.seen .glue .step = []) (word : Word w) (other : w ≠ l.pageModule) :
    (∃ h ∈ (Module.ofRequirement c r actions l).1.handlers, h.function = w) ↔
      ∃ text ∈ (usesOf r).map (·.1), functionWords text = [w] := by
  constructor
  · rintro ⟨h,member,named⟩
    obtain ⟨taken,text,name,rfl | used⟩ := requirementNamed h member
    · exact absurd (freshWord word (name.symm.trans named)) (arrivalMany l.className w)
    · exact ⟨text,used,freshWord word (name.symm.trans named)⟩
  · rintro ⟨text,used,words⟩
    obtain ⟨use,listed,rfl⟩ := List.mem_map.mp used
    rcases @addUsesStems (Module.start c l).1 (Module.start c l).2 (elementActions (Module.start c l).2 r actions) (usesOf r)
      use listed with seen | taken
    · rw [startSeen unseen l,List.mem_singleton] at seen
      exact absurd words (seen ▸ preconditionMany l.className w)
    · rw [(stemWord word).mpr words] at taken
      rcases List.mem_cons.mp taken with fixture | function
      · exact absurd (fixture.trans (requirementApart c r actions l).2.1) other
      · exact List.mem_map.mp function

end requirements

section pages
variable {name : Text}

theorem pageEnds (name : Text) : ∃ front, Naming.pageClass name = front ++ "Page" ∧ (Naming.Alnum name → Naming.Alnum front) := by
  unfold Naming.pageClass
  split
  · rename_i ends
    obtain ⟨front,same⟩ := List.isSuffixOf_iff_suffix.mp ends
    exact ⟨front,same.symm,fun alnum c member => alnum c (same ▸ List.mem_append_left _ member)⟩
  · exact ⟨name,rfl,id⟩

theorem fixtureNamed (alnum : Naming.Alnum name) :
    Naming.snake (Naming.pageClass name) = "page" ∨ underscore ∈ Naming.snake (Naming.pageClass name) := by
  obtain ⟨front,page,within⟩ := pageEnds name
  have both := Naming.behindAlnum (within alnum) (by decide : Naming.Alnum "Page")
  rw [page]
  by_cases full : front = []
  · rw [full]
    exact .inl (by decide)
  · rw [Naming.snakeSpoken both,Naming.spokenParted both,Naming.partedPage full (within alnum),List.map_append,List.map_append]
    exact .inr (List.mem_append_right _ (by decide))

theorem pageCapital (name : Text) : .char 'P' ∈ Naming.pageClass name := by
  obtain ⟨front,page,_⟩ := pageEnds name
  rw [page]
  exact List.mem_append_right _ (by decide)

end pages

/- The functions of the steps of a story. Each has a name of its own that can be called, and it has the
name of a reserved word just where an accepted line says the word alone. -/
structure Callable (s : Story) (d : Documents) : Prop where
  spelled : ∀ h ∈ d.steps.handlers, Spelled h.function
  apart : (d.steps.fixture :: d.steps.handlers.map (·.function)).Nodup
  page : ∀ h ∈ d.steps.handlers, h.function ≠ d.steps.pageClass
  reserved : ∀ w ∈ reservedWords, (∃ h ∈ d.steps.handlers, h.function = w) ↔
    ∃ line ∈ Feature.accepted s, functionWords (Feature.Step.ofText line).text = [w]

section stories
variable {s : Story} {baseUrl pageUrl : Value} {l : Layout} {d : Documents} {c : Context} {w : Text}

theorem usesTexts (r : Requirement) (text : Text) :
    text ∈ (usesOf r).map (·.1) ↔ ∃ e ∈ r.scenarios, ∃ step ∈ e.steps, (Feature.Step.ofText step).text = text := by
  rw [(usesNoted r).used]
  constructor
  · rintro ⟨type,noted⟩
    obtain ⟨e,member,typed⟩ := List.mem_flatMap.mp noted
    obtain ⟨before,step,after,steps,same,_⟩ := memTypedFrom.mp typed
    have inside : step ∈ (Feature.Block.ofScenario e).steps := by
      rw [steps]
      exact List.mem_append_right _ List.mem_cons_self
    obtain ⟨line,listed,rfl⟩ := List.mem_map.mp inside
    exact ⟨e,member,line,listed,same⟩
  · rintro ⟨e,member,step,inside,same⟩
    obtain ⟨before,after,steps⟩ := List.append_of_mem (List.mem_map_of_mem (f := Feature.Step.ofText) inside)
    exact ⟨_,List.mem_flatMap.mpr ⟨e,member,memTypedFrom.mpr ⟨before,_,after,steps,same,rfl⟩⟩⟩

theorem wordAccepted (s : Story) (w : Text) : (∃ text ∈ (usesOf (Requirement.ofStory s)).map (·.1), functionWords text = [w]) ↔
    ∃ line ∈ Feature.accepted s, functionWords (Feature.Step.ofText line).text = [w] := by
  constructor
  · rintro ⟨_,used,words⟩
    obtain ⟨e,member,step,inside,rfl⟩ := (usesTexts _ _).mp used
    rcases Feature.storyScenarios e member step inside with kept | made
    · exact ⟨step,kept,words⟩
    · exact absurd words (madeMany made w)
  · rintro ⟨line,kept,words⟩
    obtain ⟨criterion,given,own⟩ := List.mem_flatMap.mp kept
    obtain ⟨e,member,block⟩ := List.mem_map.mp (Feature.keptBlock {} given (List.ne_nil_of_mem own))
    have steps : Feature.Step.ofText line ∈ e.steps.map Feature.Step.ofText := by
      rw [show e.steps.map Feature.Step.ofText = (Requirement.stepLines criterion).map Feature.Step.ofText from
        congrArg Feature.Block.steps block]
      exact List.mem_map_of_mem own
    obtain ⟨step,inside,same⟩ := List.mem_map.mp steps
    exact ⟨_,(usesTexts _ _).mpr ⟨e,member,step,inside,rfl⟩,same ▸ words⟩

theorem documentsCallable (ok : documentsOfRequirement (Requirement.ofStory s) ((Requirement.actions (Requirement.ofStory s)
      pageUrl).map resolve) baseUrl (Requirement.ofStory s).name s.key pageUrl { l with className := (Requirement.ofStory s).name }
      = .ok (d,c)) : Callable s d := by
  obtain ⟨c₀,c₁,ready,specification,steps⟩ :=
    documentsOfRequirementOk Page.namedAll (Page.numberedResolve (Requirement.numberedActions _ pageUrl)) ok
  have unseen : c₁.seen .glue .step = [] := by
    have only := Feature.ofRequirementOnly c₀ (Requirement.ofStory s) (Requirement.ofStory s).name s.key
    rw [specification] at only
    rw [only.others .glue .step (by decide)]
    exact ready.unseen .glue .step (by decide)
  obtain ⟨apart,fixture,pageClass⟩ := requirementApart c₁ (Requirement.ofStory s) ((Requirement.actions (Requirement.ofStory s)
    pageUrl).map resolve) { l with className := (Requirement.ofStory s).name }
  have spelled := @requirementSpelled (Requirement.ofStory s) c₁ ((Requirement.actions (Requirement.ofStory s) pageUrl).map
    resolve) { l with className := (Requirement.ofStory s).name }
  rw [steps] at apart fixture pageClass spelled
  exact {
    spelled
    apart
    page := by
      intro h member same
      have capital := (spelled h member).signs (.char 'P') (by rw [same,pageClass]; exact pageCapital _)
      exact absurd capital (by decide)
    reserved := by
      intro w member
      obtain ⟨word,other⟩ := reservedWord member
      have apart : w ≠ Layout.pageModule { l with className := (Requirement.ofStory s).name } := by
        rintro rfl
        rcases fixtureNamed (Naming.classNameAlnum s.summary) with page | mark
        · exact other page
        · exact word.whole mark
      rw [← wordAccepted s w,← requirementWords unseen word apart,steps] }

theorem storyCallable (s : Story) (baseUrl pageUrl : Value) (l : Layout) :
    (∃ f, Page.pathFor (Page.addressOf ((Requirement.actions (Requirement.ofStory s) pageUrl).map resolve) pageUrl) baseUrl
        = .error f ∧
      documentsOfRequirement (Requirement.ofStory s) ((Requirement.actions (Requirement.ofStory s) pageUrl).map resolve) baseUrl
        (Requirement.ofStory s).name s.key pageUrl { l with className := (Requirement.ofStory s).name } = .error f) ∨
    ∃ d c, documentsOfRequirement (Requirement.ofStory s) ((Requirement.actions (Requirement.ofStory s) pageUrl).map resolve)
        baseUrl (Requirement.ofStory s).name s.key pageUrl { l with className := (Requirement.ofStory s).name } = .ok (d,c) ∧
      Callable s d := by
  refine (documentsOfRequirementEnd _ _ baseUrl _ s.key pageUrl _).imp_right ?_
  rintro ⟨d,c,ok⟩
  exact ⟨d,c,ok,documentsCallable ok⟩

def tersedStory : Story := { Feature.looseStory with
  criteria := ["Given class\nWhen logger\nThen the page opens"] }

theorem tersedAccepted : Feature.accepted tersedStory = [Text.ofString "Given class","When logger","Then the page opens"] := by
  decide

theorem tersedReserved : ∃ d c, documentsOfRequirement (Requirement.ofStory tersedStory) ((Requirement.actions
      (Requirement.ofStory tersedStory) (.text "/login")).map resolve) (.text []) (Requirement.ofStory tersedStory).name
      tersedStory.key (.text "/login") { outputDir := "output", className := (Requirement.ofStory tersedStory).name }
      = .ok (d,c) ∧
    (∃ h ∈ d.steps.handlers, h.function = "class") ∧ Text.ofString "class" ∈ languageWords ∧
    (∃ h ∈ d.steps.handlers, h.function = "logger") ∧ Text.ofString "logger" ∈ boundNames := by
  have path : Page.pathFor (Page.addressOf ((Requirement.actions (Requirement.ofStory tersedStory) (.text "/login")).map
      resolve) (.text "/login")) (.text []) = .ok (Text.ofString "/login") := by
    simp only [Page.addressOf]
    decide
  obtain ⟨d,c,ok⟩ := documentsOfRequirementMade path
  have callable := documentsCallable (l := { outputDir := "output", className := [] }) ok
  refine ⟨d,c,ok,(callable.reserved "class" (by decide)).mpr ?_,by decide,(callable.reserved "logger" (by decide)).mpr ?_,
    by decide⟩
  · exact ⟨"Given class",by rw [tersedAccepted]; exact List.mem_cons_self,by decide⟩
  · exact ⟨"When logger",by rw [tersedAccepted]; simp,by decide⟩

end stories
end TestWeaver.Steps
