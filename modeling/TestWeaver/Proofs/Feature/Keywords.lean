import TestWeaver.Proofs.Feature.Headers
import TestWeaver.Proofs.Story.Sections

/-! The keywords of the steps in the feature of a story. A line of a criterion keeps the word it opens with as that is
spelled, if a blank follows, and goes on from the step before it otherwise; every other step has one of the five
keywords. -/
namespace TestWeaver.Feature
open TestWeaver.Requirement (givenCriteria stepLines)
open Text (afterCaselessly? Bare Unbroken)

def keywords : List Text := ["Given","When","Then","And","But"]

def typeWords : List String := ["given","when","then"]

def opens (word : String) (line : Text) : Bool :=
  match afterCaselessly? word.toList line with
  | some rest => !rest.head?.any CodePoint.isWord
  | none => false

def spelling (word : String) (line : Text) : Text := line.take word.length

def behind (word : String) (line : Text) : Text := line.drop word.length

def blankBehind (word : String) (line : Text) : Bool := (behind word line).head?.any CodePoint.isBlank

section words
variable {t k x y rest : Text} {v w : String}

theorem spelledLength {letters : List Char} (spelled : afterCaselessly? letters t = some []) :
    t.length = letters.length := by
  induction letters generalizing t with
  | nil => rw [Option.some.inj spelled]; rfl
  | cons letter letters ih =>
    cases t with
    | nil => contradiction
    | cons c t =>
      simp only [afterCaselessly?] at spelled
      split at spelled
      · rw [List.length_cons,List.length_cons,ih spelled]
      · contradiction

theorem wordTaken (read : afterCaselessly? w.toList t = some rest) :
    (spelling w t).isCaselessly w ∧ behind w t = rest := by
  obtain ⟨a,rfl,spelled⟩ := Text.caselesslySome read
  have size : a.length = w.length := (spelledLength spelled).trans String.length_toList
  rw [spelling,behind,← size,List.take_left,List.drop_left]
  exact ⟨by rw [Text.isCaselessly,spelled]; rfl,rfl⟩

theorem stepWordLetter (member : w ∈ stepWords) (read : afterCaselessly? w.toList t = some rest) :
    t.head?.map CodePoint.small = w.toList.head?.map .char := by
  have plain : ∀ w ∈ stepWords, w.toList.head?.any fun letter => letter != 'k' && letter != 's' && letter != 'i' := by decide
  have least := plain w member
  cases word : w.toList with
  | nil => rw [word] at least; contradiction
  | cons letter letters =>
    rw [word] at read least
    cases t with
    | nil => contradiction
    | cons c t =>
      simp only [afterCaselessly?] at read
      split at read
      · rename_i same
        simp only [List.head?_cons,Option.any_some,Bool.and_eq_true,bne_iff_ne] at least
        have small : c.small = .char letter := by
          simpa [CodePoint.isCaselessly,least.1.1,least.1.2,least.2] using same
        simp only [List.head?_cons,Option.map_some,small]
      · contradiction

theorem stepWordUnique (left : v ∈ stepWords) (right : w ∈ stepWords) (first : afterCaselessly? v.toList t = some x)
    (second : afterCaselessly? w.toList t = some y) : v = w := by
  have apart : ∀ v ∈ stepWords, ∀ w ∈ stepWords,
      v.toList.head?.map CodePoint.char = w.toList.head?.map .char → v = w := by
    decide
  exact apart v left w right ((stepWordLetter left first).symm.trans (stepWordLetter right second))

theorem spelledDark {letters : List Char} (small : ∀ letter ∈ letters, (CodePoint.char letter).isSmall)
    (spelled : afterCaselessly? letters t = some []) : ∀ c ∈ t, c.isBlank = false := by
  induction letters generalizing t with
  | nil => rw [Option.some.inj spelled]; nofun
  | cons letter letters ih =>
    obtain ⟨first,later⟩ := List.forall_mem_cons.mp small
    cases t with
    | nil => contradiction
    | cons c t =>
      simp only [afterCaselessly?] at spelled
      split at spelled
      · rename_i same
        exact List.forall_mem_cons.mpr ⟨Criteria.letterDark first same,ih later spelled⟩
      · contradiction

theorem stepWordDark (member : w ∈ stepWords) (spelled : k.isCaselessly w) : ∀ c ∈ k, c.isBlank = false := by
  have small : stepWords.all fun w => w.toList.all fun letter => (CodePoint.char letter).isSmall := by decide
  exact spelledDark (List.all_eq_true.mp (List.all_eq_true.mp small w member)) (beq_iff_eq.mp spelled)

end words

section keyword
variable {t k text rest : Text} {w : String}

theorem keywordParts (read : keyword? t = some (k,text)) : ∃ w ∈ stepWords,
    (∃ rest, afterCaselessly? w.toList t = some rest) ∧ blankBehind w t = true ∧ k = spelling w t ∧
      text = (behind w t).trim := by
  obtain ⟨w,member,found⟩ := List.exists_of_findSome?_eq_some read
  split at found
  · rename_i c rest after
    split at found
    · rename_i blank
      obtain ⟨rfl,rfl⟩ := Prod.mk.inj (Option.some.inj found)
      have left := (wordTaken after).2
      exact ⟨w,member,⟨_,after⟩,by rw [blankBehind,left]; exact blank,rfl,by rw [left,Text.trimCons blank]⟩
    · contradiction
  · contradiction

theorem keywordRead (member : w ∈ stepWords) (after : afterCaselessly? w.toList t = some rest) :
    keyword? t = if blankBehind w t then some (spelling w t,(behind w t).trim) else none := by
  cases read : keyword? t with
  | some found =>
    obtain ⟨v,other,⟨rest,before⟩,blank,key,text⟩ := keywordParts read
    obtain rfl := stepWordUnique other member before after
    rw [if_pos blank,← key,← text]
  | none =>
    have missed := List.findSome?_eq_none_iff.mp read w member
    have left := (wordTaken after).2
    rw [if_neg]
    intro blank
    rw [blankBehind,left] at blank
    cases rest with
    | nil => contradiction
    | cons c rest =>
      simp only [after,if_pos (show c.isBlank = true from blank)] at missed
      contradiction

theorem opensAfter (opened : opens w t = true) : ∃ rest, afterCaselessly? w.toList t = some rest := by
  unfold opens at opened
  split at opened
  · exact ⟨_,by assumption⟩
  · contradiction

theorem stepOpened (bare : Bare t) (member : w ∈ stepWords) (opened : opens w t = true) : Step.ofText t =
    if blankBehind w t then ⟨spelling w t,(behind w t).trim,none⟩ else ⟨"And",t,none⟩ := by
  obtain ⟨rest,after⟩ := opensAfter opened
  rw [Step.ofText,splitStep,Text.trimOfBare bare,keywordRead member after]
  cases blankBehind w t <;> rfl

end keyword

section shapes
variable {s : Step} {t step : Text} {w : String}

structure Shaped (s : Step) : Prop where
  spelled : ∃ w ∈ stepWords, Text.isCaselessly w s.keyword
  full : s.text ≠ []
  bare : Bare s.text
  unbroken : Unbroken s.line

def ReadsAsStep (line : Text) : Prop :=
  ∃ k ∈ keywords, ∃ text : Text, text ≠ [] ∧ Bare text ∧ line = indent (k ++ " " ++ text)

theorem behindFull (bare : Bare t) (blank : blankBehind w t = true) : (behind w t).trim ≠ [] := by
  intro none
  have all := Text.blankTrim none
  rcases List.eq_nil_or_concat' (behind w t) with gone | ⟨front,last,ends⟩
  · rw [blankBehind,gone] at blank
    contradiction
  · have whole : t = spelling w t ++ (front ++ [last]) := by rw [← ends]; exact (List.take_append_drop _ t).symm
    have dark := bare.2 last (by rw [whole,← List.append_assoc]; exact List.getLast?_concat)
    rw [all last (by rw [ends]; simp)] at dark
    contradiction

theorem shapedOf (unbroken : Unbroken step) (shows : step.trim ≠ []) : Shaped (Step.ofText step) := by
  have line := (quietOf unbroken).unbroken
  cases read : keyword? step.trim with
  | none =>
    have parts : Step.ofText step = ⟨"And",step.trim,none⟩ := by rw [Step.ofText,splitStep,read]; rfl
    rw [parts] at line ⊢
    exact ⟨⟨"and",by decide,(by decide : Text.isCaselessly "and" "And" = true)⟩,shows,Text.trimBare step,line⟩
  | some found =>
    obtain ⟨k,text⟩ := found
    have parts : Step.ofText step = ⟨k,text,none⟩ := by rw [Step.ofText,splitStep,read]; rfl
    obtain ⟨w,member,⟨rest,after⟩,blank,rfl,rfl⟩ := keywordParts read
    rw [parts] at line ⊢
    exact ⟨⟨w,member,(wordTaken after).1⟩,behindFull (Text.trimBare step) blank,Text.trimBare _,line⟩

theorem readsIff (shaped : Shaped s) : ReadsAsStep (indent s.line) ↔ s.keyword ∈ keywords := by
  constructor
  · rintro ⟨k,member,text,_,_,same⟩
    obtain ⟨w,known,spelled⟩ := shaped.spelled
    have plain : ∀ k ∈ keywords, .char ' ' ∉ k := by decide
    have dark : .char ' ' ∉ s.keyword := fun inside => absurd (stepWordDark known spelled _ inside) (by decide)
    have line : s.keyword ++ .char ' ' :: s.text = k ++ .char ' ' :: text := by
      have whole := List.append_cancel_left same
      rw [Step.line,List.append_assoc,List.append_assoc] at whole
      exact whole
    rw [(Text.firstPartUnique dark (plain k member) line).1]
    exact member
  · intro member
    exact ⟨s.keyword,member,s.text,shaped.full,shaped.bare,rfl⟩

end shapes

section steps
variable {step : Text}

def accepted (s : Story) : List Text := (givenCriteria s).flatMap stepLines

def Keyed (step : Text) : Prop := (Step.ofText step).keyword ∈ keywords ∧ (Step.ofText step).text ≠ []
instance (step : Text) : Decidable (Keyed step) :=
  decidable_of_iff (keywords.contains (Step.ofText step).keyword && !(Step.ofText step).text.isEmpty) (by simp [Keyed])

theorem keyedShows (keyed : Keyed step) : step.trim ≠ [] := by
  intro empty
  have parts : Step.ofText step = ⟨"And",[],none⟩ := by rw [Step.ofText,splitStep,empty]; rfl
  exact keyed.2 (by rw [parts])

theorem keyedOf {k text : Text} (parts : Step.ofText step = ⟨k,text,none⟩) (member : k ∈ keywords) (full : text ≠ []) :
    Keyed step := by
  rw [Keyed,parts]
  exact ⟨member,full⟩

theorem expectedSplit (x : Text) :
    ∃ y, Step.ofText ("Then the system should " ++ x) = ⟨"Then","the system should" ++ y,none⟩ := by
  let rest := Text.dropTail CodePoint.isBlank (" " ++ x)
  have trimmed : Text.trim ("Then the system should " ++ x) = "Then" ++ (" the system should" ++ rest) :=
    Text.trimBetween (c := .char 'T') (d := .char 'd') (by decide) (by decide) [] "hen the system shoul" (" " ++ x)
  have text : Text.trim (" the system should" ++ rest) = "the system should" ++ Text.dropTail CodePoint.isBlank rest :=
    Text.trimBetween (c := .char 't') (d := .char 'd') (by decide) (by decide) " " "he system shoul" rest
  have whole : afterCaselessly? "then".toList "Then" = some [] := by decide
  have opened := Text.caselesslyAppend whole (" the system should" ++ rest)
  have parts : Step.ofText ("Then the system should " ++ x) = ⟨"Then",Text.trim (" the system should" ++ rest),none⟩ := by
    rw [Step.ofText,splitStep,trimmed,keywordRead (by decide) opened]
    rfl
  exact ⟨_,text ▸ parts⟩

theorem madeKeyed (made : Requirement.Made step) : Keyed step := by
  have full : ∀ {e : Element} {p : Text}, p ∈ Requirement.phrasesOf e → p ≠ [] := by
    intro e p phrase
    obtain ⟨lead,_,rfl⟩ := Requirement.phraseParts phrase
    exact List.append_ne_nil_of_right_ne_nil lead (List.cons_ne_nil _ e.name)
  cases made with
  | fixed member =>
    obtain ⟨_,keyword,several⟩ := Requirement.fixedSentences step member
    have known : ∀ k ∈ ([.ofString "Given","When","Then","And"] : List Text), k ∈ keywords := by decide
    refine ⟨known _ keyword,fun bare => ?_⟩
    rw [bare] at several
    exact absurd several (by decide)
  | acts known phrased => exact keyedOf (Requirement.phrasesKnown _ known _ phrased).first (by decide) (full phrased)
  | goesOn known phrased => exact keyedOf (Requirement.phrasesKnown _ known _ phrased).later (by decide) (full phrased)
  | expects criterion =>
    obtain ⟨y,split⟩ := expectedSplit (Requirement.expectedResult criterion)
    exact keyedOf split (by decide) (List.append_ne_nil_of_left_ne_nil (by decide) y)

theorem storyScenarios {s : Story} : ∀ e ∈ (Requirement.ofStory s).scenarios, ∀ step ∈ e.steps,
    step ∈ accepted s ∨ Requirement.Made step := by
  intro e member step inside
  have each := fun e => Requirement.detectKnown (t := s.fullText) (e := e)
  refine (Requirement.scenarioMade each (Requirement.detectFull s.fullText) e member step inside).imp_left ?_
  rintro ⟨criterion,given,own⟩
  exact List.mem_flatMap.mpr ⟨criterion,given,own⟩

end steps

section stories
variable {s : Story} {line : Text}

def opening (s : Story) : Step := ⟨"Given",preconditionText (Naming.className s.summary),none⟩

def Document.steps (d : Document) : List Step := d.precondition.toList ++ d.blocks.flatMap Block.steps

theorem openingShaped (s : Story) : Shaped (opening s) := by
  have name := alnumUnbroken (Naming.classNameAlnum s.summary)
  have text := Text.unbrokenAppend (Text.unbrokenAppend (by decide : Unbroken "user navigates to ") name)
    (by decide : Unbroken " page")
  refine ⟨⟨"given",by decide,(by decide : Text.isCaselessly "given" "Given" = true)⟩,List.cons_ne_nil _ _,⟨?_,?_⟩,
    Text.unbrokenAppend (by decide : Unbroken "Given ") text⟩
  · rintro c ⟨⟩
    decide
  · intro c last
    rw [opening,preconditionText,List.getLast?_append] at last
    cases last
    decide

theorem acceptedOpens (member : line ∈ accepted s) : ∃ w ∈ stepWords, opens w line = true := by
  obtain ⟨criterion,_,inside⟩ := List.mem_flatMap.mp member
  exact List.any_eq_true.mp (List.mem_filter.mp inside).2

theorem acceptedBare (member : line ∈ accepted s) : Bare line := by
  obtain ⟨criterion,_,inside⟩ := List.mem_flatMap.mp member
  obtain ⟨whole,_,rfl⟩ := List.mem_map.mp (List.mem_filter.mp inside).1
  exact Text.trimBare whole

theorem acceptedFull (member : line ∈ accepted s) : line ≠ [] := by
  obtain ⟨w,known,opened⟩ := acceptedOpens member
  rintro rfl
  have none : ∀ w ∈ stepWords, opens w [] = false := by decide
  rw [none w known] at opened
  contradiction

theorem keptBlock (c : Context) {criterion : Text} (given : criterion ∈ givenCriteria s) (some : stepLines criterion ≠ []) :
    ({ name := Requirement.scenarioName criterion, steps := (stepLines criterion).map Step.ofText } : Block) ∈
      (ofStory c s).blocks := by
  have kept : Requirement.detailedSteps criterion (Requirement.detect s.fullText) = stepLines criterion := by
    rw [Requirement.detailedSteps,if_pos (by simpa using some)]
  have scenario : ⟨Requirement.scenarioName criterion,stepLines criterion⟩ ∈ (Requirement.ofStory s).scenarios := by
    refine List.mem_append_left _ ?_
    rw [if_neg (by simpa using List.ne_nil_of_mem given)]
    exact List.mem_map.mpr ⟨criterion,given,by rw [kept]⟩
  exact List.mem_map.mpr ⟨_,scenario,rfl⟩

theorem storySteps (c : Context) (s : Story) : ∀ step ∈ (ofStory c s).steps,
    step = opening s ∨ ∃ text, step = Step.ofText text ∧ Unbroken text ∧ (text ∈ accepted s ∨ Keyed text) := by
  intro step member
  rcases List.mem_append.mp member with first | later
  · exact .inl (List.mem_singleton.mp first)
  · obtain ⟨b,block,inside⟩ := List.mem_flatMap.mp later
    obtain ⟨e,scenario,rfl⟩ := List.mem_map.mp block
    obtain ⟨text,listed,rfl⟩ := List.mem_map.mp inside
    have each := fun e => Requirement.detectKnown (t := s.fullText) (e := e)
    have single := scenarioSingle (Requirement.detectFull s.fullText) each e scenario
    exact .inr ⟨text,rfl,single text listed,(storyScenarios e scenario text listed).imp_right madeKeyed⟩

theorem acceptedStep (c : Context) (member : line ∈ accepted s) : Step.ofText line ∈ (ofStory c s).steps := by
  obtain ⟨criterion,given,inside⟩ := List.mem_flatMap.mp member
  have block := keptBlock c given (List.ne_nil_of_mem inside)
  exact List.mem_append_right _ (List.mem_flatMap.mpr ⟨_,block,List.mem_map_of_mem inside⟩)

theorem stepsShaped (c : Context) (s : Story) : ∀ step ∈ (ofStory c s).steps, Shaped step := by
  intro step member
  rcases storySteps c s step member with rfl | ⟨text,rfl,unbroken,kept | keyed⟩
  · exact openingShaped s
  · exact shapedOf unbroken (by rw [Text.trimOfBare (acceptedBare kept)]; exact acceptedFull kept)
  · exact shapedOf unbroken (keyedShows keyed)

theorem acceptedSplit (member : line ∈ accepted s) {w : String} (known : w ∈ stepWords) (opened : opens w line = true) :
    Step.ofText line = if blankBehind w line then ⟨spelling w line,(behind w line).trim,none⟩ else ⟨"And",line,none⟩ :=
  stepOpened (acceptedBare member) known opened

/- How a story's lines become steps. Each has a step word in the spelling of its line. All of them read as steps just where
every accepted line spells its word as the keyword, and the types are kept just where a blank stands behind each word. -/
structure Keeps (c : Context) (s : Story) : Prop where
  rendered : (ofStory c s).text = Text.unlines ((ofStory c s).head ++
    [Text.ofString "  Background:",indent (opening s).line,[]] ++
    (ofStory c s).blocks.flatMap fun b => b.header :: (b.steps.map fun step => indent step.line) ++ [[]])
  shaped : ∀ step ∈ (ofStory c s).steps, Shaped step
  kept : ∀ criterion ∈ givenCriteria s, stepLines criterion ≠ [] →
    ({ name := Requirement.scenarioName criterion, steps := (stepLines criterion).map Step.ofText } : Block) ∈
      (ofStory c s).blocks
  opened : ∀ line ∈ accepted s, ∃ w ∈ stepWords, opens w line = true ∧ (∀ v ∈ stepWords, opens v line = true → v = w) ∧
    Step.ofText line = if blankBehind w line then ⟨spelling w line,(behind w line).trim,none⟩ else ⟨"And",line,none⟩
  read : (∀ step ∈ (ofStory c s).steps, ReadsAsStep (indent step.line)) ↔
    ∀ line ∈ accepted s, ∀ w ∈ stepWords, opens w line = true → blankBehind w line = true → spelling w line ∈ keywords
  typed : (∀ line ∈ accepted s, ∀ w ∈ typeWords, opens w line = true → Text.isCaselessly w (Step.ofText line).keyword) ↔
    ∀ line ∈ accepted s, ∀ w ∈ typeWords, opens w line = true → blankBehind w line = true

theorem storyRendered (c : Context) (s : Story) : (ofStory c s).text = Text.unlines ((ofStory c s).head ++
    [Text.ofString "  Background:",indent (opening s).line,[]] ++
    (ofStory c s).blocks.flatMap fun b => b.header :: (b.steps.map fun step => indent step.line) ++ [[]]) := by
  have lines : (ofStory c s).text = Text.unlines ((ofStory c s).head ++ (ofStory c s).backgroundLines ++
      (ofStory c s).blocks.flatMap fun b => b.lines none none) := rfl
  have blocks : ((ofStory c s).blocks.flatMap fun b => b.lines none none) =
      (ofStory c s).blocks.flatMap fun b => b.header :: (b.steps.map fun step => indent step.line) ++ [[]] := by
    refine List.flatMap_congr fun b member => ?_
    obtain ⟨e,_,rfl⟩ := List.mem_map.mp member
    simp [Block.lines,Block.ofScenario,Examples.lines]
  rw [lines,blocks]
  rfl

theorem storyRead (c : Context) (s : Story) : (∀ step ∈ (ofStory c s).steps, ReadsAsStep (indent step.line)) ↔
    ∀ line ∈ accepted s, ∀ w ∈ stepWords, opens w line = true → blankBehind w line = true → spelling w line ∈ keywords := by
  constructor
  · intro reads line member w known opened blank
    have inside := acceptedStep c member
    have keyword := (readsIff (stepsShaped c s _ inside)).mp (reads _ inside)
    rwa [acceptedSplit member known opened,if_pos blank] at keyword
  · intro spelled step member
    refine (readsIff (stepsShaped c s step member)).mpr ?_
    rcases storySteps c s step member with rfl | ⟨line,rfl,_,kept | keyed⟩
    · exact List.mem_cons_self
    · obtain ⟨w,known,opened⟩ := acceptedOpens kept
      rw [acceptedSplit kept known opened]
      split
      · rename_i blank
        exact spelled line kept w known opened blank
      · exact (by decide : Text.ofString "And" ∈ keywords)
    · exact keyed.1

theorem storyTyped (s : Story) : (∀ line ∈ accepted s, ∀ w ∈ typeWords, opens w line = true →
      Text.isCaselessly w (Step.ofText line).keyword) ↔
    ∀ line ∈ accepted s, ∀ w ∈ typeWords, opens w line = true → blankBehind w line = true := by
  have among : ∀ w ∈ typeWords, w ∈ stepWords ∧ Text.isCaselessly w "And" = false := by decide
  refine forall_congr' fun line => forall_congr' fun member => forall_congr' fun w => forall_congr' fun typed =>
    forall_congr' fun opened => ?_
  obtain ⟨known,other⟩ := among w typed
  rw [acceptedSplit member known opened]
  split
  · rename_i blank
    obtain ⟨rest,after⟩ := opensAfter opened
    exact iff_of_true (wordTaken after).1 blank
  · rename_i blank
    exact iff_of_false (by rw [other]; exact Bool.false_ne_true) blank

theorem storyKeeps (c : Context) (s : Story) : Keeps c s where
  rendered := storyRendered c s
  shaped := stepsShaped c s
  kept _ := keptBlock c
  opened := by
    intro line member
    obtain ⟨w,known,opened⟩ := acceptedOpens member
    refine ⟨w,known,opened,fun v other before => ?_,acceptedSplit member known opened⟩
    exact stepWordUnique other known (opensAfter before).choose_spec (opensAfter opened).choose_spec
  read := storyRead c s
  typed := storyTyped s

def looseStory : Story := { brokenStory with
  summary := "Login"
  criteria := ["given the user is on the login page\nWHEN the user signs in\nThen: the dashboard opens"]
  summary_given := by decide }

theorem looseAccepted : accepted looseStory = [Text.ofString "given the user is on the login page","WHEN the user signs in",
    "Then: the dashboard opens"] := by
  decide +kernel

theorem looseStray : (∃ step ∈ (ofStory {} looseStory).steps, ¬ReadsAsStep (indent step.line)) ∧
    ∃ line ∈ accepted looseStory, opens "then" line = true ∧ Step.ofText line = ⟨"And","Then: the dashboard opens",none⟩ := by
  constructor
  · by_contra none
    have reads : ∀ step ∈ (ofStory {} looseStory).steps, ReadsAsStep (indent step.line) := by simpa using none
    have spelled := (storyRead {} looseStory).mp reads "given the user is on the login page"
      (by rw [looseAccepted]; exact List.mem_cons_self) "given" (by decide) (by decide) (by decide)
    exact absurd spelled (by decide)
  · refine ⟨"Then: the dashboard opens",by rw [looseAccepted]; simp,by decide,by decide +kernel⟩

end stories

end TestWeaver.Feature
