import TestWeaver.Feature.Source
import TestWeaver.Proofs.Naming.Names
import TestWeaver.Proofs.Requirement.Making
import TestWeaver.Proofs.Text.Breaks

/-! The headers that a reader finds in the feature of a story. Criteria reach it on lines of their
own, so they make no header but those of their scenarios. What a story says besides stands in the
description and in a tag as it is, and a summary with a break in it splits the scenario that is
named for it. -/
namespace TestWeaver.Feature
open TestWeaver.Requirement (givenCriteria)

def headerWords : List Text := ["Feature:","Background:","Scenario:"]

def isHeader (line : Text) : Bool := headerWords.any line.startsWith

def headers (t : Text) : List Text := (Text.shownLines t).filter isHeader

def ofStory (c : Context) (s : Story) : Document :=
  (Document.ofRequirement c (Requirement.ofStory s) (Requirement.ofStory s).name s.key).1

def Document.title (d : Document) : Text := "Feature: " ++ d.name

def backgroundTitle : Text := "Background:"

def Block.title (b : Block) : Text := "Scenario: " ++ b.name

def Document.titles (d : Document) : List Text := d.title :: backgroundTitle :: d.blocks.map Block.title

def freeTexts (s : Story) : List Text :=
  [s.summary,"JIRA Story: " ++ s.key.shown,"Generated from: " ++ Requirement.orNone s.issueType,
    "Priority: " ++ Requirement.orNone s.priority]

def OneLine (name : Text) : Prop := Text.Unbroken name ∧ name.getLast?.any fun c => !c.isBlank
instance (name : Text) : Decidable (OneLine name) := by unfold OneLine; infer_instance

section texts
variable {t a b : Text} {ls : List Text}

theorem oneLineAppend (front : Text.Unbroken a) (named : OneLine b) : OneLine (a ++ b) := by
  obtain ⟨unbroken,ends⟩ := named
  refine ⟨Text.unbrokenAppend front unbroken,?_⟩
  rw [List.getLast?_append]
  cases last : b.getLast? with
  | none =>
    rw [last] at ends
    contradiction
  | some c => rwa [last] at ends

theorem headersFeed (a b : Text) : headers (a ++ .char '\n' :: b) = headers a ++ headers b := by
  rw [headers,Text.shownFeed,List.filter_append]
  rfl

theorem headersUnlines (ls : List Text) : headers (Text.unlines ls) = ls.flatMap headers := by
  rw [headers,Text.shownUnlines,List.filter_flatMap]
  rfl

theorem headersTidy (each : ∀ line ∈ ls, Text.Unbroken line) : ls.flatMap headers = (Text.tidy ls).filter isHeader := by
  induction ls with
  | nil => rfl
  | cons line rest ih =>
    obtain ⟨first,later⟩ := List.forall_mem_cons.mp each
    rw [List.flatMap_cons,ih later,headers,Text.shownUnbroken first,← List.filter_append,← Text.tidyAppend]
    rfl

theorem headersLine (unbroken : Text.Unbroken t) : headers t = [t.trim].filter isHeader := by
  rw [headers,Text.shownUnbroken unbroken,Text.tidy,List.map_singleton,List.filter_filter]
  refine List.filter_congr fun line _ => ?_
  cases line with
  | nil => decide
  | cons c line => simp

theorem headersUnbroken : ∀ line ∈ headers t, Text.Unbroken line := by
  intro line member
  obtain ⟨inside,_⟩ := List.mem_filter.mp (List.mem_filter.mp member).1
  obtain ⟨whole,read,rfl⟩ := List.mem_map.mp inside
  exact Text.unbrokenSublist (Text.trimSublist whole) (Text.linesUnbroken whole read)

theorem headersNamed {c : CodePoint} {a lead name : Text} (blank : a.dropWhile CodePoint.isBlank = []) (plain : Text.Unbroken a)
    (dark : c.isBlank = false) (front : Text.Unbroken (c :: lead)) (named : OneLine name) (header : isHeader (c :: lead ++ name)) :
    headers (a ++ (c :: lead ++ name)) = [c :: lead ++ name] := by
  obtain ⟨unbroken,ends⟩ := named
  rw [headersLine (Text.unbrokenAppend plain (Text.unbrokenAppend front unbroken))]
  rcases List.eq_nil_or_concat' name with rfl | ⟨x,d,rfl⟩
  · contradiction
  · have trimmed : (a ++ (c :: lead ++ (x ++ [d]))).trim = c :: lead ++ (x ++ [d]) := by
      have between := Text.trimBetween dark (by simpa using ends : d.isBlank = false) a (lead ++ x) []
      rw [List.append_assoc] at between
      exact between.trans (by rw [blank]; exact congrArg (List.cons c) (List.append_assoc lead x [d]))
    rw [trimmed]
    refine List.filter_eq_self.mpr fun line member => ?_
    rw [List.mem_singleton.mp member]
    exact header

end texts

section steps
variable {step : Text} {s : Step}

structure Quiet (s : Step) : Prop where
  unbroken : Text.Unbroken s.line
  short : s.keyword.length ≤ 5
  starts : ∃ c rest, s.keyword = c :: rest ∧ c.isBlank = false

theorem keywordTaken {k rest : Text} (read : keyword? step = some (k,rest)) :
    ∃ n, 0 < n ∧ n ≤ 5 ∧ k = step.take n ∧ rest.Sublist step := by
  obtain ⟨word,member,found⟩ := List.exists_of_findSome?_eq_some read
  have size : ∀ word ∈ stepWords, 0 < word.length ∧ word.length ≤ 5 := by decide
  split at found
  · rename_i c behind after
    split at found
    · obtain ⟨rfl,rfl⟩ := Prod.mk.inj (Option.some.inj found)
      obtain ⟨a,whole,_⟩ := Text.caselesslySome after
      have later : behind.Sublist step := by
        rw [whole]
        exact (List.sublist_cons_self c behind).trans (List.sublist_append_right a _)
      exact ⟨_,(size word member).1,(size word member).2,rfl,(Text.trimSublist behind).trans later⟩
    · contradiction
  · contradiction

theorem quietOf (unbroken : Text.Unbroken step) : Quiet (Step.ofText step) := by
  have trimmed : Text.Unbroken step.trim := Text.unbrokenSublist (Text.trimSublist step) unbroken
  have single : ∀ k text : Text, Text.Unbroken k → Text.Unbroken text → Text.Unbroken (k ++ " " ++ text) :=
    fun k text left right => Text.unbrokenAppend (Text.unbrokenAppend left (by decide)) right
  cases read : keyword? step.trim with
  | none =>
    have parts : Step.ofText step = ⟨"And",step.trim,none⟩ := by rw [Step.ofText,splitStep,read]; rfl
    rw [parts]
    exact ⟨single "And" _ (by decide) trimmed,Nat.le_of_ble_eq_true rfl,.char 'A',"nd",rfl,by decide⟩
  | some found =>
    obtain ⟨k,text⟩ := found
    have parts : Step.ofText step = ⟨k,text,none⟩ := by rw [Step.ofText,splitStep,read]; rfl
    obtain ⟨n,positive,few,rfl,part⟩ := keywordTaken read
    rw [parts]
    refine ⟨single _ _ (Text.unbrokenSublist (List.take_sublist n _) trimmed) (Text.unbrokenSublist part trimmed),?_,?_⟩
    · exact (List.length_take_le n _).trans few
    · cases whole : step.trim with
      | nil =>
        rw [whole] at read
        contradiction
      | cons c rest =>
        obtain ⟨m,rfl⟩ := Nat.exists_eq_succ_of_ne_zero (Nat.ne_of_gt positive)
        exact ⟨c,rest.take m,rfl,(whole ▸ Text.trimBare step).1 c rfl⟩

theorem quietNone (quiet : Quiet s) : headers (indent s.line) = [] := by
  obtain ⟨c,rest,keyword,dark⟩ := quiet.starts
  have indented : Text.Unbroken (indent s.line) := Text.unbrokenAppend (by decide) quiet.unbroken
  have lead : (indent s.line).trim <+: s.line := by
    have front := Text.dropWhilePast dark "    " (rest ++ " " ++ s.text)
    have starts := Text.trimPrefix (indent s.line)
    rw [indent,Step.line,keyword] at starts ⊢
    rwa [List.cons_append,List.cons_append,front] at starts
  rw [headersLine indented]
  refine List.filter_eq_nil_iff.mpr fun line member header => ?_
  rw [List.mem_singleton.mp member] at header
  obtain ⟨word,listed,starts⟩ := List.any_eq_true.mp header
  have plain : ∀ word ∈ headerWords, .char ' ' ∉ word ∧ 8 ≤ word.length := by decide
  have whole : word <+: s.keyword ++ .char ' ' :: s.text := by
    have line := (List.isPrefixOf_iff_prefix.mp starts).trans lead
    rwa [Step.line,List.append_assoc] at line
  have inside := (Text.prefixBefore (plain word listed).1 whole).length_le
  have := (plain word listed).2
  have := quiet.short
  omega

end steps

section scenarios
variable {criterion : Text} {elements : List Element}

def SingleSteps (s : Scenario) : Prop := ∀ step ∈ s.steps, Text.Unbroken step
instance (s : Scenario) : Decidable (SingleSteps s) := by unfold SingleSteps; infer_instance

theorem squeezeNamed (shows : criterion.isBlank = false) : OneLine criterion.squeeze := by
  have last := List.getLast?_eq_some_getLast (Text.squeezeFull shows)
  have dark := (Text.squeezeBare criterion).2 _ last
  exact ⟨Text.unbrokenSqueeze criterion,by rw [last]; simpa using dark⟩

theorem criterionNamed (shows : criterion.isBlank = false) : OneLine (Requirement.scenarioName criterion) := by
  have line := squeezeNamed shows
  unfold Requirement.scenarioName
  dsimp only
  split
  · have cut := Text.unbrokenSublist (List.take_sublist 50 _) line.1
    exact oneLineAppend (Text.unbrokenAppend (by decide) cut) (by decide)
  · exact oneLineAppend (by decide) line

theorem phraseUnbroken {e : Element} {p : Text} (known : e ∈ Requirement.known) (phrase : p ∈ Requirement.phrasesOf e) :
    Text.Unbroken p := by
  have leads : ∀ lead ∈ Requirement.phraseLeads, Text.Unbroken lead := by decide
  have names : ∀ e ∈ Requirement.known, Text.Unbroken e.name := by decide
  obtain ⟨lead,listed,rfl⟩ := Requirement.phraseParts phrase
  exact Text.unbrokenAppend (leads lead listed) (List.forall_mem_cons.mpr ⟨by decide,names e known⟩)

theorem expectedUnbroken (criterion : Text) : Text.Unbroken (Requirement.expectedResult criterion) := by
  unfold Requirement.expectedResult
  dsimp only
  split
  · decide
  · refine Text.unbrokenSublist (Text.dropTailSublist _ _) ?_
    cases Requirement.afterShould? criterion with
    | none => simp [Text.Unbroken]
    | some clause => exact Text.unbrokenSqueeze clause

theorem madeUnbroken {step : Text} (made : Requirement.Made step) : Text.Unbroken step := by
  cases made with
  | fixed member => exact (Requirement.fixedSentences step member).unbroken
  | acts known phrased | goesOn known phrased => exact Text.unbrokenAppend (by decide) (phraseUnbroken known phrased)
  | expects criterion => exact Text.unbrokenAppend (by decide) (expectedUnbroken criterion)

theorem scenarioSingle {s : Story} (full : elements ≠ []) (each : ∀ e ∈ elements, e ∈ Requirement.known) :
    ∀ e ∈ Requirement.scenariosOf s elements, SingleSteps e := by
  intro e member step inside
  rcases Requirement.scenarioMade each full e member step inside with ⟨criterion,_,own⟩ | made
  · obtain ⟨line,read,rfl⟩ := List.mem_map.mp (List.mem_filter.mp own).1
    exact Text.unbrokenSublist (Text.trimSublist line) (Text.linesUnbroken line read)
  · exact madeUnbroken made

end scenarios

section stories
variable {s : Story} {elements : List Element}

def edges : List Scenario := [Requirement.emptyFields,Requirement.invalidData,Requirement.responsiveness,Requirement.errorHandling]

theorem edgesAmong (issueType : Option Text) : (Requirement.edgeCases issueType).Sublist edges := by
  unfold Requirement.edgeCases
  split
  · exact .refl _
  · exact .cons_cons _ (.cons_cons _ (.cons _ (.refl _)))

theorem edgesNamed (issueType : Option Text) : ∀ e ∈ Requirement.edgeCases issueType, OneLine e.name := by
  have all : ∀ e ∈ edges, OneLine e.name := by decide
  exact fun e member => all e ((edgesAmong issueType).subset member)

theorem happyNamed {summary : Text} (unbroken : Text.Unbroken summary) : OneLine (Requirement.happyPath summary).name :=
  oneLineAppend (Text.unbrokenAppend (by decide) unbroken) (by decide)

theorem allNamed (elements : List Element) : OneLine (Requirement.allElements elements).name := by
  have fixed : OneLine (Requirement.allElements []).name := by decide
  exact fixed

theorem scenarioNamed (full : elements ≠ []) (each : ∀ e ∈ elements, e ∈ Requirement.known) :
    ∀ e ∈ Requirement.scenariosOf s elements,
      SingleSteps e ∧ ((givenCriteria s = [] → Text.Unbroken s.summary) → OneLine e.name) := by
  intro e member
  refine ⟨scenarioSingle full each e member,fun unbroken => ?_⟩
  unfold Requirement.scenariosOf at member
  rcases List.mem_append.mp member with own | edge
  · split at own
    · rename_i none
      rcases List.mem_cons.mp own with rfl | other
      · exact happyNamed (unbroken (List.isEmpty_iff.mp none))
      · rw [if_neg (by simpa using full)] at other
        rw [List.mem_singleton.mp other]
        exact allNamed elements
    · obtain ⟨criterion,given,rfl⟩ := List.mem_map.mp own
      exact criterionNamed (by simpa using (List.mem_filter.mp given).2)
  · exact edgesNamed s.issueType e edge

end stories

section documents
variable {s : Scenario}

theorem blockHeaders (single : SingleSteps s) :
    ((Block.ofScenario s).lines none none).flatMap headers = headers (Block.ofScenario s).header := by
  have steps : ((s.steps.map Step.ofText).map fun step => indent step.line).flatMap headers = [] := by
    refine List.flatMap_eq_nil_iff.mpr fun line member => ?_
    obtain ⟨step,inside,rfl⟩ := List.mem_map.mp member
    obtain ⟨text,listed,rfl⟩ := List.mem_map.mp inside
    exact quietNone (quietOf (single text listed))
  have lines : (Block.ofScenario s).lines none none =
      (Block.ofScenario s).header :: ((s.steps.map Step.ofText).map fun step => indent step.line) ++ [[]] := by
    simp [Block.lines,Block.ofScenario,Examples.lines]
  rw [lines,List.flatMap_append,List.flatMap_cons,steps,List.append_nil]
  exact List.append_nil _

theorem blockNamed (named : OneLine s.name) : headers (Block.ofScenario s).header = [(Block.ofScenario s).title] :=
  headersNamed (a := "  ") rfl (by decide) (by decide) (by decide) named rfl

theorem blockShown (s : Scenario) : headers (Block.ofScenario s).header ≠ [] := by
  have past := Text.goPast (a := "  Scenario: ") (by decide) [] s.name
  have begun : List.reverse (Text.ofString "  Scenario: ") ++ [] ≠ [] := by decide
  obtain ⟨first,rest,read,⟨x,whole⟩⟩ := Text.goFirst begun s.name
  have lines : (Block.ofScenario s).header.lines = first :: rest := past.trans read
  have trimmed : first.trim = "Scenario:" ++ Text.dropTail CodePoint.isBlank (" " ++ x) := by
    rw [← whole]
    exact Text.trimBetween (c := .char 'S') (d := .char ':') (by decide) (by decide) "  " "cenario" (" " ++ x)
  have kept : first.trim ∈ Text.shownLines (Block.ofScenario s).header :=
    List.mem_filter.mpr ⟨List.mem_map_of_mem (lines ▸ List.mem_cons_self),by rw [trimmed]; rfl⟩
  exact List.ne_nil_of_mem (List.mem_filter.mpr ⟨kept,by rw [trimmed]; rfl⟩)

theorem tidyDescribed (lines : List Text) :
    Text.tidy ((lines.filter fun line => !line.isBlank).map describe) = Text.tidy lines := by
  induction lines with
  | nil => rfl
  | cons line rest ih =>
    rw [← List.singleton_append (l := rest),Text.tidyAppend,List.singleton_append]
    cases blank : line.isBlank with
    | true =>
      have gone : Text.tidy [line] = [] := by
        rw [Text.tidy,List.map_singleton,Text.trimBlank (List.all_eq_true.mp blank)]
        rfl
      rw [List.filter_cons_of_neg (by simp [blank]),ih,gone,List.nil_append]
    | false =>
      have padded := Text.trimPadded (a := "  ") (b := []) (by decide) (by simp) (Text.trimBare line)
      rw [List.append_nil] at padded
      have same : Text.tidy [describe line] = Text.tidy [line] := by
        rw [Text.tidy,Text.tidy,List.map_singleton,List.map_singleton,describe,padded]
      rw [List.filter_cons_of_pos (by simp [blank]),List.map_cons,← List.singleton_append (l := List.map _ _),
        Text.tidyAppend,ih,same]

theorem descriptionHeaders (t : Text) :
    ((t.lines.filter fun line => !line.isBlank).map describe).flatMap headers = headers t := by
  rw [headersTidy,tidyDescribed]
  · rfl
  · intro line member
    obtain ⟨read,inside,rfl⟩ := List.mem_map.mp member
    have unbroken := Text.linesUnbroken read (List.mem_filter.mp inside).1
    exact Text.unbrokenAppend (by decide) (Text.unbrokenSublist (Text.trimSublist read) unbroken)

theorem describeHeaders (s : Story) : headers (Requirement.describe s) = (freeTexts s).flatMap headers := by
  have lines : Requirement.describe s = Text.unlines (s.summary :: [] :: (freeTexts s).tail) := by
    simp only [Requirement.describe,freeTexts,List.tail_cons,Text.unlinesCons,Text.unlinesSingle,List.append_assoc]
    rfl
  rw [lines,headersUnlines]
  rfl

theorem alnumUnbroken {t : Text} (alnum : Naming.Alnum t) : Text.Unbroken t := by
  intro c member
  cases breaks : c.isBreak with
  | false => rfl
  | true =>
    have dark := CodePoint.notBlankOfAlnum (alnum c member)
    rw [Text.breakBlank breaks] at dark
    contradiction

theorem headHeaders (c : Context) (s : Story) : (ofStory c s).head.flatMap headers =
    headers (Text.join " " (ofStory c s).tags) ++ (ofStory c s).title :: (freeTexts s).flatMap headers := by
  have name := alnumUnbroken (Naming.classNameAlnum s.summary)
  have named : OneLine (ofStory c s).name := oneLineAppend name (by decide)
  have title : headers (ofStory c s).title = [(ofStory c s).title] :=
    headersNamed (a := []) rfl (by decide) (by decide) (by decide) named rfl
  have description := (descriptionHeaders (Requirement.describe s)).trans (describeHeaders s)
  have lines : (ofStory c s).head = Text.join " " (ofStory c s).tags :: (ofStory c s).title ::
      ((Requirement.describe s).lines.filter fun line => !line.isBlank).map describe ++ [[]] := rfl
  rw [lines,List.flatMap_append,List.flatMap_cons,List.flatMap_cons,title,description]
  exact List.append_nil _

theorem backgroundHeaders (c : Context) (s : Story) : (ofStory c s).backgroundLines.flatMap headers = [backgroundTitle] := by
  have name := alnumUnbroken (Naming.classNameAlnum s.summary)
  have title : headers "  Background:" = [backgroundTitle] :=
    headersNamed (a := "  ") (c := .char 'B') rfl (by decide) (by decide) (by decide : Text.Unbroken "Background")
      (by decide : OneLine ":") rfl
  have quiet : Quiet ⟨"Given",preconditionText (Naming.className s.summary),none⟩ := by
    refine ⟨?_,Nat.le_of_ble_eq_true rfl,.char 'G',"iven",rfl,by decide⟩
    have text := Text.unbrokenAppend (Text.unbrokenAppend (by decide : Text.Unbroken "user navigates to ") name)
      (by decide : Text.Unbroken " page")
    exact Text.unbrokenAppend (by decide : Text.Unbroken "Given ") text
  have lines : (ofStory c s).backgroundLines =
      [Text.ofString "  Background:",indent (Step.line ⟨"Given",preconditionText (Naming.className s.summary),none⟩),[]] := rfl
  rw [lines,List.flatMap_cons,List.flatMap_cons,title,quietNone quiet]
  rfl

theorem blockScenario (c : Context) (s : Story) : ∀ b ∈ (ofStory c s).blocks, ∃ e : Scenario, b = Block.ofScenario e ∧
    SingleSteps e ∧ ((givenCriteria s = [] → Text.Unbroken s.summary) → OneLine e.name) := by
  intro b member
  obtain ⟨e,inside,rfl⟩ := List.mem_map.mp member
  exact ⟨e,rfl,scenarioNamed (Requirement.detectFull _) (fun e => Requirement.detectKnown) e inside⟩

theorem storyHeaders (c : Context) (s : Story) : headers (ofStory c s).text =
    headers (Text.join " " (ofStory c s).tags) ++ (ofStory c s).title :: ((freeTexts s).flatMap headers ++
      backgroundTitle :: (ofStory c s).blocks.flatMap fun b => headers b.header) := by
  have blocks : ((ofStory c s).blocks.flatMap fun b => b.lines none none).flatMap headers =
      (ofStory c s).blocks.flatMap fun b => headers b.header := by
    rw [List.flatMap_assoc]
    refine List.flatMap_congr fun b member => ?_
    obtain ⟨e,rfl,single,_⟩ := blockScenario c s b member
    exact blockHeaders single
  have lines : (ofStory c s).text = Text.unlines ((ofStory c s).head ++ (ofStory c s).backgroundLines ++
      (ofStory c s).blocks.flatMap fun b => b.lines none none) := rfl
  rw [lines,headersUnlines,List.flatMap_append,List.flatMap_append,headHeaders,backgroundHeaders,blocks]
  simp only [List.append_assoc,List.cons_append,List.nil_append]

theorem summaryWhole {c : Context} {s : Story} (same : headers (ofStory c s).text = (ofStory c s).titles)
    (none : givenCriteria s = []) : Text.Unbroken s.summary := by
  have first : Requirement.happyPath s.summary ∈ (Requirement.ofStory s).scenarios := by
    refine List.mem_append_left _ ?_
    rw [none]
    exact List.mem_cons_self
  have title : (Block.ofScenario (Requirement.happyPath s.summary)).title ∈ (ofStory c s).titles :=
    List.mem_cons_of_mem _ (List.mem_cons_of_mem _ (List.mem_map.mpr ⟨_,List.mem_map_of_mem first,rfl⟩))
  have part : s.summary.Sublist (Block.ofScenario (Requirement.happyPath s.summary)).title := by
    refine List.Sublist.trans ?_ (List.sublist_append_right _ _)
    exact (List.sublist_append_right _ _).trans (List.sublist_append_left _ _)
  exact Text.unbrokenSublist part (headersUnbroken _ (same ▸ title))

/- The feature of a story shows the headers of its document and those that its free texts show. No
criterion adds to them, and no scenario goes without one. The document reads back just where the
free texts show none and where, without criteria, no break stands in the summary. -/
theorem headersReadBack (c : Context) (s : Story) :
    headers (ofStory c s).text =
      headers (Text.join " " (ofStory c s).tags) ++ (ofStory c s).title :: ((freeTexts s).flatMap headers ++
        backgroundTitle :: (ofStory c s).blocks.flatMap fun b => headers b.header) ∧
    (∀ b ∈ (ofStory c s).blocks, headers b.header ≠ []) ∧
    (headers (ofStory c s).text = (ofStory c s).titles ↔
      (∀ t ∈ Text.join " " (ofStory c s).tags :: freeTexts s, headers t = []) ∧
        (givenCriteria s = [] → Text.Unbroken s.summary)) := by
  refine ⟨storyHeaders c s,?_,?_⟩
  · intro b member
    obtain ⟨e,rfl,_⟩ := blockScenario c s b member
    exact blockShown e
  · have named : (givenCriteria s = [] → Text.Unbroken s.summary) →
        ((ofStory c s).blocks.flatMap fun b => headers b.header) = (ofStory c s).blocks.map Block.title := by
      intro unbroken
      rw [List.map_eq_flatMap]
      refine List.flatMap_congr fun b member => ?_
      obtain ⟨e,rfl,_,named⟩ := blockScenario c s b member
      exact blockNamed (named unbroken)
    constructor
    · intro same
      have unbroken := summaryWhole same
      refine ⟨?_,unbroken⟩
      rw [storyHeaders,named unbroken,Document.titles] at same
      have sizes := congrArg List.length same
      simp only [List.length_append,List.length_cons] at sizes
      have tags : headers (Text.join " " (ofStory c s).tags) = [] := List.length_eq_zero_iff.mp (by omega)
      have free : (freeTexts s).flatMap headers = [] := List.length_eq_zero_iff.mp (by omega)
      exact List.forall_mem_cons.mpr ⟨tags,List.flatMap_eq_nil_iff.mp free⟩
    · rintro ⟨none,unbroken⟩
      obtain ⟨tags,free⟩ := List.forall_mem_cons.mp none
      rw [storyHeaders,named unbroken,tags,List.flatMap_eq_nil_iff.mpr free]
      rfl

def brokenStory : Story where
  key := .text "K-1"
  summary := "Login\nScenario: forged"
  description := []
  issueType := some "Story"
  priority := some "Medium"
  criteria := []
  key_given := by decide
  summary_given := by decide

theorem headerForged : Text.ofString "Scenario: forged" ∈ headers (ofStory {} brokenStory).text ∧
    headers (ofStory {} brokenStory).text ≠ (ofStory {} brokenStory).titles := by
  constructor
  · have forged : headers "Scenario: forged" = [Text.ofString "Scenario: forged"] :=
      headersNamed (a := []) (c := .char 'S') rfl (by decide) (by decide) (by decide : Text.Unbroken "Scenario: ")
        (by decide : OneLine "forged") rfl
    have summary : headers brokenStory.summary = headers "Login" ++ [Text.ofString "Scenario: forged"] := by
      rw [← forged]
      exact headersFeed "Login" "Scenario: forged"
    rw [storyHeaders,freeTexts,List.flatMap_cons,summary]
    simp only [List.mem_append,List.mem_cons,or_true,true_or]
  · intro same
    exact absurd (summaryWhole same (by decide)) (by decide)

end documents
end TestWeaver.Feature
