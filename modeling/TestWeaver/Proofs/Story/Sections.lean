import Mathlib.Data.List.Infix
import TestWeaver.Proofs.Story.Criteria

/-! The part of a description that criteria are taken from. It begins behind the first place where
the name of a heading ends a line, wherever in the line the name begins, and it goes on to the first
empty line. -/
namespace TestWeaver.Criteria
open Text (IsLine ended)

inductive Spelled : List String → Text → Prop where
  | none : Spelled [] []
  | last {w : String} {t : Text} (word : t.isCaselessly w) : Spelled [w] t
  | more {w v : String} {ws : List String} {a b t : Text} (word : a.isCaselessly w) (blank : b.isBlank)
      (later : Spelled (v :: ws) t) : Spelled (w :: v :: ws) (a ++ b ++ t)

def isMark (c : CodePoint) : Bool := c == .char ':' || c.isBlank

def Begins (heading : List (List String)) (t : Text) : Prop :=
  ∃ words ∈ heading, ∃ name marks rest : Text, Spelled words name ∧ (∀ c ∈ marks, isMark c) ∧
    t = name ++ marks ++ .char '\n' :: rest

def Heads (heading : List (List String)) (t : Text) : Prop := ∃ u, u <:+ t ∧ Begins heading u

theorem headsSuffix {heading : List (List String)} {t u : Text} (ends : u <:+ t) (heads : Heads heading u) :
    Heads heading t := by
  obtain ⟨v,inside,begins⟩ := heads
  exact ⟨v,inside.trans ends,begins⟩

section reading
variable {heading : List (List String)} {t u rest body : Text}

def behind? (heading : List (List String)) (t : Text) : Option Text :=
  heading.findSome? fun words => (afterWords? words t).bind bodyAfter?

theorem wordsSome {words : List String} (read : afterWords? words t = some rest) :
    ∃ name, t = name ++ rest ∧ Spelled words name := by
  induction words generalizing t with
  | nil => exact ⟨[],Option.some.inj read,.none⟩
  | cons w ws ih =>
    cases ws with
    | nil =>
      obtain ⟨a,whole,taken⟩ := Text.caselesslySome read
      exact ⟨a,whole,.last (by simp [Text.isCaselessly,taken])⟩
    | cons v ws =>
      obtain ⟨t₁,first,later⟩ := Option.bind_eq_some_iff.mp read
      obtain ⟨a,rfl,taken⟩ := Text.caselesslySome first
      obtain ⟨name,rest₁,spelled⟩ := ih later
      have blank : Text.isBlank (t₁.takeWhile CodePoint.isBlank) := List.all_takeWhile
      refine ⟨a ++ t₁.takeWhile CodePoint.isBlank ++ name,?_,.more (by simp [Text.isCaselessly,taken]) blank spelled⟩
      rw [List.append_assoc,List.append_assoc,← rest₁,Text.dropBlank,List.takeWhile_append_dropWhile]

def marksOf (t : Text) : Text := Text.dropTail (· != .char '\n') (t.takeWhile isMark)

theorem bodyMarksOf (t : Text) : bodyAfter? t = if (marksOf t).isEmpty then none else some (t.drop (marksOf t).length) := rfl

theorem bodySome (read : bodyAfter? t = some body) :
    ∃ marks : Text, (∀ c ∈ marks, isMark c) ∧ t = marks ++ .char '\n' :: body := by
  have starts : marksOf t <+: t.takeWhile isMark := by
    have ends := List.dropWhile_suffix (· != CodePoint.char '\n') (l := (t.takeWhile isMark).reverse)
    have starts := List.reverse_prefix.mpr ends
    rwa [List.reverse_reverse] at starts
  have feed : ∀ c ∈ (marksOf t).getLast?, c = .char '\n' := by
    intro c member
    rw [marksOf,Text.dropTail,List.getLast?_reverse] at member
    have kept := List.head?_dropWhile_not (· != CodePoint.char '\n') (t.takeWhile isMark).reverse
    rw [member] at kept
    simpa using kept
  rw [bodyMarksOf] at read
  generalize marksOf t = kept at starts read feed
  rcases List.eq_nil_or_concat kept with rfl | ⟨marks,c,rfl⟩
  · contradiction
  · rw [List.concat_eq_append] at starts read feed
    obtain rfl : c = .char '\n' := feed c (by simp)
    obtain ⟨rest,whole⟩ := starts.trans (List.takeWhile_prefix isMark)
    rw [if_neg (by simp),← whole,List.drop_left] at read
    refine ⟨marks,fun c member => ?_,by rw [← whole,← Option.some.inj read]; simp⟩
    exact List.all_eq_true.mp List.all_takeWhile c (starts.subset (List.mem_append_left _ member))

theorem behindBegins (read : behind? heading t = some body) : Begins heading t := by
  obtain ⟨words,member,found⟩ := List.exists_of_findSome?_eq_some read
  obtain ⟨t₁,named,ended⟩ := Option.bind_eq_some_iff.mp found
  obtain ⟨name,rfl,spelled⟩ := wordsSome named
  obtain ⟨marks,each,rfl⟩ := bodySome ended
  exact ⟨words,member,name,marks,body,spelled,each,by simp⟩

end reading

section spelled
variable {heading : List (List String)} {t u x rest : Text} {letter : Char} {c : CodePoint}

theorem smallBeyond (beyond : 0x80 ≤ c.value) : c.small = c := by
  cases c with
  | half u => rfl
  | char c =>
    have wide : ¬ (65 ≤ c.val ∧ c.val ≤ 90) := by
      rintro ⟨_,upper⟩
      have bound : c.toNat ≤ 90 := upper
      simp only [CodePoint.value] at beyond
      omega
    have same : c.toLower = c := dif_neg wide
    exact congrArg CodePoint.char same

theorem smallBlank (blank : c.isBlank) : c.small = c := by
  by_cases low : c.value < 0x80
  · exact CodePoint.asciiForall (P := fun c => c.isBlank → c.small = c) (by decide +kernel) low blank
  · exact smallBeyond (by omega)

theorem letterDark (small : (CodePoint.char letter).isSmall) (same : c.isCaselessly letter) : c.isBlank = false := by
  cases blank : c.isBlank with
  | false => rfl
  | true =>
    exfalso
    have plain := CodePoint.notBlankOfAlnum (p := .char letter) (by simp [CodePoint.isAlnum,CodePoint.isLetter,small])
    rw [CodePoint.isCaselessly,smallBlank blank] at same
    simp only [Bool.or_eq_true,beq_iff_eq,Bool.and_eq_true] at same
    cases c with
    | half u => simp [CodePoint.isBlank] at blank
    | char c =>
      rcases same with ((same | ⟨_,kelvin⟩) | ⟨_,long⟩) | ⟨_,turkish⟩
      · rw [← same,blank] at plain
        contradiction
      all_goals
        simp only [CodePoint.value,CodePoint.isBlank,Bool.or_eq_true,Bool.and_eq_true,decide_eq_true_eq,beq_iff_eq] at *
        omega

def Worded (words : List String) : Prop :=
  ∀ w ∈ words, w.toList ≠ [] ∧ w.toList.all fun letter => (CodePoint.char letter).isSmall
instance (words : List String) : Decidable (Worded words) := by unfold Worded; infer_instance

theorem spelledDark {words : List String} {name : Text} (letters : Worded words) (full : words ≠ []) (spelled : Spelled words name) :
    ∃ c rest, name = c :: rest ∧ c.isBlank = false := by
  obtain ⟨w,ws,rfl⟩ := List.exists_cons_of_ne_nil full
  obtain ⟨given,small⟩ := letters w List.mem_cons_self
  have front : ∀ a : Text, a.isCaselessly w → ∃ c rest, a = c :: rest ∧ c.isBlank = false := by
    intro a word
    obtain ⟨letter,others,word₁⟩ := List.exists_cons_of_ne_nil given
    rw [Text.isCaselessly,word₁,beq_iff_eq] at word
    cases a with
    | nil => contradiction
    | cons c a =>
      cases same : c.isCaselessly letter with
      | false => simp [Text.afterCaselessly?,same] at word
      | true => exact ⟨c,a,rfl,letterDark (List.all_eq_true.mp small letter (word₁ ▸ List.mem_cons_self)) same⟩
  cases spelled with
  | last word => exact front name word
  | more word blank later =>
    obtain ⟨c,rest,rfl,dark⟩ := front _ word
    exact ⟨c,_,rfl,dark⟩

theorem spelledRead {words : List String} {name : Text} (letters : Worded words) (spelled : Spelled words name) (x : Text) :
    afterWords? words (name ++ x) = some x := by
  induction spelled with
  | none => rfl
  | last word => exact Text.caselesslyAppend (beq_iff_eq.mp word) x
  | @more w v ws a b t word blank later ih =>
    obtain ⟨_,letters⟩ := List.forall_mem_cons.mp letters
    obtain ⟨c,rest,rfl,dark⟩ := spelledDark letters (by simp) later
    have first := Text.caselesslyAppend (beq_iff_eq.mp word) (b ++ (c :: rest ++ x))
    have next : Text.dropBlank ([] ++ (b ++ (c :: rest ++ x))) = c :: rest ++ x := by
      rw [List.nil_append,Text.dropBlank,List.dropWhile_append_of_pos (List.all_eq_true.mp blank),List.cons_append,
        List.dropWhile_cons_of_neg (by simp [dark])]
    show (Text.afterCaselessly? w.toList _).bind _ = some x
    rw [List.append_assoc,List.append_assoc,first,Option.bind_some,next]
    exact ih letters

theorem marksOfFeed {marks : Text} (each : ∀ c ∈ marks, isMark c) (rest : Text) :
    marksOf (marks ++ .char '\n' :: rest) = marks ++ .char '\n' :: marksOf rest := by
  rw [marksOf,List.takeWhile_append_of_pos each,List.takeWhile_cons_of_pos (by decide)]
  exact Text.dropTailPast (p := (· != .char '\n')) (c := .char '\n') (by decide) marks (rest.takeWhile isMark)

theorem bodyFound {marks : Text} (each : ∀ c ∈ marks, isMark c) (rest : Text) :
    (bodyAfter? (marks ++ .char '\n' :: rest)).isSome := by
  rw [bodyMarksOf,marksOfFeed each,if_neg (by simp)]
  rfl

theorem headingsWorded : ∀ heading ∈ headings, ∀ words ∈ heading, Worded words := by decide

theorem beginsIff (known : heading ∈ headings) : Begins heading t ↔ (behind? heading t).isSome := by
  constructor
  · rintro ⟨words,member,name,marks,rest,spelled,each,rfl⟩
    rw [behind?,List.findSome?_isSome_iff]
    refine ⟨words,member,?_⟩
    rw [List.append_assoc,spelledRead (headingsWorded heading known words member) spelled,Option.bind_some]
    exact bodyFound each rest
  · intro found
    obtain ⟨body,read⟩ := Option.isSome_iff_exists.mp found
    exact behindBegins read

theorem headsIff (known : heading ∈ headings) : Heads heading t ↔ ∃ u ∈ t.tails, (behind? heading u).isSome := by
  constructor
  · rintro ⟨u,ends,begins⟩
    exact ⟨u,(List.mem_tails u t).mpr ends,(beginsIff known).mp begins⟩
  · rintro ⟨u,ends,found⟩
    exact ⟨u,(List.mem_tails u t).mp ends,(beginsIff known).mpr found⟩

end spelled

section within
variable {heading : List (List String)} {u r x : Text} {c : CodePoint}

def Feeds (t : Text) : Prop := t.getLast? = some (.char '\n')

theorem feedsTail {d : CodePoint} (feeds : Feeds (d :: u)) (other : d ≠ .char '\n') : Feeds u := by
  cases u with
  | nil => exact absurd (Option.some.inj feeds) other
  | cons e u => rwa [Feeds,List.getLast?_cons_cons] at feeds

theorem feedsSuffix {v : Text} (feeds : Feeds u) (ends : v <:+ u) (full : v ≠ []) : Feeds v := by
  obtain ⟨front,rfl⟩ := ends
  rwa [Feeds,List.getLast?_append_of_ne_nil _ full] at feeds

theorem caselesslyWithin {w : List Char} (feeds : Feeds u)
    (letters : ∀ letter ∈ w, CodePoint.isCaselessly letter (.char '\n') = false)
    (read : Text.afterCaselessly? w (u ++ r) = some x) :
    ∃ y, x = y ++ r ∧ Feeds y ∧ Text.afterCaselessly? w u = some y := by
  induction w generalizing u with
  | nil => exact ⟨u,(Option.some.inj read).symm,feeds,rfl⟩
  | cons letter w ih =>
    obtain ⟨here,later⟩ := List.forall_mem_cons.mp letters
    cases u with
    | nil => contradiction
    | cons d u =>
      cases same : d.isCaselessly letter with
      | false => simp [Text.afterCaselessly?,same] at read
      | true =>
        have other : d ≠ .char '\n' := by
          rintro rfl
          rw [here] at same
          contradiction
        simp only [List.cons_append,Text.afterCaselessly?,same,if_true] at read ⊢
        exact ih (feedsTail feeds other) later read

/- The words of a name that may be read across the end of some lines, where `t` goes on. -/
def Apart (words : List String) (t : Text) : Prop :=
  (∀ w ∈ words, ∀ letter ∈ w.toList, CodePoint.isCaselessly letter (.char '\n') = false) ∧
    ∀ w ∈ words.tail, Text.afterCaselessly? w.toList t = none

theorem wordsWithin {words : List String} (dark : isMark c = false) (apart : Apart words (c :: r)) (feeds : Feeds u)
    (read : afterWords? words (u ++ c :: r) = some x) :
    ∃ y, x = y ++ c :: r ∧ Feeds y ∧ afterWords? words u = some y := by
  induction words generalizing u with
  | nil => exact ⟨u,(Option.some.inj read).symm,feeds,rfl⟩
  | cons w ws ih =>
    obtain ⟨letters,others⟩ := apart
    obtain ⟨here,later⟩ := List.forall_mem_cons.mp letters
    cases ws with
    | nil => exact caselesslyWithin feeds here read
    | cons v ws =>
      obtain ⟨t₁,first,rest⟩ := Option.bind_eq_some_iff.mp read
      obtain ⟨y,rfl,fed,taken⟩ := caselesslyWithin feeds here first
      have shown : c.isBlank = false := by
        rw [isMark,Bool.or_eq_false_iff] at dark
        exact dark.2
      rw [Text.dropBlank,List.dropWhile_append] at rest
      cases gone : y.dropWhile CodePoint.isBlank with
      | nil =>
        -- the next word of the name would have to begin what goes on
        have other := others v List.mem_cons_self
        rw [gone,List.isEmpty_nil,if_pos rfl,List.dropWhile_cons_of_neg (by simp [shown])] at rest
        cases ws with
        | nil => exact absurd (other.symm.trans rest) (by simp)
        | cons _ _ =>
          obtain ⟨_,next,_⟩ := Option.bind_eq_some_iff.mp rest
          exact absurd (other.symm.trans next) (by simp)
      | cons d y₁ =>
        have fed := feedsSuffix fed (gone ▸ List.dropWhile_suffix CodePoint.isBlank) (by simp)
        rw [gone] at rest
        obtain ⟨z,rfl,last,taken₁⟩ := ih ⟨later,fun o member => others o (List.mem_cons_of_mem v member)⟩ fed rest
        refine ⟨z,rfl,last,?_⟩
        show ((Text.afterCaselessly? w.toList u).bind fun t => afterWords? (v :: ws) (Text.dropBlank t)) = some z
        rw [taken,Option.bind_some,Text.dropBlank,gone,taken₁]

theorem bodyWithin (dark : isMark c = false) (read : bodyAfter? (u ++ c :: r) = some x) : ∃ y, bodyAfter? u = some y := by
  have run : (u ++ c :: r).takeWhile isMark = u.takeWhile isMark := by
    rw [List.takeWhile_append,List.takeWhile_cons_of_neg (by simp [dark]),List.append_nil]
    split
    · rename_i all
      exact ((List.takeWhile_prefix isMark).eq_of_length all).symm
    · rfl
  rw [bodyMarksOf,marksOf,run] at read
  split at read
  · contradiction
  · rename_i kept
    exact ⟨_,if_neg kept⟩

theorem behindWithin (dark : isMark c = false) (apart : ∀ words ∈ heading, Apart words (c :: r)) (feeds : Feeds u)
    (read : behind? heading (u ++ c :: r) = some x) : Begins heading u := by
  obtain ⟨words,member,found⟩ := List.exists_of_findSome?_eq_some read
  obtain ⟨t₁,named,ended⟩ := Option.bind_eq_some_iff.mp found
  obtain ⟨y,rfl,_,taken⟩ := wordsWithin dark (apart words member) feeds named
  obtain ⟨z,body⟩ := bodyWithin dark ended
  obtain ⟨name,rfl,spelled⟩ := wordsSome taken
  obtain ⟨marks,each,rfl⟩ := bodySome body
  exact ⟨words,member,name,marks,z,spelled,each,by simp⟩

end within

section under
variable {heading : List (List String)} {t u r body : Text} {c : CodePoint}

theorem paragraphNone (clear : ¬ Heads heading t) : paragraphUnder? heading t = none := by
  have read : Text.search (fun _ t => behind? heading t) none t = none := by
    refine Text.searchNone fun b u ends => ?_
    cases found : behind? heading u with
    | none => rfl
    | some body => exact absurd ⟨u,ends,behindBegins found⟩ clear
  exact congrArg (Option.map _) read

theorem sectionNone (clear : ∀ heading ∈ headings, ¬ Heads heading t) : sectionOf t = [] := by
  have nowhere : (headings.findSome? fun heading => paragraphUnder? heading t) = none :=
    List.findSome?_eq_none_iff.mpr fun heading member => paragraphNone (clear heading member)
  rw [sectionOf,nowhere]
  rfl

theorem paragraphPast (dark : isMark c = false) (apart : ∀ words ∈ heading, Apart words (c :: r)) (lines : u = [] ∨ Feeds u)
    (clear : ¬ Heads heading u) (read : behind? heading (c :: r) = some body) :
    paragraphUnder? heading (u ++ c :: r) = some (Text.firstBlock body) := by
  have past : Text.search (fun _ t => behind? heading t) none (u ++ c :: r) =
      Text.search (fun _ t => behind? heading t) (u.getLast?.or none) (c :: r) := by
    refine Text.searchPast fun b v full ends => ?_
    cases found : behind? heading (v ++ c :: r) with
    | none => rfl
    | some x =>
      have feeds : Feeds v := by
        rcases lines with rfl | feeds
        · exact absurd (List.suffix_nil.mp ends) full
        · exact feedsSuffix feeds ends full
      exact absurd ⟨v,ends,behindWithin dark apart feeds found⟩ clear
  exact congrArg (Option.map Text.firstBlock) (past.trans (Text.searchHere read))

end under

section lines
variable {lines : List Text}

theorem ofTextLinesIn (t : Text) : ofText t = group [] (Text.linesIn t) := congrArg (group []) (Text.linesTrim t)

def following (t : Text) : List Text := Text.tidy ((Text.splitOn t (.char '\n')).takeWhile fun line => !line.isEmpty)

theorem linesFollowed {after : Text} (full : lines ≠ []) (each : ∀ line ∈ lines, IsLine line) :
    Text.linesIn (Text.firstBlock (Text.dropTail CodePoint.isBlank (ended lines ++ after))) = lines ++ following after := by
  rw [Text.dropTailSame (f := fun t => Text.linesIn t.firstBlock) (fun _ _ => Text.blockConcat),Text.linesBlock,
    Text.splitEnded fun line member => (each line member).single]
  obtain ⟨first,rest,rfl⟩ := List.exists_cons_of_ne_nil full
  obtain ⟨here,later⟩ := List.forall_mem_cons.mp each
  rw [List.cons_append,Text.upToEmpty,List.takeWhile_append_of_pos fun line member => by simpa using (later line member).full,
    ← List.cons_append,Text.tidyAppend,Text.tidyLines each]
  rfl

end lines

section heading
variable {d : CodePoint} {marks before after rest name : Text} {lines : List Text}

theorem bodyMarks (each : ∀ c ∈ marks, isMark c) (dark : isMark d = false) :
    bodyAfter? (marks ++ .char '\n' :: d :: rest) = some (d :: rest) := by
  have none : marksOf (d :: rest) = [] := by
    rw [marksOf,List.takeWhile_cons_of_neg (by simp [dark])]
    rfl
  rw [bodyMarksOf,marksOfFeed each,none,if_neg (by simp),List.append_cons marks _ (d :: rest),List.drop_left]

def criteriaHeading : List (List String) := [["acceptance","criteria"],["ac"]]

theorem sectionFirst {t p : Text} (found : paragraphUnder? criteriaHeading t = some p) : sectionOf t = p.trim := by
  have first : (headings.findSome? fun heading => paragraphUnder? heading t) = some p := by
    show List.findSome? _ (criteriaHeading :: _) = some p
    rw [List.findSome?_cons,found]
  rw [sectionOf,first]
  rfl

def headingTexts : List Text := ["Acceptance Criteria","Acceptance Criteria:"]

theorem headingRead (named : name ∈ headingTexts) (dark : isMark d = false) :
    behind? criteriaHeading (name ++ .char '\n' :: d :: rest) = some (d :: rest) := by
  have words : ∀ x : Text, afterWords? ["acceptance","criteria"] (Text.ofString "Acceptance Criteria" ++ x) = some x := by
    intro x
    rfl
  have read : ∀ marks : Text, (∀ c ∈ marks, isMark c) → behind? criteriaHeading
      (Text.ofString "Acceptance Criteria" ++ (marks ++ .char '\n' :: d :: rest)) = some (d :: rest) := by
    intro marks each
    rw [behind?,criteriaHeading,List.findSome?_cons,words,Option.bind_some,bodyMarks each dark]
  rcases List.mem_cons.mp named with rfl | later
  · exact read [] (by simp)
  · have colon : Text.ofString "Acceptance Criteria:" = Text.ofString "Acceptance Criteria" ++ [.char ':'] := by decide
    rw [List.mem_singleton.mp later,colon,List.append_assoc]
    exact read [.char ':'] (by decide)

theorem headingApart (r : Text) : ∀ words ∈ criteriaHeading, Apart words (.char 'A' :: r) := by
  have seconds : ∀ words ∈ criteriaHeading, ∀ w ∈ words.tail, w = "criteria" := by decide
  intro words member
  constructor
  · intro w inside letter among
    have small := List.all_eq_true.mp (headingsWorded criteriaHeading (by decide) words member w inside).2 letter among
    rw [Bool.eq_false_iff]
    intro same
    exact absurd (letterDark small same) (by decide)
  · intro w later
    rw [seconds words member w later]
    rfl

theorem headingHead (named : name ∈ headingTexts) : ∃ rest, name = .char 'A' :: rest := by
  rcases List.mem_cons.mp named with rfl | later
  · exact ⟨_,rfl⟩
  · obtain rfl := List.mem_singleton.mp later
    exact ⟨_,rfl⟩

theorem trimmedFeeds (feeds : before = [] ∨ Feeds before) :
    before.dropWhile CodePoint.isBlank = [] ∨ Feeds (before.dropWhile CodePoint.isBlank) := by
  cases kept : before.dropWhile CodePoint.isBlank with
  | nil => exact .inl rfl
  | cons c t =>
    have ends : c :: t <:+ before := kept ▸ List.dropWhile_suffix CodePoint.isBlank
    rcases feeds with rfl | feeds
    · contradiction
    · exact .inr (feedsSuffix feeds ends (by simp))

theorem sectionLines (named : name ∈ headingTexts) (feeds : before = [] ∨ Feeds before)
    (clear : ¬ Heads criteriaHeading before) (full : lines ≠ []) (each : ∀ line ∈ lines, IsLine line)
    (plain : (ended lines).head? ≠ some (.char ':')) :
    Text.linesIn (sectionOf (before ++ name ++ .char '\n' :: (ended lines ++ after)).trim) = lines ++ following after := by
  obtain ⟨n,rfl⟩ := headingHead named
  obtain ⟨d,more,begins,shown⟩ : ∃ d more, ended lines ++ after = d :: more ∧ isMark d = false := by
    obtain ⟨first,others,rfl⟩ := List.exists_cons_of_ne_nil full
    have here := each first List.mem_cons_self
    obtain ⟨d,t,rfl⟩ := List.exists_cons_of_ne_nil here.full
    refine ⟨d,_,rfl,?_⟩
    have colon : d ≠ .char ':' := fun same => plain (congrArg some same)
    simpa [isMark,colon] using here.bare.1 d rfl
  have blank : d.isBlank = false := (Bool.or_eq_false_iff.mp shown).2
  have text := Text.trimBetween (by decide : CodePoint.isBlank (.char 'A') = false) blank before (n ++ [.char '\n']) more
  have clear : ¬ Heads criteriaHeading (before.dropWhile CodePoint.isBlank) := fun heads =>
    clear (headsSuffix (List.dropWhile_suffix CodePoint.isBlank) heads)
  have read : behind? criteriaHeading (.char 'A' :: (n ++ .char '\n' :: d :: Text.dropTail CodePoint.isBlank more)) =
    some (d :: Text.dropTail CodePoint.isBlank more) := headingRead named shown
  have found := paragraphPast (by decide) (headingApart _) (trimmedFeeds feeds) clear read
  have tail : Text.dropTail CodePoint.isBlank (d :: more) = d :: Text.dropTail CodePoint.isBlank more :=
    Text.dropTailPast blank [] more
  simp only [List.append_assoc,List.cons_append,List.nil_append] at text found ⊢
  rw [begins,text,sectionFirst found,Text.linesTrim,← tail,← begins,linesFollowed full each]

end heading
end TestWeaver.Criteria
