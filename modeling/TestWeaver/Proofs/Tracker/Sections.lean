import TestWeaver.Proofs.Session
import TestWeaver.Proofs.Story.Sections
import TestWeaver.Proofs.Tracker.Outline
import TestWeaver.Tracker.Source

/-! Criteria from the description of an issue, which is a document with a list under a title. What
a tracker shows of it has no empty line behind the list: the paragraphs after it go on with its last
item, as far as their lines open no criteria of their own. -/
namespace TestWeaver.Tracker
open Markup (Listing)
open Text (IsLine ended)
open Criteria (Heads criteriaHeading following)

def flat (items : List Text) : List Item := items.map (Item.item · [])

inductive Sectioned (doc : Value) (before : List Text) (title : Text) (items after : List Text) : Prop where
  | parts {front back : List Value} {heading list : Value} {l : Listing}
      (node : Node "doc" (front ++ heading :: list :: back) doc) (first : List.Forall₂ Paragraph front before)
      (titled : Paragraph heading title) (listed : ListsHeld [list] [(l,flat items)])
      (last : List.Forall₂ Paragraph back after) : Sectioned doc before title items after

section sections
variable {doc : Value} {before items after : List Text} {title : Text} {l : Listing}

theorem flatTexts (items : List Text) : textsOfItems (flat items) = items := by
  induction items with
  | nil => rfl
  | cons t items ih =>
    show ([t] ++ textsOfLists []) ++ textsOfItems (flat items) = t :: items
    rw [ih]
    rfl

theorem flatWorded (items : List Text) : ItemsWorded (flat items) := by
  induction items with
  | nil => trivial
  | cons t items ih => exact ⟨⟨fun _ => rfl,trivial⟩,ih⟩

theorem flatFits (each : ∀ t ∈ items, IsLine t) : ∀ t ∈ textsOfItems (flat items), Fits t := by
  rw [flatTexts]
  exact fun t member => ⟨Text.trimOfBare (each t member).bare,(each t member).single⟩

theorem flatOpens (each : ∀ t ∈ items, IsLine t) : List.Forall₂ Criteria.Opens (linesOfItems l 1 (flat items)) items := by
  have fits := flatFits each
  have opened := itemsOpen l 1 (flat items) fits
  rw [itemsTold (flat items) fits (flatWorded items),flatTexts] at opened
  have full : items.filter (fun t => !t.isEmpty) = items :=
    List.filter_eq_self.mpr fun t member => by simpa using (each t member).full
  rwa [full] at opened

theorem flatHead (full : items ≠ []) (each : ∀ t ∈ items, IsLine t) :
    (ended (linesOfItems l 1 (flat items))).head? ≠ some (.char ':') := by
  obtain ⟨t,rest,rfl⟩ := List.exists_cons_of_ne_nil full
  obtain ⟨c,mark,marked,_,sign⟩ := Criteria.markHead l 1
  obtain ⟨d,t,rfl⟩ := List.exists_cons_of_ne_nil (each t List.mem_cons_self).full
  have head : (ended (linesOfItems l 1 (flat ((d :: t) :: rest)))).head? = some c := by
    rw [flat,List.map_cons,linesOfItems,Item.lines,marked]
    rfl
  rw [head]
  exact fun same => sign (Option.some.inj same)

theorem shownFeeds (texts : List Text) : shown texts = [] ∨ Criteria.Feeds (shown texts) := by
  induction texts with
  | nil => exact .inl rfl
  | cons t texts ih =>
    have step : shown (t :: texts) = asLine t ++ shown texts := List.flatMap_cons
    rw [step]
    rcases ih with none | feeds
    · rw [none,List.append_nil]
      cases t with
      | nil => exact .inl rfl
      | cons c t => exact .inr (List.getLast?_concat ..)
    · right
      have full : shown texts ≠ [] := by
        intro none
        rw [none] at feeds
        contradiction
      rwa [Criteria.Feeds,List.getLast?_append_of_ne_nil _ full]

theorem sectionedText (sectioned : Sectioned doc before title items after) (full : title ≠ []) (each : ∀ t ∈ items, IsLine t) :
    ∃ l, plainText doc = .ok
      (shown before ++ title ++ .char '\n' :: (ended (linesOfItems l 1 (flat items)) ++ shown after)).trim := by
  obtain ⟨node,first,titled,listed,last⟩ := sectioned
  rename_i l
  have fits : ∀ t ∈ textsOfLists [(l,flat items)], Fits t := by
    rw [textsOfLists,textsOfLists,List.append_nil]
    exact flatFits each
  obtain ⟨parts,shows,whole⟩ := listsShow [(l,flat items)] listed fits
  obtain ⟨part,rfl⟩ := List.length_eq_one_iff.mp (shows.length_eq.symm)
  obtain ⟨here,_⟩ := List.forall₂_cons.mp shows
  have all := List.rel_append (paragraphsShow first) (.cons (paragraphShows titled) (.cons here (paragraphsShow last)))
  have text := plainShows node (otherShows node (by decide) all)
  refine ⟨l,text.trans (congrArg (Except.ok <| Text.trim ·) ?_)⟩
  rw [linesOfLists,linesOfLists,List.append_nil,List.flatten_singleton] at whole
  rw [whole]
  have line : asLine title = title ++ [.char '\n'] := by
    rw [asLine,if_neg (by simpa using full)]
    rfl
  simp [shown,line,List.flatMap]

def continued (items more : List Text) : List Text :=
  match items.getLast? with
  | some last => items.dropLast ++ Criteria.group [last] more
  | none => []

theorem continuedNone (long : ∀ t ∈ items, Criteria.minimalLength ≤ t.length) : continued items [] = items := by
  rcases List.eq_nil_or_concat items with rfl | ⟨front,last,rfl⟩
  · rfl
  · rw [List.concat_eq_append] at long ⊢
    have here := Criteria.closedLong (long last (by simp))
    rw [continued,List.getLast?_concat,List.dropLast_concat]
    show front ++ Criteria.closed [last] = front ++ [last]
    rw [here]

theorem sectionedCriteria (sectioned : Sectioned doc before title items after) (titled : title ∈ Criteria.headingTexts)
    (full : items ≠ []) (each : ∀ t ∈ items, IsLine t) (long : ∀ t ∈ items, Criteria.minimalLength ≤ t.length)
    (clear : ¬ Heads criteriaHeading (shown before)) :
    ∃ t, plainText doc = .ok t ∧ Criteria.ofText (Criteria.sectionOf t) = continued items (following (shown after)) := by
  obtain ⟨rest,head⟩ := Criteria.headingHead titled
  obtain ⟨l,text⟩ := sectionedText sectioned (by simp [head]) each
  refine ⟨_,text,?_⟩
  have opened := flatOpens (l := l) each
  have lines := itemsLines l 1 (flat items) (flatFits each)
  have shows : linesOfItems l 1 (flat items) ≠ [] := by
    intro none
    rw [none] at opened
    exact full (List.forall₂_nil_left_iff.mp opened)
  rw [Criteria.ofTextLinesIn,Criteria.sectionLines titled (shownFeeds before) clear shows lines (flatHead full each)]
  rcases List.eq_nil_or_concat items with rfl | ⟨front,last,rfl⟩
  · contradiction
  · rw [List.concat_eq_append] at long opened ⊢
    have kept : (front.flatMap fun o => Criteria.closed [o]) = front := by
      rw [Criteria.closedEach]
      exact List.filter_eq_self.mpr fun t member => by simpa using long t (List.mem_append_left _ member)
    rw [Criteria.groupThen opened,kept,continued,List.getLast?_concat,List.dropLast_concat]
    rfl

end sections

section issues
variable {s : Source} {session : Session} {criteriaField doc issue : Value} {key : Text}

inductive Described (criteriaField doc : Value) : Value → Prop where
  | issue {entries fields rendered : List (Value × Value)} {key summary : Value}
      (keyed : Value.lookup? entries (.text "key") = some key) (named : key.isGiven)
      (held : Value.lookup? entries (.text "fields") = some (.mapping fields))
      (shown : ((Value.lookup? entries (.text "renderedFields")).getD .null).orElse (.mapping []) = .mapping rendered)
      (summed : Value.lookup? fields (.text "summary") = some summary) (told : summary.isGiven)
      (described : Source.contentOf (.mapping rendered) (.mapping fields) (.text "description") = .ok doc)
      (bare : criteriaField.isGiven → ∃ v, Source.contentOf (.mapping rendered) (.mapping fields) criteriaField = .ok v ∧
        plainText v = .ok []) : Described criteriaField doc (.mapping entries)

def Sends (session : Session) (key : Text) (issue : Value) : Prop :=
  ∀ url, Client.valueOf url (session.tracker.answer ("issue/" ++ key)) = .ok issue

def Fetches (s : Source) (criteriaField : Value) (key : Text) (session : Session) (criteria : List Text) : Prop :=
  ∃ ticket next, s.ticket criteriaField key session = (.ok (some ticket),next) ∧ ticket.criteria = .ofTexts criteria

theorem fieldOf (entries : List (Value × Value)) (name : Text) :
    (Value.mapping entries).field name = .ok ((Value.lookup? entries (.text name)).getD .null) := rfl

theorem describedTicket {t : Text} (described : Described criteriaField doc issue) (text : plainText doc = .ok t) (key : Text) :
    ∃ ticket, Source.ticketOf issue criteriaField key = .ok ticket ∧ ticket.check = .ok ticket ∧
      ticket.criteria = .ofTexts (Criteria.ofText (Criteria.sectionOf t)) := by
  obtain ⟨keyed,named,held,shown,summed,told,described,bare⟩ := described
  rename_i entries fields rendered issueKey summary
  have whole : (Value.mapping fields).orElse (.mapping []) = .mapping fields := by cases fields <;> rfl
  have made : Source.ticketOf (.mapping entries) criteriaField key = .ok {
      key := issueKey
      summary := summary
      description := .text t
      issueType := Source.nameOf ((Value.lookup? fields (.text "issuetype")).getD .null) "Story"
      status := Source.nameOf ((Value.lookup? fields (.text "status")).getD .null) []
      priority := Source.nameOf ((Value.lookup? fields (.text "priority")).getD .null) "Medium"
      criteria := .ofTexts (Criteria.ofText (Criteria.sectionOf t)) } := by
    have summaryRead : summary.orElse (.text []) = summary := if_pos told
    have keyRead : (Value.mapping entries).get (.text "key") (.text key) = .ok issueKey := by
      show Except.ok ((Value.lookup? entries (.text "key")).getD (.text key)) = _
      rw [keyed]
      rfl
    cases given : criteriaField.isGiven with
    | true =>
      obtain ⟨v,found,nothing⟩ := bare given
      simp only [Source.ticketOf,bind,Except.bind,fieldOf,held,shown,summed,Option.getD_some,whole,described,text,found,nothing,
        given,keyRead,summaryRead,if_true]
      rfl
    | false =>
      simp only [Source.ticketOf,bind,Except.bind,fieldOf,held,shown,summed,Option.getD_some,whole,described,text,given,
        keyRead,summaryRead,Bool.false_eq_true,if_false]
      rfl
  refine ⟨_,made,?_,rfl⟩
  simp [Ticket.check,named,told]

theorem describedFetched {t : Text} (sends : Sends session key issue) (described : Described criteriaField doc issue)
    (text : plainText doc = .ok t) : Fetches s criteriaField key session (Criteria.ofText (Criteria.sectionOf t)) := by
  obtain ⟨ticket,read,accepted,criteria⟩ := describedTicket described text key
  obtain ⟨next,asked⟩ : ∃ next, s.client.issue key [] ["renderedFields"] session = (.ok issue,next) :=
    ⟨_,Prod.ext (sends _) rfl⟩
  refine ⟨ticket,next,?_,criteria⟩
  rw [Source.ticket,Work.bindRun (Work.attemptRun asked)]
  simp only
  rw [Work.bindRun (Work.ofExceptRun read next),accepted]
  rfl

/- Criteria of an issue from its description. Under the first heading they are the items of the list,
where what follows the list goes on with the last item; without any heading there are none. -/
theorem criteriaFetched (sends : Sends session key issue) (described : Described criteriaField doc issue) :
    (∀ before title items after, Sectioned doc before title items after → title ∈ Criteria.headingTexts → items ≠ [] →
      (∀ t ∈ items, IsLine t) → (∀ t ∈ items, Criteria.minimalLength ≤ t.length) → ¬ Heads criteriaHeading (shown before) →
      Fetches s criteriaField key session (continued items (following (shown after))) ∧
      (following (shown after) = [] → Fetches s criteriaField key session items)) ∧
    ∀ t, plainText doc = .ok t → (∀ heading ∈ Criteria.headings, ¬ Heads heading t) → Fetches s criteriaField key session [] := by
  constructor
  · intro before title items after sectioned titled full each long clear
    obtain ⟨t,text,criteria⟩ := sectionedCriteria sectioned titled full each long clear
    have fetched := describedFetched (s := s) sends described text
    rw [criteria] at fetched
    refine ⟨fetched,fun none => ?_⟩
    rwa [none,continuedNone long] at fetched
  · intro t text clear
    have fetched := describedFetched (s := s) sends described text
    rw [Criteria.sectionNone clear] at fetched
    exact fetched

end issues

def sectionDocument (before : List Text) (title : Text) (items after : List Text) : Value :=
  block "doc" (before.map (fun t => block "paragraph" [run t]) ++ block "heading" [run title] ::
    block "bulletList" (items.map fun t => block "listItem" [block "paragraph" [run t]]) ::
    after.map fun t => block "paragraph" [run t])

def describedIssue (doc : Value) : Value :=
  .object [("key",.text "P-1"),("fields",.object [("summary",.text "Login"),("description",doc)])]

def trackerWith (issue : Value) : Session :=
  { tracker := { listed := [("issue/P-1",.answered 200 (some "OK") (.value issue))] } }

def trackerSource : Source :=
  { client := { baseUrl := "https://jira.example.com", authorization := "Basic", isCloud := true }
    projectKey := .text "P"
    criteriaField := some .null }

theorem trackerSends (issue : Value) : Sends (trackerWith issue) "P-1" issue := fun _ => rfl

theorem issueDescribed (doc : Value) : Described .null doc (describedIssue doc) :=
  .issue rfl rfl rfl rfl rfl rfl rfl (by rintro ⟨⟩)

theorem paragraphsOf (texts : List Text) :
    List.Forall₂ Paragraph (texts.map fun t => block "paragraph" [run t]) texts := by
  induction texts with
  | nil => exact .nil
  | cons t texts ih => exact .cons (paragraphOf t) ih

theorem flatHeld (items : List Text) :
    ItemsHeld (items.map fun t => block "listItem" [block "paragraph" [run t]]) (flat items) := by
  induction items with
  | nil => trivial
  | cons t items ih => exact ⟨⟨_,[],blockNode _ _,paragraphOf t,trivial⟩,ih⟩

theorem documentSectioned (before : List Text) (title : Text) (items after : List Text) :
    Sectioned (sectionDocument before title items after) before title items after := by
  have heading := Paragraph.of (.inr rfl) (blockNode "heading" [run title]) (.cons (runInline title) .nil)
  rw [List.flatten_singleton] at heading
  exact .parts (blockNode _ _) (paragraphsOf before) heading ⟨⟨_,blockNode (listKind .bullets) _,flatHeld items⟩,trivial⟩
    (paragraphsOf after)

theorem signInFetched :
    Fetches trackerSource .null "P-1" (trackerWith (describedIssue (sectionDocument ["Background information"]
      "Acceptance Criteria:" ["The form has a name","User can sign in with a password"] ["Thanks for reading."])))
      ["The form has a name","User can sign in with a password Thanks for reading."] := by
  have fits : ∀ t ∈ (["The form has a name","User can sign in with a password"] : List Text), Fits t ∧ t ≠ [] := by decide
  have clear : ¬ Heads criteriaHeading (shown ["Background information"]) := by
    rw [Criteria.headsIff (by decide : criteriaHeading ∈ Criteria.headings)]
    decide +kernel
  have fetched := (criteriaFetched (s := trackerSource) (trackerSends _) (issueDescribed _)).1 _ _ _ _
    (documentSectioned ["Background information"] "Acceptance Criteria:"
      ["The form has a name","User can sign in with a password"] ["Thanks for reading."])
    (by decide) (by simp) (fun t member => lineOfFits (fits t member).1 (fits t member).2) (by decide) clear
  have criteria : continued ["The form has a name","User can sign in with a password"] (following (shown ["Thanks for reading."])) =
      (["The form has a name","User can sign in with a password Thanks for reading."] : List Text) := by decide +kernel
  rw [criteria] at fetched
  exact fetched.1

theorem paragraphsMisread :
    (∀ t ∈ (["Runs on every MAC","Background information","Thanks for reading."] : List Text),
      ∀ heading ∈ Criteria.headings, ¬ Criteria.Begins heading (asLine t)) ∧
    Sectioned (sectionDocument ["Runs on every MAC","Background information"] "Acceptance Criteria"
      ["User can sign in with a password"] ["Thanks for reading."]) ["Runs on every MAC","Background information"]
      "Acceptance Criteria" ["User can sign in with a password"] ["Thanks for reading."] ∧
    Fetches trackerSource .null "P-1" (trackerWith (describedIssue (sectionDocument
      ["Runs on every MAC","Background information"] "Acceptance Criteria"
      ["User can sign in with a password"] ["Thanks for reading."])))
      ["Background information Acceptance Criteria","User can sign in with a password Thanks for reading."] := by
  refine ⟨?_,documentSectioned _ _ _ _,?_⟩
  · intro t member heading known
    rw [Criteria.beginsIff known]
    revert t heading
    decide +kernel
  · have fits : ∀ t ∈ (["User can sign in with a password"] : List Text), Fits t ∧ t ≠ [] := by decide
    obtain ⟨l,text⟩ := sectionedText (documentSectioned ["Runs on every MAC","Background information"] "Acceptance Criteria"
      ["User can sign in with a password"] ["Thanks for reading."]) (by decide)
      fun t member => lineOfFits (fits t member).1 (fits t member).2
    have fetched := describedFetched (s := trackerSource) (trackerSends _) (issueDescribed _) text
    have criteria : ∀ l, Criteria.ofText (Criteria.sectionOf (shown ["Runs on every MAC","Background information"] ++
        "Acceptance Criteria" ++ .char '\n' :: (ended (linesOfItems l 1 (flat ["User can sign in with a password"])) ++
        shown ["Thanks for reading."])).trim) =
        (["Background information Acceptance Criteria","User can sign in with a password Thanks for reading."] : List Text) := by
      intro l
      cases l <;> decide +kernel
    rwa [criteria] at fetched

end TestWeaver.Tracker
