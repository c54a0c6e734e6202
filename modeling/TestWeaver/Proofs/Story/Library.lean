import TestWeaver.Proofs.Files.Changes
import TestWeaver.Proofs.Yaml.Things
import TestWeaver.Story.Library

/-! Asking a library of story files for a ticket. Without a file, with a file that is malformed or holds no mapping, and
with a mapping that is no story, a line is printed and there is no ticket. A ticket that is found holds texts alone. But a
key that is too long for the name of a file, bytes that are no text, and scalars that are no values end the run. -/
namespace TestWeaver

namespace Files.Store
variable {s : Store} {path : Text} {place : Place}

theorem walkFails {parts : List Text} {c : Condition} (fails : s.walk place parts = .error c) :
    c = .noEntry ∨ c = .notDirectory ∨ c = .nameTooLong := by
  induction parts generalizing place with
  | nil => cases fails
  | cons part rest ih =>
    unfold walk at fails
    split at fails
    · cases fails
      exact .inl rfl
    · cases fails
      exact .inr (.inl rfl)
    · split at fails
      · exact ih fails
      · split at fails
        · cases fails
          exact .inr (.inr rfl)
        · exact ih fails

theorem findRefused {f : PathFailure} (fails : s.find path = .error f) :
    f.isAbsence ∨ f = .failed (.condition .nameTooLong path) := by
  cases taken : encoded path with
  | error g =>
    have same : s.find path = .error g := by
      unfold find
      rw [taken]
      rfl
    rw [same] at fails
    cases fails
    unfold encoded at taken
    split at taken
    · cases taken
      exact .inl rfl
    · split at taken <;> cases taken
      exact .inl rfl
  | ok bytes =>
    rw [findSteps taken] at fails
    split at fails
    · cases fails
      exact .inl rfl
    · split at fails
      · cases fails
        exact .inr rfl
      · split at fails
        · rename_i c walked
          cases fails
          rcases walkFails walked with rfl | rfl | rfl
          · exact .inl rfl
          · exact .inl rfl
          · exact .inr rfl
        · split at fails <;> cases fails
          exact .inl rfl

theorem lookRefused {f : PathFailure} (fails : s.look path = .error f) : f = .failed (.condition .nameTooLong path) := by
  unfold look at fails
  split at fails
  · cases fails
  · rename_i g missed
    split at fails <;> cases fails
    rename_i present
    unfold stat at missed
    cases found : s.find path with
    | error h =>
      rw [found] at missed
      cases missed
      exact (findRefused found).resolve_left present
    | ok place =>
      simp only [found,bind,Except.bind] at missed
      split at missed <;> cases missed
      exact absurd rfl present

theorem lookFile {content : Bytes} : s.look path = .ok (some (.file content)) ↔ s.read path = .ok content := by
  unfold look read
  cases s.stat path with
  | ok node => cases node <;> simp [bind,Except.bind,pure,Except.pure]
  | error f =>
    simp only [bind,Except.bind]
    split <;> simp

def Fileless (s : Store) (path : Text) : Prop :=
  ∃ node, s.look path = .ok node ∧ ∀ content, node ≠ some (.file content)

end Files.Store

namespace Library
open Files Files.Store

variable {files : Store} {paths : List Text} {path key : Text} {content : Bytes} {v : Value} {f : Failure} {l : Library}
  {session : Session}

theorem firstFileNone (none : firstFile files paths = .ok none) : ∀ path ∈ paths, files.Fileless path := by
  induction paths with
  | nil => nofun
  | cons path rest ih =>
    unfold firstFile at none
    split at none
    · cases none
    · rename_i node other found
      exact List.forall_mem_cons.mpr ⟨⟨node,found,other⟩,ih none⟩
    · cases none

theorem firstFileSome (some : firstFile files paths = .ok (some path)) :
    (∃ before after, paths = before ++ path :: after ∧ ∀ p ∈ before, files.Fileless p) ∧
      ∃ content, files.read path = .ok content := by
  induction paths with
  | nil => cases some
  | cons first rest ih =>
    unfold firstFile at some
    split at some
    · rename_i content found
      cases some
      exact ⟨⟨[],rest,rfl,nofun⟩,content,lookFile.mp found⟩
    · rename_i node other found
      obtain ⟨⟨before,after,rfl,none⟩,read⟩ := ih some
      exact ⟨⟨first :: before,after,rfl,List.forall_mem_cons.mpr ⟨⟨node,found,other⟩,none⟩⟩,read⟩
    · cases some

theorem firstFileFails (fails : firstFile files paths = .error f) :
    ∃ before path after, paths = before ++ path :: after ∧ (∀ p ∈ before, files.Fileless p) ∧
      files.look path = .error (.failed (.condition .nameTooLong path)) ∧ f = .file (.condition .nameTooLong path) := by
  induction paths with
  | nil => cases fails
  | cons first rest ih =>
    unfold firstFile at fails
    split at fails
    · cases fails
    · rename_i node other found
      obtain ⟨before,path,after,rfl,none,refused⟩ := ih fails
      exact ⟨first :: before,path,after,rfl,List.forall_mem_cons.mpr ⟨⟨node,found,other⟩,none⟩,refused⟩
    · rename_i g missed
      cases fails
      cases lookRefused missed
      exact ⟨[],first,rest,rfl,nofun,missed,rfl⟩

theorem valueInFails (fails : valueIn path content = .error f) :
    (f = .malformedJson ∨ Yaml.Refused f) ∧ (Path.extension path = ".json" →
      f = .malformedJson ∨ (∃ e, f = .undecodable e) ∨ ∃ e, f = .longNumeral e) := by
  unfold valueIn at fails
  split at fails
  · have sort : f = .malformedJson ∨ (∃ e, f = .undecodable e) ∨ ∃ e, f = .longNumeral e := by
      cases decoded : Utf8.decode content with
      | error e =>
        simp only [decoded,Except.mapError,bind,Except.bind] at fails
        cases fails
        exact .inr (.inl ⟨e,rfl⟩)
      | ok t =>
        simp only [decoded,Except.mapError,bind,Except.bind] at fails
        split at fails <;> cases fails
        split
        · exact .inl rfl
        · exact .inr (.inr ⟨_,rfl⟩)
    refine ⟨sort.imp_right ?_,fun _ => sort⟩
    rintro (⟨e,rfl⟩ | ⟨e,rfl⟩)
    · exact .undecodable e
    · exact .numeral e
  · rename_i other
    exact ⟨.inr (Yaml.bytesOnly content f fails),fun json => absurd json other⟩

def fieldOf (v : Value) (name other : Text) : Text := (((v.member? name).getD .null).orElse (.text other)).shown

theorem fieldBare {name : Text} (bare : ((v.member? name).getD .null).isGiven = false) (other : Text) :
    fieldOf v name other = other := by
  rw [fieldOf,Value.orElse,bare]
  rfl

structure Told (key : Text) (v : Value) (t : Ticket) : Prop where
  named : t.key = .text (fieldOf v "key" key)
  requested : ((v.member? "key").getD .null).isGiven = false → t.key = .text key
  summary : t.summary = .text (fieldOf v "summary" [])
  description : t.description = .text (fieldOf v "description" [])
  issueType : t.issueType = .text (fieldOf v "issue_type" "Story")
  status : t.status = .text (fieldOf v "status" [])
  priority : t.priority = .text (fieldOf v "priority" "Medium")
  criteria : ∃ texts, criteriaOf ((v.member? "acceptance_criteria").getD .null) = .ok texts ∧
    t.criteria = .ofTexts texts
  given : fieldOf v "key" key ≠ [] ∧ fieldOf v "summary" [] ≠ []
  story : ∃ story, Story.ofTicket t = .ok story

inductive Untold (key : Text) (v : Value) : Failure → Prop where
  | numeral (long : ticketOf key v = .error .needed) : Untold key v (.longNumeral .needed)
  | keyless (bare : fieldOf v "key" key = []) : Untold key v (.invalid "Story key cannot be empty")
  | summaryless (bare : fieldOf v "summary" [] = []) : Untold key v (.invalid "Story summary cannot be empty")

section mapping
variable {t : Ticket} {e : LongNumeral}

theorem writtenLong (fails : v.written = .error e) : e = .needed := by
  unfold Value.written at fails
  split at fails <;> cases fails
  rfl

theorem textOfShows {name other : Text} {field : Value} (ok : textOf v name other = .ok field) :
    field = .text (fieldOf v name other) := by
  obtain ⟨t,written,ok⟩ := Failure.bindOk ok
  cases ok
  unfold Value.written at written
  split at written <;> cases written
  rfl

theorem textOfLong {name other : Text} (fails : textOf v name other = .error e) : e = .needed := by
  rcases Failure.bindError fails with long | ⟨t,none⟩
  · exact writtenLong long
  · cases none

theorem itemsLong {items : List Value} (fails : (items.mapM fun item => return (← item.written).trim) = .error e) :
    e = .needed := by
  induction items with
  | nil => cases fails
  | cons item rest ih =>
    rw [List.mapM_cons] at fails
    rcases Failure.bindError fails with long | ⟨first,fails⟩
    · rcases Failure.bindError long with long | ⟨t,none⟩
      · exact writtenLong long
      · cases none
    · rcases Failure.bindError fails with long | ⟨others,none⟩
      · exact ih long
      · cases none

theorem criteriaLong (fails : criteriaOf v = .error e) : e = .needed := by
  unfold criteriaOf at fails
  split at fails
  · rcases Failure.bindError fails with long | ⟨texts,none⟩
    · exact itemsLong long
    · cases none
  · split at fails
    · rcases Failure.bindError fails with long | ⟨text,none⟩
      · exact writtenLong long
      · cases none
    · cases fails

theorem ticketOfLong (fails : ticketOf key v = .error e) : e = .needed := by
  rcases Failure.bindError fails with long | ⟨k,fails⟩
  · exact textOfLong long
  rcases Failure.bindError fails with long | ⟨summary,fails⟩
  · exact textOfLong long
  rcases Failure.bindError fails with long | ⟨description,fails⟩
  · exact textOfLong long
  rcases Failure.bindError fails with long | ⟨issueType,fails⟩
  · exact textOfLong long
  rcases Failure.bindError fails with long | ⟨status,fails⟩
  · exact textOfLong long
  rcases Failure.bindError fails with long | ⟨priority,fails⟩
  · exact textOfLong long
  rcases Failure.bindError fails with long | ⟨texts,none⟩
  · exact criteriaLong long
  · cases none

theorem ticketOfShows (ok : ticketOf key v = .ok t) :
    ∃ texts, criteriaOf ((v.member? "acceptance_criteria").getD .null) = .ok texts ∧ t = {
      key := .text (fieldOf v "key" key), summary := .text (fieldOf v "summary" [])
      description := .text (fieldOf v "description" []), issueType := .text (fieldOf v "issue_type" "Story")
      status := .text (fieldOf v "status" []), priority := .text (fieldOf v "priority" "Medium")
      criteria := .ofTexts texts } := by
  obtain ⟨k,named,ok⟩ := Failure.bindOk ok
  obtain ⟨summary,summed,ok⟩ := Failure.bindOk ok
  obtain ⟨description,described,ok⟩ := Failure.bindOk ok
  obtain ⟨issueType,typed,ok⟩ := Failure.bindOk ok
  obtain ⟨status,stated,ok⟩ := Failure.bindOk ok
  obtain ⟨priority,ranked,ok⟩ := Failure.bindOk ok
  obtain ⟨texts,criteria,ok⟩ := Failure.bindOk ok
  cases ok
  rw [textOfShows named,textOfShows summed,textOfShows described,textOfShows typed,textOfShows stated,
    textOfShows ranked]
  exact ⟨texts,criteria,rfl⟩

theorem criteriaTexts (texts : List Text) : Story.criteriaOf (.ofTexts texts) = .ok texts := by
  change (texts.map Value.text).mapM Story.textOf = .ok texts
  induction texts with
  | nil => rfl
  | cons t rest ih =>
    rw [List.map_cons,List.mapM_cons,ih]
    rfl

theorem textsStory {k summary description issueType status priority : Text} (texts : List Text) (named : k ≠ [])
    (summed : summary ≠ []) :
    ∃ story, Story.ofTicket {
      key := .text k, summary := .text summary, description := .text description, issueType := .text issueType
      status := .text status, priority := .text priority, criteria := .ofTexts texts } = .ok story := by
  have given : (Value.text k).isGiven = true := by simp [Value.isGiven,named]
  obtain ⟨about,described⟩ : ∃ about, Story.textOf (if (Value.text description).isGiven then .text description
      else .text []) = .ok about := by
    split
    · exact ⟨description,rfl⟩
    · exact ⟨[],rfl⟩
  refine ⟨⟨.text k,summary,about,some issueType,some priority,texts,given,summed⟩,?_⟩
  unfold Story.ofTicket
  rw [described,criteriaTexts]
  simp [bind,Except.bind,Story.textOf,Story.optionalText,given,summed,pure,Except.pure]

theorem mappingTold (key : Text) (v : Value) :
    (∃ t, ((ticketOf key v).mapError Failure.longNumeral).bind Ticket.check = .ok t ∧ Told key v t) ∨
    ∃ f, ((ticketOf key v).mapError Failure.longNumeral).bind Ticket.check = .error f ∧ Untold key v f := by
  cases made : ticketOf key v with
  | error e =>
    cases ticketOfLong made
    exact .inr ⟨_,rfl,.numeral made⟩
  | ok t =>
    obtain ⟨texts,criteria,rfl⟩ := ticketOfShows made
    simp only [Except.mapError,Except.bind]
    by_cases named : fieldOf v "key" key = []
    · exact .inr ⟨_,by simp [Ticket.check,Value.isGiven,named],.keyless named⟩
    by_cases summed : fieldOf v "summary" [] = []
    · exact .inr ⟨_,by simp [Ticket.check,Value.isGiven,named,summed],.summaryless summed⟩
    refine .inl ⟨_,by simp [Ticket.check,Value.isGiven,named,summed]; rfl,?_⟩
    exact {
      named := rfl, requested := fun bare => congrArg Value.text (fieldBare bare key)
      summary := rfl, description := rfl, issueType := rfl, status := rfl, priority := rfl
      criteria := ⟨texts,criteria,rfl⟩, given := ⟨named,summed⟩, story := textsStory texts named summed }

end mapping

def said (line : Text) (session : Session) : Session := { session with printed := session.printed ++ line ++ "\n" }

structure Found (l : Library) (key : Text) (files : Store) (path : Text) (content : Bytes) : Prop where
  first : ∃ before after, l.candidates key = before ++ path :: after ∧ ∀ p ∈ before, files.Fileless p
  read : files.read path = .ok content

inductive Asked (l : Library) (key : Text) (session : Session) : Except Failure (Option Ticket) → Session → Prop where
  | absent (missing : ∀ path ∈ l.candidates key, session.files.Fileless path) :
      Asked l key session (.ok none) (said ("Story file not found for " ++ key ++ " in " ++ l.directory) session)
  | malformed {path : Text} {content : Bytes} {f : Failure} (found : Found l key session.files path content)
      (stops : valueIn path content = .error f) (sort : f = .malformedYaml ∨ f = .malformedJson) :
      Asked l key session (.ok none)
        (said ("Error reading story " ++ key ++ " from " ++ path ++ ": " ++ f.message) session)
  | shapeless {path : Text} {content : Bytes} {v : Value} (found : Found l key session.files path content)
      (holds : valueIn path content = .ok v) (other : isMapping v = false) :
      Asked l key session (.ok none)
        (said ("Error reading story " ++ key ++ ": " ++ path ++ " does not contain a mapping") session)
  | untold {path : Text} {content : Bytes} {v : Value} {f : Failure} (found : Found l key session.files path content)
      (holds : valueIn path content = .ok v) (mapping : isMapping v = true) (reason : Untold key v f) :
      Asked l key session (.ok none) (said ("Error mapping story " ++ key ++ ": " ++ f.message) session)
  | told {path : Text} {content : Bytes} {v : Value} {t : Ticket} (found : Found l key session.files path content)
      (holds : valueIn path content = .ok v) (mapping : isMapping v = true) (tells : Told key v t) :
      Asked l key session (.ok (some t)) session
  | tooLong {path : Text} {before after : List Text} (candidates : l.candidates key = before ++ path :: after)
      (missing : ∀ p ∈ before, session.files.Fileless p)
      (refused : session.files.look path = .error (.failed (.condition .nameTooLong path))) :
      Asked l key session (.error (.file (.condition .nameTooLong path))) session
  | escaped {path : Text} {content : Bytes} {f : Failure} (found : Found l key session.files path content)
      (stops : valueIn path content = .error f) (sort : Yaml.Refused f) (other : f ≠ .malformedYaml)
      (json : Path.extension path = ".json" → (∃ e, f = .undecodable e) ∨ ∃ e, f = .longNumeral e) :
      Asked l key session (.error f) session

theorem unreadableMalformed (sort : f = .malformedJson ∨ Yaml.Refused f) (told : isUnreadable f = true) :
    f = .malformedYaml ∨ f = .malformedJson := by
  rcases sort with json | yaml
  · exact .inr json
  · cases yaml with
    | malformed => exact .inl rfl
    | _ => cases told

section asking
variable {t : Ticket}

theorem opened (read : files.read path = .ok content) :
    ((files.read path).mapError Failure.ofPath).bind (valueIn path) = valueIn path content := by
  rw [read]
  rfl

theorem absentRun (located : l.find session.files key = .ok none) :
    l.ticket key session = (.ok none,said ("Story file not found for " ++ key ++ " in " ++ l.directory) session) := by
  unfold ticket
  rw [Work.bindRun (Work.filesRun session),Work.bindRun (Work.ofExceptRun located session)]
  rfl

theorem refusedRun (located : l.find session.files key = .error f) : l.ticket key session = (.error f,session) := by
  unfold ticket
  rw [Work.bindRun (Work.filesRun session)]
  refine Work.bindFails ?_
  rw [located]
  rfl

variable (located : l.find session.files key = .ok (some path)) (read : session.files.read path = .ok content)
include located read

theorem stoppedRun (stops : valueIn path content = .error f) :
    l.ticket key session = if isUnreadable f then
      (.ok none,said ("Error reading story " ++ key ++ " from " ++ path ++ ": " ++ f.message) session)
      else (.error f,session) := by
  unfold ticket
  rw [Work.bindRun (Work.filesRun session),Work.bindRun (Work.ofExceptRun located session)]
  simp only [opened read,stops]
  split <;> rfl

theorem shapelessRun (holds : valueIn path content = .ok v) (other : isMapping v = false) :
    l.ticket key session =
      (.ok none,said ("Error reading story " ++ key ++ ": " ++ path ++ " does not contain a mapping") session) := by
  unfold ticket
  rw [Work.bindRun (Work.filesRun session),Work.bindRun (Work.ofExceptRun located session)]
  simp only [opened read,holds,other]
  rfl

theorem untoldRun (holds : valueIn path content = .ok v) (mapping : isMapping v = true)
    (refused : ((ticketOf key v).mapError Failure.longNumeral).bind Ticket.check = .error f) :
    l.ticket key session = (.ok none,said ("Error mapping story " ++ key ++ ": " ++ f.message) session) := by
  unfold ticket
  rw [Work.bindRun (Work.filesRun session),Work.bindRun (Work.ofExceptRun located session)]
  simp only [opened read,holds,mapping,refused]
  rfl

theorem toldRun (holds : valueIn path content = .ok v) (mapping : isMapping v = true)
    (made : ((ticketOf key v).mapError Failure.longNumeral).bind Ticket.check = .ok t) :
    l.ticket key session = (.ok (some t),session) := by
  unfold ticket
  rw [Work.bindRun (Work.filesRun session),Work.bindRun (Work.ofExceptRun located session)]
  simp only [opened read,holds,mapping,made]
  rfl

end asking

theorem ticketAsked (l : Library) (key : Text) (session : Session) :
    Asked l key session (l.ticket key session).1 (l.ticket key session).2 := by
  cases located : l.find session.files key with
  | error f =>
    rw [refusedRun located]
    obtain ⟨before,path,after,candidates,missing,refused,rfl⟩ := firstFileFails located
    exact .tooLong candidates missing refused
  | ok place =>
    cases place with
    | none =>
      rw [absentRun located]
      exact .absent (firstFileNone located)
    | some path =>
      obtain ⟨first,content,read⟩ := firstFileSome located
      have found : Found l key session.files path content := ⟨first,read⟩
      cases taken : valueIn path content with
      | error f =>
        rw [stoppedRun located read taken]
        obtain ⟨sort,json⟩ := valueInFails taken
        by_cases told : isUnreadable f = true
        · rw [if_pos told]
          exact .malformed found taken (unreadableMalformed sort told)
        · rw [if_neg told]
          have noYaml : f ≠ .malformedYaml := fun same => told (same ▸ rfl)
          have noJson : f ≠ .malformedJson := fun same => told (same ▸ rfl)
          exact .escaped found taken (sort.resolve_left noJson) noYaml fun ending => (json ending).resolve_left noJson
      | ok v =>
        cases shape : isMapping v with
        | false =>
          rw [shapelessRun located read taken shape]
          exact .shapeless found taken shape
        | true =>
          rcases mappingTold key v with ⟨t,made,tells⟩ | ⟨f,none,reason⟩
          · rw [toldRun located read taken shape made]
            exact .told found taken shape tells
          · rw [untoldRun located read taken shape none]
            exact .untold found taken shape reason

def shelved (content : Bytes) : Session where
  files := { nodes := [(["stories"],.directory),(["stories","P-1.yaml"],.file content)] }

def strayDate : Bytes := "summary: 2024-13-45\n".toList.map fun c => UInt8.ofNat c.toNat

theorem strayBytesStop : valueIn "stories/P-1.yaml" [0xff,0xfe] = .error (.undecodable ⟨0xff,0,1,.start⟩) :=
  Failure.ofFailure (by decide +kernel)

theorem strayDateStops : valueIn "stories/P-1.yaml" strayDate = .error (.invalid "month must be in 1..12") :=
  Failure.ofFailure (by decide +kernel)

theorem strayStoriesRaise :
    (Library.ticket ⟨"stories"⟩ "P-1" (shelved [0xff,0xfe])).1 = .error (.undecodable ⟨0xff,0,1,.start⟩) ∧
    (Library.ticket ⟨"stories"⟩ "P-1" (shelved strayDate)).1 = .error (.invalid "month must be in 1..12") := by
  have located (content : Bytes) :
      Library.find ⟨"stories"⟩ (shelved content).files "P-1" = .ok (some "stories/P-1.yaml") := by rfl
  have read (content : Bytes) : (shelved content).files.read "stories/P-1.yaml" = .ok content := by rfl
  constructor
  · exact congrArg Prod.fst (stoppedRun (located _) (read _) strayBytesStop)
  · exact congrArg Prod.fst (stoppedRun (located _) (read _) strayDateStops)

end Library
end TestWeaver
