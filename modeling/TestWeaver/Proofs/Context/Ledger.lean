import TestWeaver.Proofs.Context.Tally

/-! The ledger of the gates. Any calls, at any gates and in any order, are answered by what was called
before, and what the context keeps is what the answers were. Calls at other gates have no part in it. -/
namespace TestWeaver

abbrev Asking := Artifact × Part × Text

abbrev Answered := Asking × Bool

def Answered.refusedAt (artifact : Artifact) : Answered → Option (Part × Text)
  | ((a,part,value),fresh) => if a = artifact ∧ fresh = false then some (part,value) else none

def Answered.acceptedAt (artifact : Artifact) (part : Part) : Answered → Option Text
  | ((a,p,value),fresh) => if a = artifact ∧ p = part ∧ fresh = true then some value else none

namespace Context

def ledger (c : Context) : List Asking → List Answered × Context
  | [] => ([],c)
  | (artifact,part,value) :: rest =>
    let (fresh,c) := c.emit artifact part value
    let (entries,c) := c.ledger rest
    (((artifact,part,value),fresh) :: entries,c)

section steps
variable {c : Context} {artifact other : Artifact} {part unit : Part} {value v : Text}

theorem emitAnswer (c : Context) (artifact : Artifact) (part : Part) (value : Text) :
    (c.emit artifact part value).1 = decide (value ∉ c.seen artifact part) := by
  by_cases seen : value ∈ c.seen artifact part
  · simp [emitSeen seen,seen]
  · simp [emitFresh seen,seen]

theorem emitAccepted (c : Context) (artifact other : Artifact) (part unit : Part) (value : Text) :
    (c.emit artifact part value).2.seen other unit = c.seen other unit ++
      (Answered.acceptedAt other unit ((artifact,part,value),(c.emit artifact part value).1)).toList := by
  by_cases seen : value ∈ c.seen artifact part
  · simp [emitSeen seen,Answered.acceptedAt,Context.seen]
  · rw [emitFresh seen,seenGrown rfl]
    by_cases here : artifact = other ∧ part = unit <;> simp [Answered.acceptedAt,Context.seen,here]

theorem emitRefused (c : Context) (artifact other : Artifact) (part : Part) (value : Text) :
    (c.emit artifact part value).2.skipped other = c.skipped other ++
      (Answered.refusedAt other ((artifact,part,value),(c.emit artifact part value).1)).toList := by
  by_cases seen : value ∈ c.seen artifact part
  · rw [emitSeen seen]
    by_cases here : artifact = other <;> simp [Answered.refusedAt,skipped,here]
  · simp [emitFresh seen,Answered.refusedAt,skipped]

theorem memEmit : v ∈ (c.emit artifact part value).2.seen other unit ↔
    v ∈ c.seen other unit ∨ (artifact,part,value) = (other,unit,v) := by
  by_cases seen : value ∈ c.seen artifact part
  · rw [emitSeen seen]
    refine ⟨.inl,fun either => either.elim id fun same => ?_⟩
    cases same
    exact seen
  · rw [emitFresh seen,seenGrown rfl]
    simp [Context.seen,and_assoc,and_left_comm,eq_comm]

theorem emitOnce (once : (c.seen other unit).Nodup) : ((c.emit artifact part value).2.seen other unit).Nodup := by
  by_cases seen : value ∈ c.seen artifact part
  · rwa [emitSeen seen]
  · rw [emitAccepted]
    by_cases here : artifact = other ∧ part = unit
    · obtain ⟨rfl,rfl⟩ := here
      have apart : ∀ w ∈ c.seen artifact part, w ≠ value := fun w old same => seen (same ▸ old)
      simpa [Answered.acceptedAt,emitAnswer,seen,List.nodup_append] using ⟨once,apart⟩
    · simpa [Answered.acceptedAt,← and_assoc,here] using once

end steps

section runs
variable {c d : Context} {artifact : Artifact} {part : Part} {value : Text} {fresh : Bool} {calls : List Asking}
  {before after : List Answered}

theorem ledgerNext (c : Context) (artifact : Artifact) (part : Part) (value : Text) (rest : List Asking) :
    c.ledger ((artifact,part,value) :: rest) =
      (((artifact,part,value),(c.emit artifact part value).1) :: ((c.emit artifact part value).2.ledger rest).1,
        ((c.emit artifact part value).2.ledger rest).2) := rfl

theorem ledgerAsked (c : Context) (calls : List Asking) : (c.ledger calls).1.map (·.1) = calls := by
  induction calls generalizing c with
  | nil => rfl
  | cons call rest ih =>
    obtain ⟨artifact,part,value⟩ := call
    rw [ledgerNext,List.map_cons,ih]

theorem ledgerAccepted (c : Context) (calls : List Asking) (artifact : Artifact) (part : Part) :
    (c.ledger calls).2.seen artifact part =
      c.seen artifact part ++ (c.ledger calls).1.filterMap (Answered.acceptedAt artifact part) := by
  induction calls generalizing c with
  | nil => exact (List.append_nil _).symm
  | cons call rest ih =>
    obtain ⟨a,p,value⟩ := call
    rw [ledgerNext,ih,emitAccepted,List.append_assoc,List.filterMap_cons]
    cases Answered.acceptedAt artifact part ((a,p,value),(c.emit a p value).1) <;> rfl

theorem ledgerRefused (c : Context) (calls : List Asking) (artifact : Artifact) :
    (c.ledger calls).2.skipped artifact =
      c.skipped artifact ++ (c.ledger calls).1.filterMap (Answered.refusedAt artifact) := by
  induction calls generalizing c with
  | nil => exact (List.append_nil _).symm
  | cons call rest ih =>
    obtain ⟨a,p,value⟩ := call
    rw [ledgerNext,ih,emitRefused,List.append_assoc,List.filterMap_cons]
    cases Answered.refusedAt artifact ((a,p,value),(c.emit a p value).1) <;> rfl

theorem ledgerFirst (entries : (c.ledger calls).1 = before ++ ((artifact,part,value),fresh) :: after) :
    fresh = true ↔ value ∉ c.seen artifact part ∧ ∀ entry ∈ before, entry.1 ≠ (artifact,part,value) := by
  induction calls generalizing c before with
  | nil => exact absurd entries (by simp [ledger])
  | cons call rest ih =>
    obtain ⟨a,p,v⟩ := call
    rw [ledgerNext] at entries
    cases before with
    | nil =>
      obtain ⟨same,_⟩ := List.cons.inj entries
      cases same
      simp [emitAnswer]
    | cons entry before =>
      obtain ⟨rfl,later⟩ := List.cons.inj entries
      rw [ih later,memEmit,not_or,List.forall_mem_cons,and_assoc]

theorem ledgerOnce (once : (c.seen artifact part).Nodup) (calls : List Asking) :
    ((c.ledger calls).2.seen artifact part).Nodup := by
  induction calls generalizing c with
  | nil => exact once
  | cons call rest ih => exact ih (emitOnce once)

theorem refusedAll (entries : List Answered) : (entries.filterMap (Answered.refusedAt .page)).length +
    (entries.filterMap (Answered.refusedAt .specification)).length +
      (entries.filterMap (Answered.refusedAt .glue)).length = entries.countP (!·.2) := by
  induction entries with
  | nil => rfl
  | cons entry rest ih =>
    obtain ⟨⟨artifact,part,value⟩,fresh⟩ := entry
    rw [List.countP_cons,← ih]
    cases fresh <;> cases artifact <;> simp [Answered.refusedAt] <;> omega

theorem ledgerApart (keep : Artifact → Part → Bool)
    (agree : ∀ artifact part, keep artifact part → d.seen artifact part = c.seen artifact part) (calls : List Asking) :
    (d.ledger (calls.filter fun call => keep call.1 call.2.1)).1 =
      (c.ledger calls).1.filter fun entry => keep entry.1.1 entry.1.2.1 := by
  induction calls generalizing c d with
  | nil => rfl
  | cons call rest ih =>
    obtain ⟨a,p,v⟩ := call
    rw [ledgerNext,List.filter_cons,List.filter_cons]
    by_cases kept : keep a p
    · have same : (d.emit a p v).1 = (c.emit a p v).1 := by rw [emitAnswer,emitAnswer,agree a p kept]
      rw [if_pos kept,if_pos kept,ledgerNext,same]
      refine congrArg _ (ih fun artifact part here => ?_)
      rw [emitAccepted,emitAccepted,same,agree artifact part here]
    · rw [if_neg kept,if_neg kept]
      refine ih fun artifact part here => ?_
      have apart : (artifact,part) ≠ (a,p) := by
        rintro same
        cases same
        exact kept here
      rw [(emitOther c v apart).1,agree artifact part here]

end runs

theorem filterMapKept {α β : Type} {keep : α → Bool} {f : α → Option β} (out : ∀ a, keep a = false → f a = none)
    (items : List α) : (items.filter keep).filterMap f = items.filterMap f := by
  rw [List.filterMap_filter]
  refine List.filterMap_congr fun a _ => ?_
  split
  · rfl
  · rename_i left
    exact (out a (Bool.eq_false_iff.mpr left)).symm

structure Apart (keep : Artifact → Part → Bool) (calls : List Asking) (entries : List Answered) (c : Context) : Prop where
  answers : (ledger {} (calls.filter fun call => keep call.1 call.2.1)).1 =
    entries.filter fun entry => keep entry.1.1 entry.1.2.1
  accepted : ∀ artifact part, keep artifact part →
    (ledger {} (calls.filter fun call => keep call.1 call.2.1)).2.seen artifact part = c.seen artifact part
  refused : ∀ artifact, (∀ part, keep artifact part) →
    (ledger {} (calls.filter fun call => keep call.1 call.2.1)).2.skipped artifact = c.skipped artifact

theorem calledApart (keep : Artifact → Part → Bool) (calls : List Asking) :
    Apart keep calls (ledger {} calls).1 (ledger {} calls).2 := by
  have answers := ledgerApart (c := {}) (d := {}) keep (fun _ _ _ => rfl) calls
  exact {
    answers
    accepted := by
      intro artifact part kept
      rw [ledgerAccepted,ledgerAccepted,answers,filterMapKept]
      rintro ⟨⟨a,p,value⟩,fresh⟩ away
      have other : ¬ (a = artifact ∧ p = part) := by
        rintro ⟨rfl,rfl⟩
        exact absurd kept (by simpa using away)
      simp [Answered.acceptedAt,← and_assoc,other]
    refused := by
      intro artifact kept
      rw [ledgerRefused,ledgerRefused,answers,filterMapKept]
      rintro ⟨⟨a,p,value⟩,fresh⟩ away
      have other : a ≠ artifact := by
        rintro rfl
        exact absurd (kept p) (by simpa using away)
      simp [Answered.refusedAt,other] }

/- What calls come to in a context that is new. A call is accepted just where none before it was the same;
the context holds what was accepted and what was refused, in order, and counts the latter. -/
structure Ledger (calls : List Asking) (entries : List Answered) (c : Context) : Prop where
  asked : entries.map (·.1) = calls
  first : ∀ before call fresh after, entries = before ++ (call,fresh) :: after →
    (fresh = true ↔ ∀ entry ∈ before, entry.1 ≠ call)
  accepted : ∀ artifact part, c.seen artifact part = entries.filterMap (Answered.acceptedAt artifact part)
  once : ∀ artifact part, (c.seen artifact part).Nodup
  refused : ∀ artifact, c.skipped artifact = entries.filterMap (Answered.refusedAt artifact)
  count : c.skippedCount = entries.countP (!·.2)
  apart : ∀ keep, Apart keep calls entries c

theorem ledgerKept (calls : List Asking) : Ledger calls (ledger {} calls).1 (ledger {} calls).2 where
  asked := ledgerAsked {} calls
  first := by
    rintro before ⟨artifact,part,value⟩ fresh after entries
    rw [ledgerFirst entries]
    exact ⟨And.right,fun none => ⟨List.not_mem_nil,none⟩⟩
  accepted := ledgerAccepted {} calls
  once artifact part := ledgerOnce (c := {}) List.nodup_nil calls
  refused := ledgerRefused {} calls
  count := by
    rw [countParts,ledgerRefused,ledgerRefused,ledgerRefused]
    exact refusedAll _
  apart keep := calledApart keep calls

end Context

end TestWeaver
