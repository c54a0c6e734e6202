import TestWeaver.Proofs.Context.Gate

/-! The books of the gates. Whatever a gate is asked about it either lets through or refuses, so
the two together are what it was asked; the books of the other gates do not change. -/
namespace TestWeaver.Context

section gates
variable {c : Context} {artifact other : Artifact} {part unit : Part} {value : Text}

def refused (c : Context) (artifact : Artifact) (part : Part) : List Text :=
  (c.skipped artifact).filterMap fun (p,value) => if p = part then some value else none

def asked (c : Context) (artifact : Artifact) (part : Part) : List Text :=
  c.seen artifact part ++ c.refused artifact part

def unbound (c : Context) : List Text := c.notes.filterMap fun
  | .methodSkipped _ method => some method
  | .duplicate .. => none

theorem refusedNotes {d : Context} (same : d.notes = c.notes) (artifact : Artifact) (part : Part) :
    d.refused artifact part = c.refused artifact part := by
  rw [refused,skipped,same,refused,skipped]

theorem refusedGrown (c : Context) (n : Note) (artifact : Artifact) (part : Part) :
    refused { c with notes := c.notes ++ [n] } artifact part =
      c.refused artifact part ++ refused { notes := [n] } artifact part := by
  simp only [refused,skipped,List.filterMap_append]

theorem emitAsked (c : Context) (artifact : Artifact) (part : Part) (value : Text) :
    ((c.emit artifact part value).2.asked artifact part).Perm (value :: c.asked artifact part) := by
  by_cases seen : value ∈ c.seen artifact part
  · have grown : refused { c with notes := c.notes ++ [.duplicate artifact part value] } artifact part =
        c.refused artifact part ++ [value] := by
      rw [refusedGrown]
      simp [refused,skipped]
    rw [emitSeen seen]
    show (c.seen artifact part ++ refused _ artifact part).Perm _
    rw [grown,← List.append_assoc]
    exact List.perm_append_singleton value _
  · rw [emitFresh seen]
    show (Context.seen _ artifact part ++ c.refused artifact part).Perm _
    rw [seenGrown rfl]
    simp [Context.seen,asked]

theorem emitOther (c : Context) (value : Text) (apart : (other,unit) ≠ (artifact,part)) :
    (c.emit artifact part value).2.seen other unit = c.seen other unit ∧
      (c.emit artifact part value).2.refused other unit = c.refused other unit := by
  have away : artifact = other → ¬ part = unit := by
    rintro rfl rfl
    exact apart rfl
  by_cases seen : value ∈ c.seen artifact part
  · rw [emitSeen seen]
    refine ⟨rfl,?_⟩
    rw [refusedGrown]
    by_cases same : artifact = other
    · simp [refused,skipped,away same]
    · simp [refused,skipped,same]
  · rw [emitFresh seen]
    refine ⟨?_,refusedNotes rfl other unit⟩
    rw [seenGrown rfl]
    by_cases same : artifact = other
    · simp [Context.seen,away same]
    · simp [Context.seen,same]

theorem emitAskedOther (c : Context) (value : Text) (apart : (other,unit) ≠ (artifact,part)) :
    (c.emit artifact part value).2.asked other unit = c.asked other unit := by
  obtain ⟨seen,refused⟩ := emitOther c value apart
  rw [asked,seen,refused,asked]

theorem emitUnbound (c : Context) (artifact : Artifact) (part : Part) (value : Text) :
    (c.emit artifact part value).2.unbound = c.unbound := by
  unfold emit
  split
  · simp [unbound]
  · rfl

theorem noteAsked (c : Context) (selector method : Text) (artifact : Artifact) (part : Part) :
    (c.noteMethodSkipped selector method).asked artifact part = c.asked artifact part := by
  show c.seen artifact part ++ refused _ artifact part = _
  rw [noteMethodSkipped,refusedGrown]
  simp [refused,skipped,asked]

theorem noteUnbound (c : Context) (selector method : Text) :
    (c.noteMethodSkipped selector method).unbound = c.unbound ++ [method] := by
  simp [noteMethodSkipped,unbound]

end gates

theorem skippedParts (c : Context) (artifact : Artifact) : (c.skipped artifact).length =
    (c.refused artifact .selector).length + (c.refused artifact .constant).length +
      (c.refused artifact .method).length + (c.refused artifact .step).length := by
  unfold refused
  induction c.skipped artifact with
  | nil => rfl
  | cons entry rest ih =>
    obtain ⟨part,value⟩ := entry
    cases part <;> simp [ih] <;> omega

theorem countParts (c : Context) : c.skippedCount =
    (c.skipped .page).length + (c.skipped .specification).length + (c.skipped .glue).length := by
  simp [skippedCount,Artifact.all]

end TestWeaver.Context
