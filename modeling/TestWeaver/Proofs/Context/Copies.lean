import Mathlib.Logic.Function.Basic
import TestWeaver.Proofs.Context.Ledger

/-! Sets that are held by reference. A gate has a set of its own, which its calls read and add to. A look
at a gate gives out a copy, which lies at a spot that is no gate's. Whoever has the copy may put anything
into it or take anything from it, and the gates answer as they would have answered without. -/
namespace TestWeaver

inductive Spot where
  | gate (artifact : Artifact) (part : Part)
  | copy (number : Nat)
  deriving DecidableEq

inductive Move where
  | call (asking : Asking)
  | look (artifact : Artifact) (part : Part)
  | change (number : Nat) (values : List Text)

structure Gates where
  sets : Spot → List Text := fun _ => []
  given : List Spot := []
  refused : Artifact → List (Part × Text) := fun _ => []

namespace Gates

def put (g : Gates) (spot : Spot) (values : List Text) : Gates := { g with sets := Function.update g.sets spot values }

@[simp] theorem setsPut (g : Gates) (spot other : Spot) (values : List Text) :
    (g.put spot values).sets other = if other = spot then values else g.sets other := Function.update_apply _ _ _ _

def refuse (g : Gates) (artifact : Artifact) (part : Part) (value : Text) : Gates :=
  { g with refused := Function.update g.refused artifact (g.refused artifact ++ [(part,value)]) }

@[simp] theorem refusedRefuse (g : Gates) (artifact other : Artifact) (part : Part) (value : Text) :
    (g.refuse artifact part value).refused other =
      if other = artifact then g.refused artifact ++ [(part,value)] else g.refused other := Function.update_apply _ _ _ _

def call (g : Gates) : Asking → Bool × Gates
  | (artifact,part,value) =>
    if (g.sets (.gate artifact part)).contains value then (false,g.refuse artifact part value)
    else (true,g.put (.gate artifact part) (g.sets (.gate artifact part) ++ [value]))

def look (g : Gates) (artifact : Artifact) (part : Part) : Spot × Gates :=
  let spot := .copy g.given.length
  (spot,{ g.put spot (g.sets (.gate artifact part)) with given := g.given ++ [spot] })

def change (g : Gates) (number : Nat) (values : List Text) : Gates :=
  match g.given[number]? with
  | none => g
  | some spot => g.put spot values

def run (g : Gates) : List Move → List Answered × Gates
  | [] => ([],g)
  | .call asking :: rest =>
    let (fresh,g) := g.call asking
    let (entries,g) := g.run rest
    ((asking,fresh) :: entries,g)
  | .look artifact part :: rest => (g.look artifact part).2.run rest
  | .change number values :: rest => (g.change number values).run rest

def asked (moves : List Move) : List Asking := moves.filterMap fun
  | .call asking => some asking
  | .look .. | .change .. => none

/- Gates and the context that has the same in its books. No set that was given out is a gate's. -/
structure Mirrors (g : Gates) (c : Context) : Prop where
  sets : ∀ artifact part, g.sets (.gate artifact part) = c.seen artifact part
  refused : ∀ artifact, g.refused artifact = c.skipped artifact
  given : ∀ spot ∈ g.given, ∃ number, spot = .copy number

section mirrored
variable {g : Gates} {c : Context}

theorem mirrorsNew : Mirrors {} {} := ⟨fun _ _ => rfl,fun _ => rfl,nofun⟩

theorem putCopy (mirrors : Mirrors g c) (number : Nat) (values : List Text) : Mirrors (g.put (.copy number) values) c where
  sets artifact part := by
    rw [setsPut,if_neg nofun,mirrors.sets]
  refused := mirrors.refused
  given := mirrors.given

theorem callMirrors (mirrors : Mirrors g c) (artifact : Artifact) (part : Part) (value : Text) :
    (g.call (artifact,part,value)).1 = (c.emit artifact part value).1 ∧
      Mirrors (g.call (artifact,part,value)).2 (c.emit artifact part value).2 := by
  have set := mirrors.sets artifact part
  by_cases seen : value ∈ c.seen artifact part
  · rw [Context.emitSeen seen,call,set,if_pos (List.contains_iff_mem.mpr seen)]
    refine ⟨rfl,{ mirrors with refused := fun other => ?_ }⟩
    by_cases here : artifact = other <;> simp [Context.skipped,mirrors.refused,here,eq_comm]
  · rw [Context.emitFresh seen,call,set,if_neg (List.contains_iff_mem.not.mpr seen)]
    refine ⟨rfl,{ mirrors with sets := fun other unit => ?_ }⟩
    dsimp only
    conv_rhs => rw [Context.seenGrown rfl]
    rw [setsPut,mirrors.sets]
    by_cases here : artifact = other ∧ part = unit
    · obtain ⟨rfl,rfl⟩ := here
      simp [Context.seen]
    · have apart : ¬ (other = artifact ∧ unit = part) := fun same => here ⟨same.1.symm,same.2.symm⟩
      simp [Context.seen,here,apart]

theorem lookMirrors (mirrors : Mirrors g c) (artifact : Artifact) (part : Part) : Mirrors (g.look artifact part).2 c where
  sets := (putCopy mirrors g.given.length (g.sets (.gate artifact part))).sets
  refused := mirrors.refused
  given := by
    intro spot member
    rcases List.mem_append.mp member with old | last
    · exact mirrors.given spot old
    · exact ⟨_,List.mem_singleton.mp last⟩

theorem changeMirrors (mirrors : Mirrors g c) (number : Nat) (values : List Text) : Mirrors (g.change number values) c := by
  unfold change
  cases found : g.given[number]? with
  | none => exact mirrors
  | some spot =>
    obtain ⟨n,rfl⟩ := mirrors.given spot (List.mem_of_getElem? found)
    exact putCopy mirrors n values

theorem runMirrors (mirrors : Mirrors g c) (moves : List Move) :
    (g.run moves).1 = (c.ledger (asked moves)).1 ∧ Mirrors (g.run moves).2 (c.ledger (asked moves)).2 := by
  induction moves generalizing g c with
  | nil => exact ⟨rfl,mirrors⟩
  | cons move rest ih =>
    cases move with
    | call asking =>
      obtain ⟨artifact,part,value⟩ := asking
      obtain ⟨answer,later⟩ := callMirrors mirrors artifact part value
      obtain ⟨entries,mirrored⟩ := ih later
      exact ⟨congrArg₂ (fun fresh entries => ((artifact,part,value),fresh) :: entries) answer entries,mirrored⟩
    -- neither a look nor a change is a call, so the entries are those of the rest
    | look artifact part => exact ih (lookMirrors mirrors artifact part)
    | change number values => exact ih (changeMirrors mirrors number values)

theorem lookSet (g : Gates) (artifact : Artifact) (part : Part) :
    (g.look artifact part).2.sets (g.look artifact part).1 = g.sets (.gate artifact part) :=
  (setsPut g _ _ _).trans (if_pos rfl)

/- Any calls at the gates of a new context, with any looks at them and any changes to what the looks gave
out: the books are those of the calls alone, and a look shows what was accepted by then. -/
theorem callsAccounted (moves : List Move) : ∃ entries g c, run {} moves = (entries,g) ∧
    Context.ledger {} (asked moves) = (entries,c) ∧ Context.Ledger (asked moves) entries c ∧ Mirrors g c ∧
    ∀ artifact part, (g.look artifact part).2.sets (g.look artifact part).1 = c.seen artifact part := by
  obtain ⟨entries,mirrors⟩ := runMirrors mirrorsNew moves
  have kept := Context.ledgerKept (asked moves)
  rw [← entries] at kept
  refine ⟨_,_,_,rfl,Prod.ext entries.symm rfl,kept,mirrors,fun artifact part => ?_⟩
  rw [lookSet,mirrors.sets]

example : (run {} [.call (.page,.step,"save"),.look .page .step,.change 0 ["save","other"],.call (.page,.step,"other"),
    .call (.glue,.step,"save"),.call (.page,.step,"save")]).1.map (·.2) = [true,true,true,false] := by decide

end mirrored

end Gates

end TestWeaver
