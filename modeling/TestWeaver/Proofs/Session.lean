import TestWeaver.Session

/-! Pieces of work one after the other: the second runs in the session that the first leaves,
unless the first fails. What the pieces can fail with, the whole can fail with. -/
namespace TestWeaver

namespace Failure
variable {α β : Type} {r : Except Failure α} {f : α → Except Failure β} {P : Failure → Prop}

theorem bindOk {ε : Type} {r : Except ε α} {f : α → Except ε β} {b : β} (ok : (r >>= f) = .ok b) :
    ∃ a, r = .ok a ∧ f a = .ok b := by
  cases r with
  | error failure => cases ok
  | ok a => exact ⟨a,rfl,ok⟩

theorem bindError {ε : Type} {r : Except ε α} {f : α → Except ε β} {e : ε} (fails : (r >>= f) = .error e) :
    r = .error e ∨ ∃ a, f a = .error e := by
  cases r with
  | error other => exact .inl (by cases fails; rfl)
  | ok a => exact .inr ⟨a,fails⟩

def Only (P : Failure → Prop) (r : Except Failure α) : Prop := ∀ failure, r = .error failure → P failure

theorem onlyOk (a : α) : Only P (.ok a : Except Failure α) := by
  rintro failure ⟨⟩

theorem onlyError {failure : Failure} (such : P failure) : Only P (.error failure : Except Failure α) := by
  rintro other ⟨⟩
  exact such

theorem onlyBind (first : Only P r) (later : ∀ a, r = .ok a → Only P (f a)) : Only P (r >>= f) := by
  cases r with
  | error failure => exact onlyError (first failure rfl)
  | ok a => exact later a rfl

theorem onlyMap (g : α → β) (only : Only P r) : Only P (r.map g) := by
  cases r with
  | error failure => exact onlyError (only failure rfl)
  | ok a => exact onlyOk (g a)

theorem onlyEach {items : List α} (only : ∀ a ∈ items, Only P (f a)) : Only P (items.mapM f) := by
  induction items with
  | nil => exact onlyOk []
  | cons a items ih =>
    rw [List.mapM_cons]
    refine onlyBind (only a List.mem_cons_self) fun b _ => ?_
    exact onlyBind (ih fun a member => only a (List.mem_cons_of_mem _ member)) fun bs _ => onlyOk (b :: bs)

theorem onlyNone (only : Only (fun _ => False) r) : ∃ a, r = .ok a := by
  cases r with
  | error failure => exact (only failure rfl).elim
  | ok a => exact ⟨a,rfl⟩

theorem ofResult {a : α} (gives : r.toOption = some a) : r = .ok a := by
  cases r <;> cases gives
  rfl

def failure? : Except Failure α → Option Failure
  | .ok _ => none
  | .error f => some f

theorem ofFailure {failure : Failure} (fails : failure? r = some failure) : r = .error failure := by
  cases r <;> cases fails
  rfl

end Failure

namespace Work
variable {α β : Type} {w : Work α} {f : α → Work β} {session next : Session}

theorem bindRun {a : α} (run : w session = (.ok a,next)) : (w >>= f) session = f a next := by
  simp [bind,ExceptT.bind,ExceptT.mk,ExceptT.bindCont,StateT.bind,run]

theorem bindFails {failure : Failure} (run : w session = (.error failure,next)) :
    (w >>= f) session = (.error failure,next) := by
  simp [bind,ExceptT.bind,ExceptT.mk,ExceptT.bindCont,StateT.bind,run]
  rfl

theorem logRun (records : List Record) (session : Session) :
    Work.log records session = (.ok (),{ session with records := session.records ++ records }) := rfl

theorem ofExceptRun {e : Except Failure α} {a : α} (ok : e = .ok a) (session : Session) :
    Work.ofExcept e session = (.ok a,session) := by
  rw [ok]
  rfl

theorem filesRun (session : Session) : Work.files session = (.ok session.files,session) := rfl

theorem setFilesRun (files : Files.Store) (session : Session) :
    Work.setFiles files session = (.ok (),{ session with files }) := rfl

theorem bindPasses {r : β} {last : Session} (ok : (w >>= f) session = (.ok r,last)) :
    ∃ a next, w session = (.ok a,next) ∧ f a next = (.ok r,last) := by
  cases step : w session with
  | mk result next =>
    cases result with
    | ok a =>
      rw [bindRun step] at ok
      exact ⟨a,next,rfl,ok⟩
    | error failure =>
      rw [bindFails step] at ok
      cases ok

theorem bindOk {r : β} (ok : ((w >>= f) session).1 = .ok r) :
    ∃ a next, w session = (.ok a,next) ∧ (f a next).1 = .ok r := by
  obtain ⟨a,next,first,later⟩ := bindPasses (Prod.ext ok rfl)
  exact ⟨a,next,first,congrArg Prod.fst later⟩

theorem attemptRun {r : Except Failure α} (run : w session = (r,next)) : Work.attempt w session = (.ok r,next) := by
  simp [Work.attempt,run]

def FailsWith (P : Failure → Prop) (w : Work α) : Prop := ∀ session failure, (w session).1 = .error failure → P failure

variable {P : Failure → Prop}

theorem failsBind (first : FailsWith P w) (later : ∀ a, FailsWith P (f a)) : FailsWith P (w >>= f) := by
  intro session failure fails
  cases run : w session with
  | mk r next =>
    cases r with
    | error other =>
      rw [bindFails run] at fails
      cases fails
      exact first session failure (congrArg Prod.fst run)
    | ok a =>
      rw [bindRun run] at fails
      exact later a next failure fails

theorem failsExcept {r : Except Failure α} (only : Failure.Only P r) : FailsWith P (Work.ofExcept r) :=
  fun _ failure same => only failure same

theorem failsLog (records : List Record) : FailsWith P (Work.log records) := by
  rintro session failure ⟨⟩

theorem failsPure (a : α) : FailsWith P (pure a) := by
  rintro session failure ⟨⟩

end Work
end TestWeaver
