import TestWeaver.Proofs.Yaml.Nodes
import TestWeaver.Yaml.Reader

/-! Why a YAML document has no value. A scalar may be none of the kind that it is taken for, and a collection may be
made of nodes that have no place in it. With what stops the tokens this is all that the reading of any bytes can fail
with. -/
namespace TestWeaver.Yaml
open Failure

section scalars
variable (t : Text)

theorem boolOnly : Only Refused (boolOf t) := by
  unfold boolOf
  dsimp only
  split
  · exact onlyOk _
  · split
    · exact onlyOk _
    · exact onlyError (.unknown _)

theorem firstOnly : Only Refused (first t) := by
  unfold first
  split
  · exact onlyOk _
  · exact onlyError .empty

theorem signedOnly : Only Refused (signed t) := onlyBind (firstOnly t) fun _ _ => onlyOk _

theorem integerOnly (base : Nat) : Only Refused (integerIn base t) := by
  unfold integerIn
  split
  · exact onlyOk _
  · exact onlyError (.numeral _)
  · exact onlyError (.invalid _)

theorem absoluteIntOnly : Only Refused (absoluteInt t) := by
  unfold absoluteInt
  split
  · exact onlyOk _
  · split
    · exact integerOnly _ 2
    · exact integerOnly _ 16
    · refine onlyBind (firstOnly t) fun c _ => ?_
      split
      · exact integerOnly t 8
      · split
        · exact onlyBind (onlyEach fun part _ => integerOnly part 10) fun _ _ => onlyOk _
        · exact integerOnly t 10

theorem intOnly : Only Refused (intOf t) :=
  onlyBind (signedOnly _) fun (_,digits) _ => onlyBind (absoluteIntOnly digits) fun _ _ => onlyOk _

theorem realOnly : Only Refused (realOf t) := by
  unfold realOf
  split
  · exact onlyOk _
  · exact onlyError (.invalid _)

theorem sixtiesOnly (base : Nat) (sum : Binary64) (places : List Binary64) : Only Refused (sixtyReals base sum places) := by
  induction places generalizing base sum with
  | nil => exact onlyOk _
  | cons x places ih =>
    unfold sixtyReals
    split
    · exact onlyError (.overflow _)
    · exact ih _ _

theorem absoluteRealOnly : Only Refused (absoluteReal t) := by
  unfold absoluteReal
  split
  · exact onlyOk _
  · split
    · exact onlyOk _
    · split
      · exact onlyBind (onlyEach fun part _ => realOnly part) fun _ _ => sixtiesOnly _ _ _
      · exact realOnly t

theorem floatOnly : Only Refused (floatOf t) :=
  onlyBind (signedOnly _) fun (_,digits) _ => onlyBind (absoluteRealOnly digits) fun _ _ => onlyOk _

theorem requireOnly (condition : Bool) (message : Text) : Only Refused (require condition message) := by
  unfold require
  split
  · exact onlyOk _
  · exact onlyError (.invalid _)

theorem dateOnly (year month day : Nat) : Only Refused (dateOf year month day) :=
  onlyBind (requireOnly _ _) fun _ _ => onlyBind (requireOnly _ _) fun _ _ => onlyBind (requireOnly _ _) fun _ _ => onlyOk _

theorem offsetOnly : Only Refused (offsetOf t) := by
  unfold offsetOf
  split
  · exact onlyOk _
  · split
    · exact onlyOk _
    · exact onlyBind (requireOnly _ _) fun _ _ => onlyOk _

theorem timestampOnly : Only Refused (timestampOf t) := by
  unfold timestampOf
  split
  · exact onlyError .unmatched
  · dsimp only
    split
    · exact onlyBind (dateOnly _ _ _) fun _ _ => onlyOk _
    · refine onlyBind (offsetOnly _) fun _ _ => onlyBind (dateOnly _ _ _) fun _ _ => ?_
      refine onlyBind (requireOnly _ _) fun _ _ => onlyBind (requireOnly _ _) fun _ _ => ?_
      exact onlyBind (requireOnly _ _) fun _ _ => onlyOk _

theorem binaryOnly : Only Refused (binaryOf t) := by
  unfold binaryOf
  split
  · exact onlyOk _
  · exact onlyError .malformed

theorem scalarOnly (k : Kind) : Only Refused (scalarValue k t) := by
  unfold scalarValue
  split
  · exact onlyOk _
  · exact boolOnly t
  · exact intOnly t
  · exact floatOnly t
  · exact binaryOnly t
  · exact timestampOnly t
  · exact onlyOk _
  · exact onlyError .malformed

end scalars

abbrev Builds {α : Type} (m : Builder α) : Prop := Safe (fun _ : Building => True) m

namespace Builder
variable {α : Type}

theorem failBuilds : Builds (fail : Builder α) := safeThrow .malformed

theorem liftBuilds {r : Except Failure α} (only : Only Refused r) : Builds (liftM r : Builder α) := by
  intro b _
  refine ⟨?_,fun _ _ _ => trivial⟩
  cases r with
  | ok a => exact onlyOk (a,b)
  | error f => exact onlyError (only f rfl)

theorem nodeBuilds (n : Nat) : Builds (nodeAt n) := safeBind safeGet fun _ => safePure _

theorem thingBuilds (n : Nat) : Builds (thingAt? n) := safeBind safeGet fun _ => safePure _

theorem setNodeBuilds (n : Nat) (node : Node) : Builds (setNode n node) := safeModify fun _ _ => trivial

theorem setThingBuilds (n : Nat) (thing : Thing) : Builds (setThing n thing) := safeModify fun _ _ => trivial

theorem defaultBuilds (entries : List (Nat × Nat)) : Builds (default? entries) := by
  induction entries with
  | nil => exact safePure _
  | cons entry rest ih =>
    unfold default?
    refine safeBind (nodeBuilds _) fun node => ?_
    split
    · exact safePure _
    · exact ih

theorem textBuilds (fuel n : Nat) : Builds (textOf fuel n) := by
  induction fuel generalizing n with
  | zero => exact safeThrow .endless
  | succ fuel ih =>
    unfold textOf
    refine safeBind (nodeBuilds n) fun node => ?_
    split
    · exact safePure _
    · exact failBuilds
    · refine safeBind (defaultBuilds _) fun found => ?_
      split
      · exact ih _
      · exact failBuilds

theorem valueBuilds (n : Nat) (node : Node) : Builds (valueOf n node) := by
  refine safeBind safeGet fun b => safeBind (textBuilds _ n) fun t => ?_
  split
  · exact safeThrow .indirect
  · refine safeBind (liftBuilds (scalarOnly t _)) fun v => ?_
    split
    · split
      · exact safePure _
      · exact safePure _
    · exact safePure _

theorem awaitBuilds (n : Nat) (thing : Thing) : Builds (await n thing) :=
  safeBind (setThingBuilds n thing) fun _ => safeModify fun _ _ => trivial

theorem makeBuilds (n : Nat) : Builds (make n) := by
  refine safeBind (thingBuilds n) fun found => ?_
  split
  · exact safePure _
  · refine safeBind (nodeBuilds n) fun node => ?_
    split
    · exact awaitBuilds _ _
    · exact awaitBuilds _ _
    · exact awaitBuilds _ _
    · exact awaitBuilds _ _
    · exact awaitBuilds _ _
    · exact failBuilds
    · exact failBuilds
    · exact failBuilds
    · exact safeBind (valueBuilds n node) fun _ => setThingBuilds _ _

theorem pairBuilds (n : Nat) : Builds (makePair n) := by
  refine safeBind (nodeBuilds n) fun node => ?_
  split
  · exact safeBind (makeBuilds _) fun _ => safeBind (makeBuilds _) fun _ => safePure _
  · exact failBuilds

theorem keyBuilds (n : Nat) : Builds (keyOf n) := by
  refine safeBind (thingBuilds n) fun found => ?_
  split
  · exact safePure _
  · exact failBuilds

theorem makeEntriesBuilds (found : List (Value × Nat × Nat)) (entries : List (Nat × Nat)) :
    Builds (makeEntries found entries) := by
  induction entries generalizing found with
  | nil => exact safePure _
  | cons entry rest ih =>
    unfold makeEntries
    refine safeBind (makeBuilds _) fun _ => safeBind (keyBuilds _) fun key => ?_
    exact safeBind (makeBuilds _) fun _ => ih _

theorem entriesBuilds (n : Nat) : Builds (entriesOf n) := by
  refine safeBind (nodeBuilds n) fun node => ?_
  split
  · exact safePure _
  · exact failBuilds

theorem setEntriesBuilds (n : Nat) (entries : List (Nat × Nat)) : Builds (setEntries n entries) :=
  safeBind (nodeBuilds n) fun _ => setNodeBuilds _ _

structure MergesBuild (fuel : Nat) : Prop where
  mergeFrom : ∀ n index merged, Builds (mergeFrom n index merged fuel)
  mergedOf : ∀ n, Builds (mergedOf n fuel)
  mergedEach : ∀ items, Builds (mergedEach items fuel)

section merging
variable {fuel : Nat} (inner : MergesBuild fuel)
include inner

theorem mergeFromBuilds (n index : Nat) (merged : List (Nat × Nat)) : Builds (mergeFrom n index merged (fuel + 1)) := by
  unfold mergeFrom
  refine safeBind (entriesBuilds n) fun entries => ?_
  split
  · split
    · exact setEntriesBuilds _ _
    · exact safePure _
  · refine safeBind (nodeBuilds _) fun key => ?_
    split
    · refine safeBind (setEntriesBuilds _ _) fun _ => safeBind (inner.mergedOf _) fun more => ?_
      exact inner.mergeFrom _ _ _
    · exact safeBind (setNodeBuilds _ _) fun _ => inner.mergeFrom _ _ _
    · exact inner.mergeFrom _ _ _

theorem mergedOfBuilds (n : Nat) : Builds (mergedOf n (fuel + 1)) := by
  unfold mergedOf
  refine safeBind (nodeBuilds n) fun node => ?_
  split
  · exact failBuilds
  · exact safeBind (inner.mergeFrom _ _ _) fun _ => entriesBuilds n
  · exact inner.mergedEach _

theorem mergedEachBuilds (items : List Nat) : Builds (mergedEach items (fuel + 1)) := by
  unfold mergedEach
  split
  · exact safePure _
  · refine safeBind (entriesBuilds _) fun _ => safeBind (inner.mergeFrom _ _ _) fun _ => ?_
    refine safeBind (entriesBuilds _) fun found => safeBind (inner.mergedEach _) fun more => ?_
    exact safePure _

end merging

theorem mergesBuild (fuel : Nat) : MergesBuild fuel := by
  induction fuel with
  | zero => constructor <;> intros <;> exact safeThrow .endless
  | succ fuel inner => exact ⟨mergeFromBuilds inner,mergedOfBuilds inner,mergedEachBuilds inner⟩

theorem makeMergedBuilds (n : Nat) : Builds (makeMerged n) := by
  refine safeBind (entriesBuilds n) fun _ => safeBind ((mergesBuild _).mergeFrom _ _ _) fun _ => ?_
  exact safeBind (entriesBuilds n) fun entries => makeEntriesBuilds [] entries

theorem itemsBuilds (n : Nat) : Builds (itemsOf n) := by
  refine safeBind (nodeBuilds n) fun node => ?_
  split
  · exact safePure _
  · exact failBuilds

theorem eachBuilds {β : Type} {f : α → Builder β} (items : List α) (each : ∀ a, Builds (f a)) : Builds (items.mapM f) := by
  induction items with
  | nil => exact safePure _
  | cons a items ih =>
    rw [List.mapM_cons]
    exact safeBind (each a) fun _ => safeBind ih fun _ => safePure _

theorem allBuilds {f : α → Builder PUnit} (items : List α) (each : ∀ a, Builds (f a)) : Builds (items.forM f) := by
  induction items with
  | nil => exact safePure _
  | cons a items ih => exact safeBind (each a) fun _ => ih

theorem fillBuilds (n : Nat) : Builds (fill n) := by
  refine safeBind (thingBuilds n) fun found => ?_
  split
  · refine safeBind (itemsBuilds n) fun items => ?_
    exact safeBind (allBuilds items makeBuilds) fun _ => setThingBuilds _ _
  · exact safeBind (itemsBuilds n) fun items => safeBind (eachBuilds items pairBuilds) fun _ => setThingBuilds _ _
  · exact safeBind (makeMergedBuilds n) fun _ => setThingBuilds _ _
  · exact safeBind (makeMergedBuilds n) fun _ => setThingBuilds _ _
  · exact safePure _

theorem fillAllBuilds (fuel : Nat) : Builds (fillAll fuel) := by
  induction fuel with
  | zero => exact safePure _
  | succ fuel ih =>
    unfold fillAll
    refine safeBind safeGet fun b => ?_
    dsimp only
    split
    · exact safePure _
    · refine safeBind (safeModify fun _ _ => trivial) fun _ => ?_
      exact safeBind (allBuilds _ fillBuilds) fun _ => ih

end Builder

theorem thingsOnly (d : Document) : Only Refused d.things := by
  have build : Builds (Builder.make d.root >>= fun _ => Builder.fillAll (d.nodes.size + 1)) :=
    safeBind (Builder.makeBuilds d.root) fun _ => Builder.fillAllBuilds _
  exact onlyBind (build _ trivial).1 fun _ _ => onlyOk _

theorem valueOnly (d : Document) : Only Refused d.value := onlyBind (thingsOnly d) fun _ _ => onlyOk _

theorem bytesOnly (bytes : Bytes) : Only Refused (ofBytes bytes) := by
  refine onlyBind (documentOnly (bytesEnding bytes)) fun found _ => ?_
  split
  · exact onlyOk _
  · exact valueOnly _

end TestWeaver.Yaml
