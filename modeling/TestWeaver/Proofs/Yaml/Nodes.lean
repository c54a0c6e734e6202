import TestWeaver.Proofs.Yaml.Tokens
import TestWeaver.Yaml.Node

/-! Why a YAML text has no document. Its tokens may end in a failure, which is met where one more is asked for, or they
stand in an order that makes no nodes. -/
namespace TestWeaver.Yaml
open Failure

/- What goes on from states with a property to such states, or is refused. -/
def Safe {σ α : Type} (I : σ → Prop) (m : StateT σ (Except Failure) α) : Prop :=
  ∀ s, I s → Only Refused (m s) ∧ ∀ a t, m s = .ok (a,t) → I t

section safe
variable {σ α β : Type} {I : σ → Prop} {m : StateT σ (Except Failure) α} {f : α → StateT σ (Except Failure) β}

theorem safePure (a : α) : Safe I (pure a) := by
  intro s holds
  refine ⟨onlyOk _,?_⟩
  rintro b t ⟨⟩
  exact holds

theorem safeThrow {failure : Failure} (such : Refused failure) : Safe I (throw failure : StateT σ (Except Failure) α) := by
  intro s _
  exact ⟨onlyError such,nofun⟩

theorem safeModify {g : σ → σ} (kept : ∀ s, I s → I (g s)) : Safe I (modify g) := by
  intro s holds
  refine ⟨onlyOk _,?_⟩
  rintro b t ⟨⟩
  exact kept s holds

theorem safeGet : Safe I (get : StateT σ (Except Failure) σ) := by
  intro s holds
  refine ⟨onlyOk _,?_⟩
  rintro b t ⟨⟩
  exact holds

theorem safeBind (first : Safe I m) (later : ∀ a, Safe I (f a)) : Safe I (m >>= f) := by
  intro s holds
  obtain ⟨only,kept⟩ := first s holds
  have run : (m >>= f) s = m s >>= fun (a,t) => f a t := rfl
  rw [run]
  refine ⟨onlyBind only fun (a,t) ok => (later a t (kept a t ok)).1,fun b u ok => ?_⟩
  obtain ⟨⟨a,t⟩,ran,ok⟩ := Failure.bindOk ok
  exact (later a t (kept a t ran)).2 b u ok

theorem safeWhen {p : Prop} [Decidable p] {m : StateT σ (Except Failure) PUnit} {f : PUnit → StateT σ (Except Failure) β}
    (first : Safe I m) (later : ∀ a, Safe I (f a)) : Safe I (if p then m >>= f else f ()) := by
  split
  · exact safeBind first later
  · exact later ()

theorem safeEither {p : Prop} [Decidable p] {n : StateT σ (Except Failure) α} (first : Safe I m) (second : Safe I n)
    (later : ∀ a, Safe I (f a)) : Safe I (if p then m >>= f else n >>= f) := by
  split
  · exact safeBind first later
  · exact safeBind second later

end safe

abbrev Reads {α : Type} (m : Reader α) : Prop := Safe (fun r : Reading => Refused r.ending) m

namespace Reader
variable {α : Type}

theorem failReads : Reads (fail : Reader α) := safeThrow .malformed

theorem headReads : Reads head := by
  rintro ⟨tokens,ending,handles,nodes,anchors⟩ such
  cases tokens with
  | nil => exact ⟨onlyError such,nofun⟩
  | cons next rest =>
    refine ⟨onlyOk (next,_),?_⟩
    rintro a t ⟨⟩
    exact such

theorem skipReads : Reads skip := safeModify fun _ such => such

theorem expectReads (t : Token) : Reads (expect t) := by
  refine safeBind headReads fun next => ?_
  split
  · exact skipReads
  · exact failReads

theorem isNextReads (ts : List Token) : Reads (isNext ts) := safeBind headReads fun _ => safePure _

theorem addReads (n : Node) : Reads (add n) :=
  safeBind safeGet fun _ => safeBind (safeModify fun _ such => such) fun _ => safePure _

theorem addEmptyReads : Reads addEmpty := addReads .empty

theorem registerReads (anchor : Option Text) (n : Node) : Reads (register anchor n) := by
  unfold register
  split
  · exact addReads n
  · rename_i name
    have named : Reads do
        let number ← add n
        modify fun r => { r with anchors := (name,number) :: r.anchors }
        return number :=
      safeBind (addReads n) fun _ => safeBind (safeModify fun _ such => such) fun _ => safePure _
    exact safeBind safeGet fun r => safeWhen failReads fun _ => named

theorem collectionReads {content : Reader Content} (anchor : Option Text) (kind : Kind) (start : Content)
    (inside : Reads content) : Reads (collection anchor kind start content) :=
  safeBind (registerReads anchor _) fun _ => safeBind inside fun _ =>
    safeBind (safeModify fun _ such => such) fun _ => safePure _

theorem sequenceReads {items : Reader (List Nat)} (anchor : Option Text) (kind : Kind) (inside : Reads items) :
    Reads (sequence anchor kind items) :=
  collectionReads anchor kind _ (safeBind inside fun _ => safePure _)

theorem mappingReads {entries : Reader (List (Nat × Nat))} (anchor : Option Text) (kind : Kind) (inside : Reads entries) :
    Reads (mapping anchor kind entries) :=
  collectionReads anchor kind _ (safeBind inside fun _ => safePure _)

theorem anchorReads : Reads anchor? := by
  refine safeBind headReads fun next => ?_
  split
  · exact safeBind skipReads fun _ => safePure _
  · exact safePure _

theorem tagReads : Reads tag? := by
  refine safeBind headReads fun next => ?_
  split
  · exact safeBind skipReads fun _ => safePure _
  · exact safePure _

theorem tagInFullReads (tag : Option (Option Text × Text)) : Reads (tagInFull tag) := by
  unfold tagInFull
  split
  · exact safePure _
  · exact safePure _
  · refine safeBind safeGet fun r => ?_
    split
    · exact safePure _
    · exact failReads

theorem propertiesReads : Reads properties := by
  refine safeBind anchorReads fun anchor => ?_
  split
  · exact safeBind tagReads fun tag => safeBind (tagInFullReads tag) fun _ => safePure _
  · refine safeBind tagReads fun tag => safeEither anchorReads (safePure _) fun anchor => ?_
    exact safeBind (tagInFullReads tag) fun _ => safePure _

theorem bareReads (anchor tag : Option Text) : Reads (bare anchor tag) := by
  unfold bare
  split
  · exact failReads
  · exact registerReads anchor _

structure NodesRead (fuel : Nat) : Prop where
  node : ∀ inBlock isLoose, Reads (node inBlock isLoose fuel)
  nodeBefore : ∀ stops inBlock isLoose, Reads (nodeBefore stops inBlock isLoose fuel)
  blockItems : Reads (blockItems fuel)
  looseItems : Reads (looseItems fuel)
  blockEntries : Reads (blockEntries fuel)
  valueAfter : ∀ stops inBlock, Reads (valueAfter stops inBlock fuel)
  flowItems : ∀ isFirst, Reads (flowItems isFirst fuel)
  flowEntries : ∀ isFirst, Reads (flowEntries isFirst fuel)

section deeper
variable {fuel : Nat} (inner : NodesRead fuel)
include inner

theorem nodeReads (inBlock isLoose : Bool) : Reads (node inBlock isLoose (fuel + 1)) := by
  unfold node
  refine safeBind headReads fun next => ?_
  split
  · refine safeBind skipReads fun _ => safeBind safeGet fun r => ?_
    split
    · exact safePure _
    · exact failReads
  · refine safeBind propertiesReads fun (anchor,tag) => safeBind headReads fun next => ?_
    split
    · split
      · exact sequenceReads anchor _ inner.looseItems
      · exact bareReads anchor tag
    · exact safeBind skipReads fun _ => registerReads anchor _
    · exact safeBind skipReads fun _ => sequenceReads anchor _ (inner.flowItems true)
    · exact safeBind skipReads fun _ => mappingReads anchor _ (inner.flowEntries true)
    · split
      · exact safeBind skipReads fun _ => sequenceReads anchor _ inner.blockItems
      · exact bareReads anchor tag
    · split
      · exact safeBind skipReads fun _ => mappingReads anchor _ inner.blockEntries
      · exact bareReads anchor tag
    · exact bareReads anchor tag

theorem nodeBeforeReads (stops : List Token) (inBlock isLoose : Bool) :
    Reads (nodeBefore stops inBlock isLoose (fuel + 1)) := by
  unfold nodeBefore
  refine safeBind (isNextReads stops) fun here => ?_
  split
  · exact addEmptyReads
  · exact inner.node inBlock isLoose

theorem blockItemsReads : Reads (blockItems (fuel + 1)) := by
  unfold blockItems
  refine safeBind headReads fun next => ?_
  split
  · refine safeBind skipReads fun _ => safeBind (inner.nodeBefore _ _ _) fun n => ?_
    exact safeBind inner.blockItems fun _ => safePure _
  · exact safeBind (expectReads _) fun _ => safePure _

theorem looseItemsReads : Reads (looseItems (fuel + 1)) := by
  unfold looseItems
  refine safeBind headReads fun next => ?_
  split
  · refine safeBind skipReads fun _ => safeBind (inner.nodeBefore _ _ _) fun n => ?_
    exact safeBind inner.looseItems fun _ => safePure _
  · exact safePure _

theorem blockEntriesReads : Reads (blockEntries (fuel + 1)) := by
  unfold blockEntries
  refine safeBind headReads fun next => ?_
  split
  · refine safeBind skipReads fun _ => safeBind (inner.nodeBefore _ _ _) fun k => ?_
    refine safeBind (inner.valueAfter _ _) fun v => ?_
    exact safeBind inner.blockEntries fun _ => safePure _
  · exact safeBind (expectReads _) fun _ => safePure _

theorem valueAfterReads (stops : List Token) (inBlock : Bool) : Reads (valueAfter stops inBlock (fuel + 1)) := by
  unfold valueAfter
  refine safeBind headReads fun next => ?_
  split
  · exact safeBind skipReads fun _ => inner.nodeBefore _ _ _
  · exact addEmptyReads

theorem flowItemsReads (isFirst : Bool) : Reads (flowItems isFirst (fuel + 1)) := by
  unfold flowItems
  have behind : ∀ n, Reads do return n :: (← flowItems false fuel) := fun n =>
    safeBind (inner.flowItems false) fun _ => safePure _
  have ended : Reads do skip; return ([] : List Nat) := safeBind skipReads fun _ => safePure _
  refine safeBind headReads fun next => ?_
  split
  · exact ended
  · refine safeWhen (expectReads _) fun _ => safeBind headReads fun next => ?_
    split
    · exact ended
    · refine safeBind skipReads fun _ => safeBind (mappingReads none _ ?_) behind
      refine safeBind (inner.nodeBefore _ _ _) fun k => safeBind (inner.valueAfter _ _) fun v => ?_
      exact safePure _
    · exact safeBind (inner.node _ _) behind

theorem flowEntriesReads (isFirst : Bool) : Reads (flowEntries isFirst (fuel + 1)) := by
  unfold flowEntries
  have behind : ∀ k v, Reads do return (k,v) :: (← flowEntries false fuel) := fun k v =>
    safeBind (inner.flowEntries false) fun _ => safePure _
  have ended : Reads do skip; return ([] : List (Nat × Nat)) := safeBind skipReads fun _ => safePure _
  refine safeBind headReads fun next => ?_
  split
  · exact ended
  · refine safeWhen (expectReads _) fun _ => safeBind headReads fun next => ?_
    split
    · exact ended
    · refine safeBind skipReads fun _ => safeBind (inner.nodeBefore _ _ _) fun k => ?_
      exact safeBind (inner.valueAfter _ _) (behind k)
    · exact safeBind (inner.node _ _) fun k => safeBind addEmptyReads (behind k)

end deeper

theorem nodesRead (fuel : Nat) : NodesRead fuel := by
  induction fuel with
  | zero => constructor <;> intros <;> exact failReads
  | succ fuel inner => exact {
      node := nodeReads inner
      nodeBefore := nodeBeforeReads inner
      blockItems := blockItemsReads inner
      looseItems := looseItemsReads inner
      blockEntries := blockEntriesReads inner
      valueAfter := valueAfterReads inner
      flowItems := flowItemsReads inner
      flowEntries := flowEntriesReads inner }

theorem directivesReads (hasVersion : Bool) (handles : List (Text × Text)) (fuel : Nat) :
    Reads (directives hasVersion handles fuel) := by
  induction fuel generalizing hasVersion handles with
  | zero => exact failReads
  | succ fuel ih =>
    unfold directives
    refine safeBind headReads fun next => ?_
    split
    · refine safeBind skipReads fun _ => ?_
      split
      · exact failReads
      · exact ih _ _
    · refine safeBind skipReads fun _ => ?_
      split
      · exact failReads
      · exact ih _ _
    · exact safeBind skipReads fun _ => ih _ _
    · exact safeModify fun _ such => such

theorem contentReads (mayBeEmpty : Bool) (fuel : Nat) : Reads (content mayBeEmpty fuel) := by
  refine safeBind headReads fun next => ?_
  split
  · exact addEmptyReads
  · exact (nodesRead fuel).node true false

theorem skipEndsReads (fuel : Nat) : Reads (skipEnds fuel) := by
  induction fuel with
  | zero => exact failReads
  | succ fuel ih =>
    unfold skipEnds
    refine safeBind headReads fun next => ?_
    split
    · exact safeBind skipReads fun _ => ih
    · exact safePure _

theorem isStartedReads (fuel : Nat) : Reads (isStarted fuel) := by
  refine safeBind (skipEndsReads fuel) fun _ => safeBind headReads fun next => ?_
  split
  · exact safePure _
  · refine safeBind (directivesReads false [] fuel) fun _ => ?_
    exact safeBind (expectReads _) fun _ => safePure _

theorem implicitReads : Reads implicitStart := safeBind (safeModify fun _ such => such) fun _ => safePure _

theorem documentReads (fuel : Nat) : Reads (document? fuel) := by
  refine safeBind headReads fun first => safeEither implicitReads (isStartedReads fuel) fun begins => ?_
  dsimp only
  split
  · refine safeBind (contentReads _ fuel) fun root => safeBind (isStartedReads fuel) fun more => ?_
    split
    · exact failReads
    · exact safePure _
  · exact safePure _

end Reader

theorem documentOnly {run : TokenRun} (such : Refused run.ending) : Only Refused (document? run) :=
  onlyBind (Reader.documentReads _ _ such).1 fun _ _ => onlyOk _

end TestWeaver.Yaml
