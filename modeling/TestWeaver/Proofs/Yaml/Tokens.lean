import TestWeaver.Proofs.Session
import TestWeaver.Yaml.Token

/-! Why the tokens of a YAML text end. A text may break off, and a token may be malformed, spell a sign that there is
not, or hold a version with too many digits; nothing else stops the scanner. -/
namespace TestWeaver.Yaml

/- What a YAML text can be refused with: by its signs and its tokens, or by a scalar that is no value of its kind. -/
inductive Refused : Failure → Prop where
  | malformed : Refused .malformedYaml
  | undecodable (e : Utf8.DecodeError) : Refused (.undecodable e)
  | invalid (message : Text) : Refused (.invalid message)
  | numeral (e : LongNumeral) : Refused (.longNumeral e)
  | overflow (message : Text) : Refused (.overflow message)
  | unknown (word : Text) : Refused (.missingKey word)
  | empty : Refused (.outOfRange "string index out of range")
  | unmatched : Refused (.lacks "NoneType" "groupdict")
  | indirect : Refused (.wrongType "expected string or bytes-like object, got 'list'")
  | endless : Refused .endless

def Faults {α : Type} (r : Scan α) : Prop := ∀ fault, r = .error fault → Refused fault.failure

section faults
variable {α β : Type} {r : Scan α} {f : α → Scan β}

@[simp] theorem faultsOk (a : α) : Faults (.ok a : Scan α) := by
  rintro fault ⟨⟩

@[simp] theorem faultsPure (a : α) : Faults (pure a : Scan α) := faultsOk a

@[simp] theorem faultsRefuse (c : Cursor) (failure : Failure) : Faults (c.refuse failure : Scan α) ↔ Refused failure := by
  constructor
  · exact fun faults => faults _ rfl
  · rintro such fault ⟨⟩
    exact such

@[simp] theorem faultsMalformed (c : Cursor) : Faults (c.malformed : Scan α) := (faultsRefuse c _).mpr .malformed

@[simp] theorem faultsBind : Faults (r >>= f) ↔ Faults r ∧ ∀ a, r = .ok a → Faults (f a) := by
  cases r with
  | ok a => exact ⟨fun faults => ⟨faultsOk a,fun _ same => Except.ok.inj same ▸ faults⟩,fun both => both.2 a rfl⟩
  | error fault =>
    have same : Faults (Except.error fault >>= f) ↔ Faults (.error fault : Scan α) := by
      constructor <;> rintro faults _ ⟨⟩ <;> exact faults _ rfl
    exact same.trans ⟨fun faults => ⟨faults,nofun⟩,fun both => both.1⟩

@[simp] theorem faultsMap (g : α → β) : Faults (g <$> r) ↔ Faults r := by
  cases r with
  | ok a => exact iff_of_true (faultsOk (g a)) (faultsOk a)
  | error fault => constructor <;> rintro faults _ ⟨⟩ <;> exact faults _ rfl

@[simp] theorem faultsIf {p : Prop} [Decidable p] {a b : Scan α} : Faults (if p then a else b) ↔ (p → Faults a) ∧ (¬p → Faults b) := by
  split <;> simp_all

end faults

section scalars

theorem quotedBreaksFaults (fuel : Nat) (breaks : Text) (c : Cursor) : Faults (quotedBreaks fuel breaks c) := by
  induction fuel generalizing breaks c with
  | zero => exact faultsOk _
  | succ fuel ih =>
    unfold quotedBreaks
    simp [ih]

theorem quotedSpacesFaults (c : Cursor) : Faults (quotedSpaces c) := by
  unfold quotedSpaces
  simp [quotedBreaksFaults]

theorem escapeFaults (c : Cursor) : Faults (escape c) := by
  unfold escape
  split
  · exact faultsMalformed c
  · split
    · exact faultsOk _
    · simp only [faultsIf,faultsMalformed,implies_true,true_and]
      intro _
      split
      · exact faultsOk _
      · rw [faultsRefuse,unnumbered]
        split
        · exact .invalid _
        · exact .overflow _
    · simp [quotedBreaksFaults]

theorem quotedRunFaults (q : Quote) (fuel : Nat) (t : Text) (c : Cursor) : Faults (quotedRun q fuel t c) := by
  induction fuel generalizing t c with
  | zero => exact faultsOk _
  | succ fuel ih =>
    unfold quotedRun
    dsimp only
    split <;> simp [ih,escapeFaults]

theorem quotedFromFaults (q : Quote) (fuel : Nat) (t : Text) (c : Cursor) : Faults (quotedFrom q fuel t c) := by
  induction fuel generalizing t c with
  | zero => exact faultsMalformed c
  | succ fuel ih =>
    unfold quotedFrom
    simp [ih,quotedSpacesFaults,quotedRunFaults]

theorem quotedFaults (q : Quote) (c : Cursor) : Faults (quoted q c) := by
  unfold quoted
  simp [quotedRunFaults,quotedFromFaults]

theorem blockHeaderFaults (c : Cursor) : Faults (blockHeader c) := by
  unfold blockHeader
  simp

theorem lineRestFaults (c : Cursor) : Faults (lineRest c) := by
  unfold lineRest
  simp

theorem blockFaults (isFolded : Bool) (indent : Int) (c : Cursor) : Faults (block isFolded indent c) := by
  unfold block
  simp [blockHeaderFaults,lineRestFaults]

end scalars

section tags

theorem escapedBytesFaults (fuel : Nat) (c : Cursor) : Faults (Scanner.escapedBytes fuel c) := by
  induction fuel generalizing c with
  | zero => exact faultsOk _
  | succ fuel ih =>
    unfold Scanner.escapedBytes
    split
    · split <;> simp [ih]
    · exact faultsOk _

theorem uriFromFaults (fuel : Nat) (t : Text) (c : Cursor) : Faults (Scanner.uriFrom fuel t c) := by
  induction fuel generalizing t c with
  | zero => exact faultsOk _
  | succ fuel ih =>
    unfold Scanner.uriFrom
    simp only [faultsIf,faultsBind,escapedBytesFaults,true_and,faultsPure,implies_true,and_true]
    intro _ pair _
    split <;> simp [ih]

theorem uriFaults (c : Cursor) : Faults (Scanner.uri c) := by
  unfold Scanner.uri
  simp [uriFromFaults]

theorem handleNameFaults (c : Cursor) : Faults (Scanner.handleName c) := by
  unfold Scanner.handleName
  simp

theorem numberFaults (c : Cursor) : Faults (Scanner.number c) := by
  unfold Scanner.number
  simp only [faultsIf,faultsMalformed,implies_true,true_and]
  intro _
  split
  · exact faultsOk _
  · simp [Refused.numeral]

theorem versionFaults (c : Cursor) : Faults (Scanner.versionDirective c) := by
  unfold Scanner.versionDirective
  simp [numberFaults]

theorem tagDirectiveFaults (c : Cursor) : Faults (Scanner.tagDirective c) := by
  unfold Scanner.tagDirective
  simp [handleNameFaults,uriFaults]

end tags

section tokens
variable (s : Scanner)

theorem dropStaleFaults : Faults s.dropStale := by
  unfold Scanner.dropStale
  simp

theorem dropKeyFaults : Faults s.dropKey := by
  unfold Scanner.dropKey
  simp

theorem saveKeyFaults : Faults s.saveKey := by
  unfold Scanner.saveKey
  simp [dropKeyFaults]

theorem directiveFaults : Faults s.directive := by
  unfold Scanner.directive
  simp [dropKeyFaults,versionFaults,tagDirectiveFaults,lineRestFaults]

theorem referenceFaults (token : Text → Token) : Faults (s.reference token) := by
  unfold Scanner.reference
  simp [saveKeyFaults]

theorem tagFaults : Faults s.tag := by
  unfold Scanner.tag
  simp [saveKeyFaults,uriFaults,handleNameFaults]

theorem streamEndFaults : Faults s.streamEnd := by
  unfold Scanner.streamEnd
  simp [dropKeyFaults]

theorem separatorFaults (t : Token) : Faults (s.separator t) := by
  unfold Scanner.separator
  simp [dropKeyFaults]

theorem openFlowFaults (t : Token) : Faults (s.openFlow t) := by
  unfold Scanner.openFlow
  simp [saveKeyFaults]

theorem closeFlowFaults (t : Token) : Faults (s.closeFlow t) := by
  unfold Scanner.closeFlow
  simp [dropKeyFaults]

theorem commaFaults : Faults s.comma := by
  unfold Scanner.comma
  simp [dropKeyFaults]

theorem itemFaults : Faults s.item := by
  unfold Scanner.item
  simp [dropKeyFaults]

theorem keyFaults : Faults s.key := by
  unfold Scanner.key
  simp [dropKeyFaults]

theorem valueFaults : Faults s.value := by
  unfold Scanner.value
  split <;> simp [dropKeyFaults]

theorem blockScalarFaults (isFolded : Bool) : Faults (s.blockScalar isFolded) := by
  unfold Scanner.blockScalar
  simp [dropKeyFaults,blockFaults]

theorem quotedScalarFaults (q : Quote) : Faults (s.quotedScalar q) := by
  unfold Scanner.quotedScalar
  simp [saveKeyFaults,quotedFaults]

theorem plainScalarFaults : Faults s.plainScalar := by
  unfold Scanner.plainScalar
  simp [saveKeyFaults]

theorem otherFaults (p : CodePoint) : Faults (s.other p) := by
  unfold Scanner.other
  simp [plainScalarFaults]

theorem tokenFaults : Faults s.token := by
  unfold Scanner.token
  dsimp only
  split
  · exact streamEndFaults s
  · simp only [faultsIf,directiveFaults,separatorFaults,implies_true,true_and]
    intro _ _ _
    split <;> simp [openFlowFaults,closeFlowFaults,commaFaults,itemFaults,keyFaults,valueFaults,referenceFaults,tagFaults,
      blockScalarFaults,quotedScalarFaults,otherFaults]

end tokens

section ending
open Failure

def Breaks (broken : Option Failure) : Prop := ∀ f, broken = some f → Refused f

variable {broken : Option Failure}

def within (broken : Option Failure) (limit index : Nat) : Except Failure Unit :=
  match broken with
  | some f => if limit ≤ index then .error f else .ok ()
  | none => .ok ()

theorem withinOnly (breaks : Breaks broken) (limit index : Nat) : Only Refused (within broken limit index) := by
  unfold within
  split
  · split
    · exact onlyError (breaks _ rfl)
    · exact onlyOk ()
  · exact onlyOk ()

theorem settleOnly (breaks : Breaks broken) (limit : Nat) {r : Scanner.Step} (faults : Faults r) :
    Only Refused (match r with
      | .ok s => do
        let _ ← within broken limit s.cursor.index
        return s
      | .error e => do
        let _ ← within broken limit e.index
        throw e.failure) := by
  cases r with
  | ok s => exact onlyBind (withinOnly breaks limit _) fun _ _ => onlyOk s
  | error e => exact onlyBind (withinOnly breaks limit _) fun _ _ => onlyError (faults e rfl)

theorem stepOnly (breaks : Breaks broken) (s : Scanner) : Only Refused (s.step broken) := by
  unfold Scanner.step
  refine onlyBind (settleOnly breaks _ (faultsOk _)) fun next _ => ?_
  refine onlyBind (withinOnly breaks _ _) fun _ _ => ?_
  refine onlyBind (settleOnly breaks _ (dropStaleFaults next)) fun last _ => ?_
  exact settleOnly breaks _ (tokenFaults _)

theorem scanEnding (breaks : Breaks broken) (fuel settled : Nat) (s : Scanner) :
    Refused (Scanner.scan broken fuel settled s).ending := by
  induction fuel generalizing settled s with
  | zero => exact .malformed
  | succ fuel ih =>
    unfold Scanner.scan
    split
    · exact .malformed
    · split
      · rename_i fault stops
        exact dropStaleFaults s fault stops
      · rename_i t _
        split
        · rename_i f stops
          exact stepOnly breaks t f stops
        · exact ih _ _

theorem blocksBreak (fuel : Nat) (found : List Text) (s : Stream) : Breaks (Source.blocksFrom fuel found s).broken := by
  induction fuel generalizing found s with
  | zero => rintro f ⟨⟩
  | succ fuel ih =>
    unfold Source.blocksFrom
    split
    · rintro f ⟨⟩
      exact .undecodable _
    · split
      · rintro f ⟨⟩
      · split
        · exact ih _ _
        · rintro f ⟨⟩
          exact .malformed

theorem bytesBreak (bytes : Bytes) : Breaks (Source.ofBytes bytes).broken := by
  unfold Source.ofBytes
  split
  · rintro f ⟨⟩
    exact .undecodable _
  · split
    · rintro f ⟨⟩
      exact .malformed
    · split
      · rintro f ⟨⟩
      · exact blocksBreak _ _ _

theorem bytesEnding (bytes : Bytes) : Refused (tokens (.ofBytes bytes)).ending := scanEnding (bytesBreak bytes) _ _ _

end ending

end TestWeaver.Yaml
