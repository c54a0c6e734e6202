import TestWeaver.Recording.Transcript

/-! A recording read in one pass, with a check where each action is made. The pass
ends without an error, every line has exactly one place in what it leaves, and
lines that are no calls have no influence on the actions. -/
namespace TestWeaver.Recording

def Shape.extract? (shape : Shape) (line : Text) : Option (Option Text × Option Text) :=
  (shape.captures? line).bind fun (given, value) =>
    match shape with
    | .navigation => some (none, some (unescape given))
    | .chained .role _ => (roleSelector? given).map fun s => (some s, value.map unescape)
    | .chained .locator _ | .flat _ =>
      let s := (unescape given).trim
      if s.isEmpty then none else some (some s, value.map unescape)
    | .chained a _ =>
      let text := unescape given
      if text.isBlank then none else some (some (a.tag ++ text), value.map unescape)

theorem actOfGiven {s : Text} (given : s ≠ []) (kind : Kind) (value : Option Text) :
    Call.act? kind s value = some (.act kind s value given) := by
  simp [Call.act?,given]

theorem taggedGiven {a : Accessor} (tagged : a ≠ .locator ∧ a ≠ .role) (t : Text) : a.tag ++ t ≠ [] := by
  cases a <;> simp_all [Accessor.tag,Text.ofString]

theorem readTrimmed (kind : Kind) (s : Text) (value : Option Text) :
    (if s.isEmpty then none else some (some s,value)) =
      (Call.act? kind s value).map fun c => (c.selector,c.value) := by
  by_cases given : s = []
  · simp [given,Call.act?]
  · simp [actOfGiven given,given,Call.selector,Call.value]

theorem extractOfRead (shape : Shape) (line : Text) :
    shape.extract? line = (shape.read? line).map fun c => (c.selector,c.value) := by
  unfold Shape.extract? Shape.read?
  cases shape.captures? line with
  | none => rfl
  | some captured =>
    obtain ⟨given,value⟩ := captured
    have tagged : ∀ a : Accessor, a ≠ .locator ∧ a ≠ .role → ∀ kind,
        (if (unescape given).isBlank then none
          else some (some (a.tag ++ unescape given),value.map unescape)) =
        (if (unescape given).isBlank then none
          else Call.act? kind (a.tag ++ unescape given) (value.map unescape)).map
            fun c => (c.selector,c.value) := by
      intro a free kind
      split
      · rfl
      · simp [actOfGiven (taggedGiven free _),Call.selector,Call.value]
    cases shape with
    | navigation => rfl
    | flat g => exact readTrimmed g.kind _ _
    | chained a g =>
      cases a with
      | locator => exact readTrimmed g.kind _ _
      | role =>
        cases role : roleSelector? given with
        | none => simp [role]
        | some s => simp [role,actOfGiven (roleSelector?_ne_nil role),Call.selector,Call.value]
      | text => exact tagged .text (by decide) g.kind
      | placeholder => exact tagged .placeholder (by decide) g.kind
      | label => exact tagged .label (by decide) g.kind

theorem kindOfRead {shape : Shape} {line : Text} {c : Call} (ok : shape.read? line = some c) :
    c.kind = shape.kind := by
  have acted : ∀ {kind s value}, Call.act? kind s value = some c → c.kind = kind := by
    intro kind s value act
    unfold Call.act? at act
    split at act <;> try contradiction
    cases Option.some.inj act
    rfl
  obtain ⟨⟨given,value⟩,_,read⟩ := Option.bind_eq_some_iff.mp ok
  cases shape with
  | navigation => cases Option.some.inj read; rfl
  | flat g => exact acted read
  | chained a g =>
    cases a with
    | locator => exact acted read
    | role =>
      obtain ⟨s,_,act⟩ := Option.bind_eq_some_iff.mp read
      exact acted act
    | text | placeholder | label =>
      dsimp only at read
      split at read
      · contradiction
      · exact acted read

def firstTaker? (table : List Shape) (line : Text) : Option (Shape × Option Text × Option Text) :=
  table.findSome? fun shape => (shape.extract? line).map fun taken => (shape,taken)

def Takes (table : List Shape) (line : Text) (shape : Shape) (taken : Option Text × Option Text) : Prop :=
  shape.extract? line = some taken ∧
    ∃ before after, table = before ++ shape :: after ∧ ∀ s ∈ before, s.extract? line = none

def NoneTakes (table : List Shape) (line : Text) : Prop := ∀ s ∈ table, s.extract? line = none
instance (table line) : Decidable (NoneTakes table line) := by unfold NoneTakes; infer_instance

theorem firstTakerSome {table line shape taken} :
    firstTaker? table line = some (shape,taken) ↔ Takes table line shape taken := by
  unfold firstTaker? Takes
  rw [List.findSome?_eq_some_iff]
  constructor
  · rintro ⟨before,s,after,order,found,refused⟩
    obtain ⟨t,ht,same⟩ := Option.map_eq_some_iff.mp found
    cases same
    exact ⟨ht,before,after,order,by simpa using refused⟩
  · rintro ⟨found,before,after,order,refused⟩
    exact ⟨before,shape,after,order,by simp [found],by simpa using refused⟩

theorem firstTakerNone {table line} : firstTaker? table line = none ↔ NoneTakes table line := by
  simp [firstTaker?,NoneTakes]

theorem takesUnique {table line s t a b} (left : Takes table line s a) (right : Takes table line t b) :
    s = t ∧ a = b := by
  have same := (firstTakerSome.mpr left).symm.trans (firstTakerSome.mpr right)
  simpa using same

theorem takesNotNone {table line s a} (takes : Takes table line s a) : ¬ NoneTakes table line := by
  intro refused
  have found := firstTakerSome.mpr takes
  rw [firstTakerNone.mpr refused] at found
  contradiction

theorem recognizedTaker (table : List Shape) (line : Text) :
    firstTaker? table line = (recognize? table line).map fun (shape,c) => (shape,c.selector,c.value) := by
  unfold firstTaker? recognize?
  induction table with
  | nil => rfl
  | cons shape table ih =>
    simp only [List.findSome?_cons,extractOfRead]
    cases shape.read? line with
    | none => simpa [extractOfRead] using ih
    | some c => rfl

theorem kindOfRecognized {table line shape c} (ok : recognize? table line = some (shape,c)) :
    c.kind = shape.kind := by
  obtain ⟨s,_,found⟩ := List.exists_of_findSome?_eq_some ok
  obtain ⟨d,hd,same⟩ := Option.map_eq_some_iff.mp found
  cases same
  exact kindOfRead hd

structure Reading where
  actions : List Action := []
  lost : List (Nat × Text) := []
  warnings : List Text := []
  isFallback : Bool := false
  deriving Repr

namespace Reading

def step (table : List Shape) (r : Reading) (number : Nat) (line : Text) : Except ActionError Reading :=
  if isSkippable line then .ok r
  else match firstTaker? table line with
    | none => .ok { r with
        lost := r.lost ++ [(number,line)]
        warnings := r.warnings ++ [Transcript.lostWarning (number,line)] }
    | some (shape,selector,value) =>
      (Action.make? (.whole (r.actions.length + 1)) shape.kind selector (Value.ofOption value) {}).map fun a =>
        { r with actions := r.actions ++ [a] }

def steps (table : List Shape) (r : Reading) (number : Nat) : List Text → Except ActionError Reading
  | [] => .ok r
  | line :: rest => (r.step table number line).bind fun r => r.steps table (number + 1) rest

def close (r : Reading) : Except ActionError Reading :=
  if r.actions.isEmpty then
    (Action.make? (.whole 1) .navigate none (.text []) {}).map fun a =>
      { r with actions := [a], warnings := r.warnings ++ [Transcript.fallbackWarning], isFallback := true }
  else .ok r

def ofText (table : List Shape) (recording : Option Text) : Except ActionError Reading :=
  (steps table {} 1 ((recording.getD []).lines.map Text.trim)).bind close

end Reading

/- Every line of a recording in its one place. The first number is the line's; the second
counts the actions before it. -/
inductive Accounted (table : List Shape) :
    Nat → Nat → List Text → List Action → List (Nat × Text) → Prop where
  | nil (number before) : Accounted table number before [] [] []
  | skipped {number before line rest actions lost}
      (skip : isSkippable line)
      (next : Accounted table (number + 1) before rest actions lost) :
      Accounted table number before (line :: rest) actions lost
  | action {number before line rest shape value a actions lost}
      (kept : ¬ isSkippable line)
      (takes : Takes table line shape (a.selector,value))
      (id : a.id = .whole (before + 1)) (kind : a.kind = shape.kind)
      (given : a.value = Value.ofOption value) (names : a.names = {})
      (next : Accounted table (number + 1) (before + 1) rest actions lost) :
      Accounted table number before (line :: rest) (a :: actions) lost
  | lost {number before line rest actions lost}
      (kept : ¬ isSkippable line) (refused : NoneTakes table line)
      (next : Accounted table (number + 1) before rest actions lost) :
      Accounted table number before (line :: rest) actions ((number,line) :: lost)

theorem madeOfParts {before : Nat} {kind : Kind} {selector : Option Text} {value : Value} {a : Action}
    (id : a.id = .whole (before + 1)) (same : a.kind = kind) (target : a.selector = selector)
    (given : a.value = value) (names : a.names = {}) :
    Action.make? (.whole (before + 1)) kind selector value {} = .ok a := by
  obtain ⟨i,k,s,v,n,counts,needed⟩ := a
  simp only at id same target given names
  subst id same target given names
  have needs : k ≠ .navigate → ∃ t ∈ s, t ≠ [] := by simpa using needed
  unfold Action.make?
  rw [dif_pos counts,dif_pos needs]

theorem accountedOutcome {table number lines actions lost} {r : Reading}
    (all : Accounted table number r.actions.length lines actions lost) :
    r.steps table number lines = .ok { r with
      actions := r.actions ++ actions
      lost := r.lost ++ lost
      warnings := r.warnings ++ lost.map Transcript.lostWarning } := by
  generalize count : r.actions.length = before at all
  induction all generalizing r with
  | nil => simp [Reading.steps]
  | skipped skip next ih =>
    simp only [Reading.steps,Reading.step,if_pos skip,Except.bind]
    exact ih count
  | @action number before line rest shape value a actions lost kept takes id kind given names next ih =>
    have made := madeOfParts id kind rfl given names
    simp only [Reading.steps,Reading.step,if_neg kept,firstTakerSome.mpr takes,count,made,Except.map,Except.bind]
    rw [ih (by simp [count])]
    simp
  | @lost number before line rest actions lost kept refused next ih =>
    simp only [Reading.steps,Reading.step,if_neg kept,firstTakerNone.mpr refused,Except.bind]
    rw [ih (by simp [count])]
    simp

theorem accountedUnique {table number before lines actions lost actions' lost'}
    (left : Accounted table number before lines actions lost)
    (right : Accounted table number before lines actions' lost') : actions = actions' ∧ lost = lost' := by
  induction left generalizing actions' lost' with
  | nil => cases right; exact ⟨rfl,rfl⟩
  | skipped skip next ih =>
    cases right with
    | skipped _ next' => exact ih next'
    | action kept => exact absurd skip kept
    | lost kept => exact absurd skip kept
  | action kept takes id kind given names next ih =>
    cases right with
    | skipped skip _ => exact absurd skip kept
    | lost _ refused _ => exact absurd refused (takesNotNone takes)
    | action _ takes' id' kind' given' names' next' =>
      obtain ⟨shapes,taken⟩ := takesUnique takes takes'
      obtain ⟨target,values⟩ := Prod.mk.inj taken
      subst shapes values
      have left := madeOfParts id kind target given names
      have right := madeOfParts id' kind' rfl given' names'
      obtain ⟨tail,losts⟩ := ih next'
      exact ⟨by rw [Except.ok.inj (left.symm.trans right),tail],losts⟩
  | lost kept refused next ih =>
    cases right with
    | skipped skip _ => exact absurd skip kept
    | action _ takes => exact absurd refused (takesNotNone takes)
    | lost _ _ next' =>
      obtain ⟨actions,losts⟩ := ih next'
      exact ⟨actions,by rw [losts]⟩

def rows (table : List Shape) (before : Nat) (lines : List Text) : List (Nat × Line) :=
  (lines.zipIdx before).map fun (line,i) => (i + 1,Line.ofTrimmed table line.trim)

theorem rowsCons (table : List Shape) (before : Nat) (line : Text) (rest : List Text) :
    rows table before (line :: rest) =
      (before + 1,Line.ofTrimmed table line.trim) :: rows table (before + 1) rest := by
  simp [rows]

theorem transcriptAccounted (table : List Shape) (before given : Nat) (lines : List Text) :
    Accounted table (before + 1) given (lines.map Text.trim)
      (Transcript.number given (Transcript.calls ⟨rows table before lines⟩))
      (Transcript.lost ⟨rows table before lines⟩) := by
  -- lines and actions are counted apart, so both counts go along
  induction lines generalizing before given with
  | nil => exact .nil _ _
  | cons line rest ih =>
    rw [rowsCons,List.map_cons]
    by_cases skip : isSkippable line.trim
    · have same : Line.ofTrimmed table line.trim = .skipped := by simp [Line.ofTrimmed,skip]
      rw [same]
      exact .skipped skip (ih (before + 1) given)
    · cases found : recognize? table line.trim with
      | none =>
        have same : Line.ofTrimmed table line.trim = .lost line.trim := by
          simp [Line.ofTrimmed,skip,found]
        have refused : NoneTakes table line.trim := firstTakerNone.mp (by rw [recognizedTaker,found]; rfl)
        rw [same]
        exact .lost skip refused (ih (before + 1) given)
      | some taken =>
        obtain ⟨shape,c⟩ := taken
        have same : Line.ofTrimmed table line.trim = .call shape c := by
          simp [Line.ofTrimmed,skip,found]
        have takes : Takes table line.trim shape (c.selector,c.value) :=
          firstTakerSome.mp (by rw [recognizedTaker,found]; rfl)
        have kind := kindOfRecognized found
        rw [same]
        cases c with
        | navigate url => exact .action skip takes rfl kind rfl rfl (ih (before + 1) (given + 1))
        | act k s v full => exact .action skip takes rfl kind rfl rfl (ih (before + 1) (given + 1))

def Transcript.reading (t : Transcript) : Reading :=
  { actions := t.actions, lost := t.lost, warnings := t.warnings, isFallback := t.isFallback }

def syntheticNavigation : Action where
  id := .whole 1
  kind := .navigate
  selector := none
  value := .text []
  id_counts := rfl
  selector_given := Action.selector_of_navigation

theorem numberEmpty {given : Nat} {calls : List Call} : Transcript.number given calls = [] ↔ calls = [] := by
  cases calls <;> simp [Transcript.number]

theorem fallbackIff (t : Transcript) : t.isFallback ↔ Transcript.number 0 t.calls = [] := by
  rw [numberEmpty]
  exact List.isEmpty_iff

theorem actionsOfTranscript (t : Transcript) :
    t.actions = if Transcript.number 0 t.calls = [] then [syntheticNavigation]
      else Transcript.number 0 t.calls := by
  simp only [Transcript.actions,fallbackIff]
  rfl

theorem warningsOfTranscript (t : Transcript) :
    t.warnings = t.lost.map Transcript.lostWarning ++
      if Transcript.number 0 t.calls = [] then [Transcript.fallbackWarning] else [] := by
  simp only [Transcript.warnings,fallbackIff]

theorem readingOfTranscript (table : List Shape) (recording : Option Text) :
    Reading.ofText table recording = .ok (Transcript.ofText table (recording.getD [])).reading := by
  have all := transcriptAccounted table 0 0 (recording.getD []).lines
  change Accounted table 1 0 _ (Transcript.number 0 (Transcript.ofText table (recording.getD [])).calls)
    (Transcript.ofText table (recording.getD [])).lost at all
  generalize Transcript.ofText table (recording.getD []) = t at all ⊢
  have actions := actionsOfTranscript t
  have warnings := warningsOfTranscript t
  have fallback := fallbackIff t
  unfold Reading.ofText
  rw [accountedOutcome (r := {}) all]
  simp only [Except.bind,Reading.close,List.nil_append,List.isEmpty_iff]
  by_cases empty : Transcript.number 0 t.calls = []
  · have made : Action.make? (.whole 1) .navigate none (.text []) {} = .ok syntheticNavigation :=
      madeOfParts rfl rfl rfl rfl rfl
    rw [if_pos empty] at actions warnings
    rw [if_pos empty,made]
    simp [Except.map,Transcript.reading,actions,warnings,fallback.mpr empty]
  · rw [if_neg empty] at actions warnings
    rw [if_neg empty]
    have called : t.isFallback = false := by simpa [← fallback] using empty
    simp [Transcript.reading,actions,warnings,called]

def Ignored (table : List Shape) (line : Text) : Prop := isSkippable line ∨ NoneTakes table line
instance (table line) : Decidable (Ignored table line) := by unfold Ignored; infer_instance

def callOf? (table : List Shape) (line : Text) : Option Call :=
  match Line.ofTrimmed table line.trim with
  | .call _ c => some c
  | _ => none

theorem callsOfRows (table : List Shape) (before : Nat) (lines : List Text) :
    Transcript.calls ⟨rows table before lines⟩ = lines.filterMap (callOf? table) := by
  induction lines generalizing before with
  | nil => rfl
  | cons line rest ih =>
    have tail := ih (before + 1)
    unfold Transcript.calls at tail ⊢
    rw [rowsCons,List.filterMap_cons,List.filterMap_cons,tail]
    unfold callOf?
    cases Line.ofTrimmed table line.trim <;> rfl

theorem callOfIgnored {table : List Shape} {line : Text} (ignored : Ignored table line.trim) :
    callOf? table line = none := by
  unfold callOf? Line.ofTrimmed
  by_cases skip : isSkippable line.trim
  · simp [skip]
  · have refused := firstTakerNone.mpr (ignored.resolve_left skip)
    rw [recognizedTaker,Option.map_eq_none_iff] at refused
    simp [skip,refused]

theorem callsAroundIgnored {table : List Shape} {start ignored finish : List Text}
    (none : ∀ line ∈ ignored, Ignored table line.trim) :
    Transcript.calls ⟨rows table 0 (start ++ ignored ++ finish)⟩ =
      Transcript.calls ⟨rows table 0 (start ++ finish)⟩ := by
  have dropped : ignored.filterMap (callOf? table) = [] :=
    List.filterMap_eq_nil_iff.mpr fun line member => callOfIgnored (none line member)
  simp only [callsOfRows,List.filterMap_append,dropped,List.append_nil]

theorem actionsOfCalls {s t : Transcript} (same : s.calls = t.calls) : s.actions = t.actions := by
  simp [Transcript.actions,Transcript.isFallback,same]

theorem accountedIds {table number before lines actions lost}
    (all : Accounted table number before lines actions lost) {k : Nat} {a : Action}
    (found : actions[k]? = some a) : a.id = .whole (before + k + 1) := by
  induction all generalizing k with
  | nil => simp at found
  | skipped skip next ih => exact ih found
  | lost kept refused next ih => exact ih found
  | action kept takes id kind given names next ih =>
    cases k with
    | zero => cases Option.some.inj found; exact id
    | succ k =>
      rw [ih (by simpa using found)]
      congr 1
      omega

theorem accountedCount {table number before lines actions lost}
    (all : Accounted table number before lines actions lost) :
    lines.countP isSkippable + actions.length + lost.length = lines.length := by
  induction all with
  | nil => rfl
  | skipped skip next ih => simp [skip]; omega
  | action kept takes id kind given names next ih => simp [kept]; omega
  | lost kept refused next ih => simp [kept]; omega

theorem everyLineAccounted (table : List Shape) (recording : Option Text) :
    ∃ (r : Reading) (recognized : List Action),
      Reading.ofText table recording = .ok r ∧
      (Transcript.ofText table (recording.getD [])).reading = r ∧
      Accounted table 1 0 ((recording.getD []).lines.map Text.trim) recognized r.lost ∧
      ((recording.getD []).lines.map Text.trim).countP isSkippable + recognized.length + r.lost.length =
        (recording.getD []).lines.length ∧
      (∀ (k : Nat) (a : Action), recognized[k]? = some a → a.id = .whole (k + 1)) ∧
      r.actions = (if recognized = [] then [syntheticNavigation] else recognized) ∧
      (r.isFallback ↔ recognized = []) ∧
      r.warnings = r.lost.map Transcript.lostWarning ++
        (if recognized = [] then [Transcript.fallbackWarning] else []) ∧
      ∀ start ignored finish other, (∀ line ∈ ignored, Ignored table line.trim) →
        (recording.getD []).lines = start ++ ignored ++ finish → Text.lines other = start ++ finish →
        (Transcript.ofText table other).actions = r.actions := by
  have all := transcriptAccounted table 0 0 (recording.getD []).lines
  have calls : ∀ t : Text, (Transcript.ofText table t).calls = Transcript.calls ⟨rows table 0 t.lines⟩ :=
    fun _ => rfl
  refine ⟨_,_,readingOfTranscript table recording,rfl,all,?_,?_,actionsOfTranscript _,fallbackIff _,
    warningsOfTranscript _,?_⟩
  · exact (accountedCount all).trans (List.length_map _)
  · intro k a found
    rw [accountedIds all found,Nat.zero_add]
  · intro start ignored finish other none here there
    apply actionsOfCalls
    rw [calls,calls,here,there,callsAroundIgnored none]

def noisySession : Text := "goto('/')\n  // form\nclick(b)\nfill('b', 'x')"

def quietSession : Text := "goto('/')\nfill('b', 'x')"

theorem noisySessionAccounted : ∃ (r : Reading) (recognized : List Action),
    Reading.ofText defaultShapes (some noisySession) = .ok r ∧
    Accounted defaultShapes 1 0 (noisySession.lines.map Text.trim) recognized r.lost ∧
    recognized.length = 2 ∧ r.actions = recognized ∧ r.lost = [(3,Text.ofString "click(b)")] ∧
    (Transcript.ofText defaultShapes quietSession).actions = r.actions := by
  obtain ⟨r,recognized,ok,same,all,count,_,actions,_,_,kept⟩ :=
    everyLineAccounted defaultShapes (some noisySession)
  have lost : r.lost = [(3,Text.ofString "click(b)")] := by
    rw [← same]
    decide +kernel
  have two : recognized.length = 2 := by
    have skipped : (noisySession.lines.map Text.trim).countP isSkippable = 1 := by decide +kernel
    have lines : noisySession.lines.length = 4 := by decide +kernel
    simp only [Option.getD_some,skipped,lines,lost,List.length_singleton] at count
    omega
  have called : recognized ≠ [] := by
    intro empty
    simp [empty] at two
  rw [if_neg called] at actions
  exact ⟨r,recognized,ok,all,two,actions,lost,
    kept ["goto('/')"] ["  // form","click(b)"] ["fill('b', 'x')"] quietSession
      (by decide +kernel) (by decide +kernel) (by decide +kernel)⟩

end TestWeaver.Recording
