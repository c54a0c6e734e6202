import TestWeaver.Proofs.Recording.Accounting
import TestWeaver.Proofs.Recording.Literals
import TestWeaver.Proofs.Text.Parts

/-! Lines that hold one flat call or one navigation. The name of the call tells the shape, and
the preferred reading of each literal is the text that was written, so the line is one action
with the recorded data, however its literals are spelled. -/
namespace TestWeaver.Recording

def waits : List Text := ["","await "]

def receivers : List Text := ["","page.","self.page."]

def stops : List Text := ["",";"]

def written (name inside : Text) : Text := name ++ "(" ++ inside ++ ")"

def Shape.openings : Shape → List Text
  | .navigation => ["navigate","goto"]
  | .chained a _ => a.spellings
  | .flat g => g.spellings

def callNames : List Text := defaultShapes.flatMap Shape.openings

section first
variable {α β : Type} {f : α → Option β} {xs : List α} {a : α} {b : β}

theorem foundOnly (member : a ∈ xs) (found : f a = some b) (only : ∀ d ∈ xs, f d = none ∨ f d = some b) :
    xs.findSome? f = some b := by
  cases first : xs.findSome? f with
  | none => simp [List.findSome?_eq_none_iff.mp first a member] at found
  | some e =>
    obtain ⟨d,inside,taken⟩ := List.exists_of_findSome?_eq_some first
    rcases only d inside with none | same
    · simp [none] at taken
    · exact taken.symm.trans same

theorem foundFirst (first : xs.head? = some a) (found : f a = some b) : xs.findSome? f = some b := by
  cases xs with
  | nil => simp at first
  | cons d rest =>
    cases Option.some.inj first
    simp [found]

theorem foundAmong {p : α → Bool} (none : ∀ d ∈ xs, p d = false → f d = none) :
    xs.findSome? f = (xs.filter p).findSome? f := by
  induction xs with
  | nil => rfl
  | cons d rest ih =>
    have tail := ih fun e member => none e (List.mem_cons_of_mem _ member)
    cases kept : p d with
    | true => simp [kept,List.findSome?_cons,tail]
    | false => simp [kept,none d List.mem_cons_self kept,tail]

end first

section opening
variable {name line wait receiver t : Text}

theorem callNameSigns (known : name ∈ callNames) :
    CodePoint.char '(' ∉ name ∧ ∃ c rest, name = c :: rest ∧ c.isBlank = false := by
  have table : ∀ n ∈ callNames, CodePoint.char '(' ∉ n ∧ n.head?.any fun c => !c.isBlank := by decide +kernel
  obtain ⟨plain,head⟩ := table name known
  cases name with
  | nil => simp at head
  | cons c rest => exact ⟨plain,c,rest,rfl,by simpa using head⟩

theorem afterPage (front : receiver ∈ receivers) (far : t.afterLead? "self.page." = none)
    (near : t.afterLead? "page." = none) :
    ((receiver ++ t).afterLead? "self.page." <|> (receiver ++ t).afterLead? "page.").getD (receiver ++ t) = t := by
  simp only [receivers,List.mem_cons,List.not_mem_nil,or_false] at front
  rcases front with rfl | rfl | rfl
  · have start : Text.ofString "" ++ t = t := rfl
    rw [start,far,near]
    rfl
  · have apart : Text.Apart "page." "self.page." := by decide
    rw [Text.apartNone apart,Text.afterLeadSelf]
    rfl
  · rw [Text.afterLeadSelf]
    rfl

theorem afterReceiverOf (front : wait ∈ waits) (next : receiver ∈ receivers) (known : name ∈ callNames) (t : Text) :
    afterReceiver (wait ++ (receiver ++ (name ++ t))) = name ++ t := by
  have apart : ∀ n ∈ callNames, Text.Apart n "self.page." ∧ Text.Apart n "page." := by decide +kernel
  have still : ∀ n ∈ callNames, ∀ r ∈ receivers, Text.Apart (r ++ n) "await" := by decide +kernel
  have far := Text.apartNone (apart name known).1 t
  have near := Text.apartNone (apart name known).2 t
  have behind := afterPage next far near
  have none := Text.apartNone (still name known receiver next) t
  rw [List.append_assoc] at none
  simp only [waits,List.mem_cons,List.not_mem_nil,or_false] at front
  rcases front with rfl | rfl
  · have start : Text.ofString "" ++ (receiver ++ (name ++ t)) = receiver ++ (name ++ t) := rfl
    rw [start,afterReceiver,none]
    exact behind
  · have start : Text.ofString "await " ++ (receiver ++ (name ++ t)) =
        Text.ofString "await" ++ .char ' ' :: (receiver ++ (name ++ t)) := rfl
    have dark : ∀ n ∈ callNames, ∀ r ∈ receivers, (r ++ n).head?.any fun c => !c.isBlank := by decide +kernel
    have kept : Text.dropBlank (receiver ++ (name ++ t)) = receiver ++ (name ++ t) := by
      have head := dark name known receiver next
      rw [← List.append_assoc]
      cases whole : receiver ++ name with
      | nil => simp [whole] at head
      | cons c rest => exact Text.dropBlankSelf (by simpa [whole] using head) _
    rw [start,afterReceiver,Text.afterLeadSelf]
    simp only [show (CodePoint.char ' ').isBlank = true from rfl,if_true,kept]
    exact behind

theorem afterCallNamed {names : List Text} (plain : ∀ n ∈ name :: names, CodePoint.char '(' ∉ n) (rest : Text) :
    afterCall? names (name ++ ("(" ++ rest)) = if name ∈ names then some rest else none := by
  have same : ∀ n ∈ names, (name ++ ("(" ++ rest)).afterLead? (n ++ "(") = if n = name then some rest else none := by
    intro n member
    split
    · rename_i same
      rw [same,← List.append_assoc,Text.afterLeadSelf]
    · rename_i other
      cases found : (name ++ ("(" ++ rest)).afterLead? (n ++ "(") with
      | none => rfl
      | some u =>
        have parted : name ++ .char '(' :: rest = n ++ .char '(' :: u := by
          simpa [Text.ofString] using Text.afterLeadSome.mp found
        have unique := Text.firstPartUnique (plain name List.mem_cons_self)
          (plain n (List.mem_cons_of_mem _ member)) parted
        exact absurd unique.1.symm other
  unfold afterCall?
  split
  · rename_i known
    refine foundOnly known (by rw [same name known,if_pos rfl]) ?_
    intro n member
    rw [same n member]
    split
    · exact .inr rfl
    · exact .inl rfl
  · rename_i unknown
    rw [List.findSome?_eq_none_iff]
    intro n member
    rw [same n member,if_neg]
    rintro rfl
    exact unknown member

theorem capturesOther {shape : Shape} (other : afterCall? shape.openings (afterReceiver line) = none) :
    shape.captures? line = none := by
  unfold Shape.captures?
  cases shape with
  | navigation => simp only [Shape.openings] at other; simp [other]
  | flat g => simp only [Shape.openings] at other; simp [other]
  | chained a g => cases a <;> simp only [Shape.openings] at other <;> simp [other]

theorem openingKnown {shape : Shape} (listed : shape ∈ defaultShapes) (named : name ∈ shape.openings) :
    name ∈ callNames := List.mem_flatMap.mpr ⟨shape,listed,named⟩

theorem afterOpening {shape : Shape} (listed : shape ∈ defaultShapes) (known : name ∈ callNames) (t : Text) :
    afterCall? shape.openings (name ++ ("(" ++ t)) = if name ∈ shape.openings then some t else none := by
  apply afterCallNamed
  intro n member
  rcases List.mem_cons.mp member with rfl | inside
  · exact (callNameSigns known).1
  · exact (callNameSigns (openingKnown listed inside)).1

theorem recognizedAmong (known : name ∈ callNames) (opens : afterReceiver line = name ++ ("(" ++ t)) :
    recognize? defaultShapes line = (defaultShapes.filter fun shape => name ∈ shape.openings).findSome?
      fun shape => (shape.read? line).map fun c => (shape,c) := by
  apply foundAmong
  intro shape listed other
  have none : afterCall? shape.openings (afterReceiver line) = none := by
    rw [opens,afterOpening listed known,if_neg (by simpa using other)]
  rw [Shape.read?,capturesOther none]
  rfl

end opening

section arguments
variable {quote : CodePoint} {s : List Char} {w t stop pad : Text}

theorem dropBlankPad (blank : ∀ c ∈ pad, c.isBlank) (t : Text) : Text.dropBlank (pad ++ t) = Text.dropBlank t :=
  List.dropWhile_append_of_pos blank

theorem quoteDark (mark : isQuote quote) : quote.isBlank = false := by
  rcases quoteCases mark with rfl | rfl | rfl <;> rfl

theorem argumentFirst (mark : isQuote quote) (spelled : Spelled quote s w) (t : Text) :
    (literalArguments (enclosed quote w ++ t)).head? = some (w,t) := by
  rw [literalArguments,enclosed,List.cons_append,Text.dropBlankSelf (quoteDark mark)]
  exact literalFirst mark spelled

theorem argumentsClosed (t : Text) : afterArguments (")" ++ t) = [t] := rfl

theorem endsAt (ends : stop ∈ stops) : (afterArguments (")" ++ stop)).any isStatementEnd := by
  have table : ∀ u ∈ stops, isStatementEnd u := by decide
  simp [argumentsClosed,table stop ends]

end arguments

section flat
variable {quote mark : CodePoint} {s : List Char} {w t v name line stop pad : Text}

theorem navigationCaptures (call : afterCall? Shape.navigation.openings (afterReceiver line) =
    some (enclosed quote w ++ (")" ++ stop))) (ends : stop ∈ stops) (given : isQuote quote)
    (spelled : Spelled quote s w) : Shape.navigation.captures? line = some (w,none) := by
  have names : Shape.navigation.openings = (["navigate","goto"] : List Text) := rfl
  rw [names] at call
  simp only [Shape.captures?,call,Option.bind_some]
  exact foundFirst (argumentFirst given spelled _) (by simp [endsAt ends])

theorem elementCaptures {g : Gesture} (call : afterCall? (Shape.flat g).openings (afterReceiver line) =
    some (enclosed quote w ++ (")" ++ stop))) (bare : g.takesValue = false) (ends : stop ∈ stops)
    (given : isQuote quote) (spelled : Spelled quote s w) : (Shape.flat g).captures? line = some (w,none) := by
  have names : (Shape.flat g).openings = g.spellings := rfl
  rw [names] at call
  simp only [Shape.captures?,call,Option.bind_some,bare]
  exact foundFirst (argumentFirst given spelled _) (by simp [endsAt ends])

theorem valuedCaptures {g : Gesture} {u : List Char} (call : afterCall? (Shape.flat g).openings (afterReceiver line) =
    some (enclosed quote w ++ (Text.ofString "," ++ (pad ++ (enclosed mark v ++ (")" ++ stop)))))) (valued : g.takesValue)
    (blank : ∀ c ∈ pad, c.isBlank) (ends : stop ∈ stops) (given : isQuote quote) (spelled : Spelled quote s w)
    (valueGiven : isQuote mark) (valueSpelled : Spelled mark u v) :
    (Shape.flat g).captures? line = some (w,some v) := by
  have names : (Shape.flat g).openings = g.spellings := rfl
  rw [names] at call
  have comma : Text.dropBlank (Text.ofString "," ++ (pad ++ (enclosed mark v ++ (")" ++ stop)))) =
      .char ',' :: (pad ++ (enclosed mark v ++ (Text.ofString ")" ++ stop))) := rfl
  have second : (literalArguments (pad ++ (enclosed mark v ++ (")" ++ stop)))).head? =
      some (v,Text.ofString ")" ++ stop) := by
    rw [literalArguments,dropBlankPad blank]
    exact argumentFirst valueGiven valueSpelled _
  simp only [Shape.captures?,call,Option.bind_some,valued]
  refine foundFirst (argumentFirst given spelled _) ?_
  simp only [comma,if_true]
  exact foundFirst second (by simp [endsAt ends])

end flat

/- A flat call or a navigation as it was written, with what it records: the kind, the selector
without blanks around it, and the value. -/
inductive FlatCall : Text → Kind → Option Text → Value → Prop where
  | navigation {name quote s w} : name ∈ Shape.navigation.openings → isQuote quote → Spelled quote s w →
      FlatCall (written name (enclosed quote w)) .navigate none (.text (s.map .char))
  | element {name quote s w} (g : Gesture) : g.takesValue = false → name ∈ g.spellings → isQuote quote →
      Spelled quote s w → Text.trim (s.map .char) ≠ [] →
      FlatCall (written name (enclosed quote w)) g.kind (some (Text.trim (s.map .char))) .null
  | valued {name quote s w pad mark u v} (g : Gesture) : g.takesValue → name ∈ g.spellings → isQuote quote →
      Spelled quote s w → (∀ c ∈ pad, c.isBlank) → isQuote mark → Spelled mark u v →
      Text.trim (s.map .char) ≠ [] →
      FlatCall (written name (enclosed quote w ++ "," ++ pad ++ enclosed mark v)) g.kind
        (some (Text.trim (s.map .char))) (.text (u.map .char))

def ReadsAs (recording : Text) (kind : Kind) (selector : Option Text) (value : Value) : Prop :=
  ∃ a : Action, (Transcript.ofText defaultShapes recording).reading = { actions := [a] } ∧
    a.id = .whole 1 ∧ a.kind = kind ∧ a.selector = selector ∧ a.value = value

section one
variable {line : Text} {shape : Shape} {c : Call}

theorem readingOfOne (full : line ≠ []) (unbroken : ∀ c ∈ line, c.isBreak = false) (trimmed : line.trim = line)
    (kept : isSkippable line = false) (found : recognize? defaultShapes line = some (shape,c)) :
    (Transcript.ofText defaultShapes line).reading = { actions := [.ofCall 0 c] } := by
  have rows : Transcript.ofText defaultShapes line = ⟨[(1,.call shape c)]⟩ := by
    simp [Transcript.ofText,Text.linesSingle full unbroken,trimmed,Line.ofTrimmed,kept,found]
  rw [rows]
  rfl

theorem readsAsCall (read : (Transcript.ofText defaultShapes line).reading = { actions := [.ofCall 0 c] }) :
    ReadsAs line c.kind c.selector (Value.ofOption c.value) := by
  refine ⟨_,read,?_⟩
  cases c <;> exact ⟨rfl,rfl,rfl,rfl⟩

end one

section recognized
variable {wait receiver call stop : Text} {kind : Kind} {selector : Option Text} {value : Value}

theorem flatListed (g : Gesture) : Shape.flat g ∈ defaultShapes := by cases g <;> decide

theorem flatShapes : (∀ n ∈ Shape.navigation.openings, (defaultShapes.filter fun s => n ∈ s.openings) = [.navigation]) ∧
    ∀ g : Gesture, ∀ n ∈ g.spellings, (defaultShapes.filter fun s => n ∈ s.openings) = [.flat g] := by
  constructor
  · decide +kernel
  · intro g
    cases g <;> decide +kernel

theorem recognizedAlone {shape : Shape} {name t : Text} {c : Call} (listed : shape ∈ defaultShapes)
    (named : name ∈ shape.openings) (alone : (defaultShapes.filter fun s => name ∈ s.openings) = [shape])
    (front : wait ∈ waits) (next : receiver ∈ receivers)
    (read : ∀ line, afterCall? shape.openings (afterReceiver line) = some t → shape.read? line = some c) :
    recognize? defaultShapes (wait ++ (receiver ++ (name ++ ("(" ++ t)))) = some (shape,c) := by
  have known := openingKnown listed named
  have opens := afterReceiverOf front next known ("(" ++ t)
  have called := afterOpening listed known t
  rw [if_pos named,← opens] at called
  rw [recognizedAmong known opens,alone]
  simp [read _ called]

theorem recognizedFlat (flat : FlatCall call kind selector value) (front : wait ∈ waits) (next : receiver ∈ receivers)
    (ends : stop ∈ stops) : ∃ shape c, recognize? defaultShapes (wait ++ (receiver ++ (call ++ stop))) = some (shape,c) ∧
      c.kind = kind ∧ c.selector = selector ∧ Value.ofOption c.value = value := by
  cases flat with
  | @navigation name quote s w named given spelled =>
    refine ⟨.navigation,.navigate (s.map .char),?_,rfl,rfl,rfl⟩
    simp only [written,List.append_assoc]
    refine recognizedAlone (by decide) named (flatShapes.1 name named) front next fun line called => ?_
    simp [Shape.read?,navigationCaptures called ends given spelled,unescapeSpelled spelled]
  | @element name quote s w g bare named given spelled full =>
    refine ⟨.flat g,.act g.kind (Text.trim (s.map .char)) none full,?_,rfl,rfl,rfl⟩
    simp only [written,List.append_assoc]
    refine recognizedAlone (flatListed g) named (flatShapes.2 g name named) front next fun line called => ?_
    simp [Shape.read?,elementCaptures called bare ends given spelled,unescapeSpelled spelled,actOfGiven full]
  | @valued name quote s w pad mark u v g valued named given spelled blank valueGiven valueSpelled full =>
    refine ⟨.flat g,.act g.kind (Text.trim (s.map .char)) (some (u.map .char)) full,?_,rfl,rfl,rfl⟩
    simp only [written,List.append_assoc]
    refine recognizedAlone (flatListed g) named (flatShapes.2 g name named) front next fun line called => ?_
    have captured := valuedCaptures called valued blank ends given spelled valueGiven valueSpelled
    simp [Shape.read?,captured,unescapeSpelled spelled,unescapeSpelled valueSpelled,actOfGiven full]

theorem flatWritten (flat : FlatCall call kind selector value) :
    ∃ name ∈ callNames, ∃ inside, call = written name inside := by
  cases flat with
  | navigation named _ _ => exact ⟨_,@openingKnown _ .navigation (by decide) named,_,rfl⟩
  | element g _ named _ _ _ => exact ⟨_,openingKnown (flatListed g) named,_,rfl⟩
  | valued g _ named _ _ _ _ _ _ => exact ⟨_,openingKnown (flatListed g) named,_,rfl⟩

structure Opening (start : Text) : Prop where
  dark : start.head?.any fun c => !c.isBlank
  unbroken : ∀ c ∈ start, c.isBreak = false
  kept : ∀ lead ∈ skippedLeads, Text.Apart start lead

theorem openingOf {name : Text} (front : wait ∈ waits) (next : receiver ∈ receivers) (known : name ∈ callNames) :
    Opening (wait ++ (receiver ++ name)) := by
  have table : ∀ v ∈ waits, ∀ r ∈ receivers, ∀ n ∈ callNames, ((v ++ (r ++ n)).head?.any fun c => !c.isBlank) ∧
      (∀ c ∈ v ++ (r ++ n), c.isBreak = false) ∧ ∀ lead ∈ skippedLeads, Text.Apart (v ++ (r ++ n)) lead := by
    decide +kernel
  obtain ⟨dark,unbroken,kept⟩ := table wait front receiver next name known
  exact ⟨dark,unbroken,kept⟩

theorem keptLine {start inside : Text} (opening : Opening start) (ends : stop ∈ stops)
    (unbroken : ∀ c ∈ inside, c.isBreak = false) :
    let line := start ++ (inside ++ (")" ++ stop))
    line ≠ [] ∧ (∀ c ∈ line, c.isBreak = false) ∧ line.trim = line ∧ isSkippable line = false := by
  obtain ⟨c,rest,rfl⟩ : ∃ c rest, start = c :: rest := by
    cases start with
    | nil => simpa using opening.dark
    | cons c rest => exact ⟨c,rest,rfl⟩
  have closing : ∀ u ∈ stops, (∀ c ∈ Text.ofString ")" ++ u, c.isBreak = false) ∧
      ∃ d, (Text.ofString ")" ++ u).getLast? = some d ∧ d.isBlank = false := by
    intro u member
    simp only [stops,List.mem_cons,List.not_mem_nil,or_false] at member
    rcases member with rfl | rfl
    · exact ⟨by decide,.char ')',rfl,rfl⟩
    · exact ⟨by decide,.char ';',rfl,rfl⟩
  obtain ⟨endUnbroken,d,last,lastDark⟩ := closing stop ends
  refine ⟨by simp,?_,?_,?_⟩
  · intro d member
    rcases List.mem_append.mp member with front | back
    · exact opening.unbroken d front
    · rcases List.mem_append.mp back with between | close
      · exact unbroken d between
      · exact endUnbroken d close
  · apply Text.trimSelf
    · intro e first
      cases Option.some.inj first
      simpa using opening.dark
    · intro e final
      rw [← List.append_assoc,List.getLast?_append,last,Option.some_or] at final
      cases Option.some.inj final
      exact lastDark
  · have none : ∀ lead ∈ skippedLeads, ¬ (Text.startsWith ((c :: rest) ++ (inside ++ (")" ++ stop))) lead) := by
      intro lead member
      rw [Text.startsWithApart (opening.kept lead member)]
      simp
    rw [isSkippable,List.any_eq_false.mpr none]
    rfl

end recognized

theorem flatLinesRead {wait receiver call stop : Text} {kind : Kind} {selector : Option Text} {value : Value}
    (front : wait ∈ waits) (next : receiver ∈ receivers) (flat : FlatCall call kind selector value)
    (ends : stop ∈ stops) (unbroken : ∀ c ∈ call, c.isBreak = false) :
    ReadsAs (wait ++ receiver ++ call ++ stop) kind selector value := by
  obtain ⟨shape,c,found,rfl,rfl,rfl⟩ := recognizedFlat flat front next ends
  obtain ⟨name,known,inside,rfl⟩ := flatWritten flat
  have held : ∀ c ∈ Text.ofString "(" ++ inside, c.isBreak = false := by
    intro c member
    apply unbroken c
    rcases List.mem_append.mp member with mark | inside
    · simp [written,mark]
    · simp [written,inside]
  have line : wait ++ (receiver ++ (written name inside ++ stop)) =
      wait ++ (receiver ++ name) ++ ((Text.ofString "(" ++ inside) ++ (")" ++ stop)) := by simp [written]
  rw [line] at found
  have spaced : wait ++ receiver ++ written name inside ++ stop =
      wait ++ (receiver ++ name) ++ ((Text.ofString "(" ++ inside) ++ (")" ++ stop)) := by simp [written]
  rw [spaced]
  obtain ⟨full,whole,trimmed,kept⟩ := keptLine (openingOf front next known) ends held
  exact readsAsCall (readingOfOne full whole trimmed kept found)

def faceCall : Text := "fill('\\u\x7b1F600\x7d\\'\\x41', \"\\uD83D\\uDE00\\n\")"

theorem faceFilled : FlatCall faceCall .fill (some "😀'A") (.text "😀\n") ∧
    ReadsAs ("await " ++ "self.page." ++ faceCall ++ ";") .fill (some "😀'A") (.text "😀\n") := by
  have selector : Spelled (.char '\'') ['😀','\'','A']
      (Text.ofString "\\u\x7b1F600\x7d" ++ (Text.ofString "\\'" ++ (Text.ofString "\\x41" ++ []))) :=
    .cons (@Spells.braced _ _ "1F600" (by decide) (by decide) ⟨by decide,by decide⟩)
      (.cons (.guarded (by decide) (by decide)) (.cons (@Spells.byte _ _ "41" (by decide) ⟨by decide,by decide⟩) .nil))
  have value : Spelled (.char '"') ['😀','\n'] (Text.ofString "\\uD83D\\uDE00" ++ (Text.ofString "\\n" ++ [])) :=
    .cons (@Spells.halves _ _ "D83D" "DE00" 0x3D 0x200 rfl rfl (by decide) (by decide) ⟨by decide,by decide⟩
      ⟨by decide,by decide⟩ (by decide)) (.cons (.control (by decide)) .nil)
  have call : FlatCall faceCall .fill (some "😀'A") (.text "😀\n") :=
    @FlatCall.valued "fill" _ _ _ " " _ _ _ .fill rfl (by decide) rfl selector (by decide) rfl value (by decide)
  exact ⟨call,flatLinesRead (by decide) (by decide) call (by decide) (by decide +kernel)⟩

theorem longBraceKept : Numeral "0000041" 'A'.toNat ∧
    ¬ ReadsAs (written "click" (enclosed (.char '"') ("\\u\x7b" ++ "0000041" ++ "\x7d"))) .click (some "A") .null := by
  refine ⟨⟨by decide,by decide⟩,?_⟩
  rintro ⟨a,read,_,_,selector,_⟩
  have kept : ((Transcript.ofText defaultShapes
      (written "click" (enclosed (.char '"') ("\\u\x7b" ++ "0000041" ++ "\x7d")))).reading.actions.map (·.selector))
        = [some (Text.ofString "u\x7b0000041\x7d")] := by decide +kernel
  rw [read] at kept
  simp only [List.map_cons,List.map_nil,selector] at kept
  exact absurd kept (by decide)

end TestWeaver.Recording
