import TestWeaver.Proofs.Recording.Chains
import TestWeaver.Proofs.Recording.Roles

/-! Lines that hold an accessor and a gesture, read by the entry of the two. The literal has other
readings only where a mark of its own kind stands in it or a backslash ends it, and another entry
needs a gesture call that begins behind such a mark; a role lets any text stand before the call. -/
namespace TestWeaver.Recording

def escapedSign (quote : CodePoint) (c : Char) : Text :=
  if c = '\\' ∨ .char c = quote then [.char '\\',.char c] else [.char c]

def escaped (quote : CodePoint) (s : List Char) : Text := s.flatMap (escapedSign quote)

theorem escapedSpelled {quote : CodePoint} {s : List Char} (mark : isQuote quote) (feed : '\n' ∉ s) :
    Spelled quote s (escaped quote s) := by
  induction s with
  | nil => exact .nil
  | cons c s ih =>
    rw [List.mem_cons,not_or] at feed
    have other : c ≠ '\n' := Ne.symm feed.1
    refine .cons ?_ (ih feed.2)
    unfold escapedSign
    split
    · rename_i guarded
      refine .guarded ?_ other
      rcases guarded with rfl | same
      · decide
      · intro letter
        have others : ∀ d ∈ escapeLetters, isQuote (.char d) = false := by simp [escapeLetters,isQuote]
        exact notQuote mark (others c letter) same.symm
    · rename_i free
      rw [not_or] at free
      exact .raw free.1 free.2 other

inductive Target (quote : CodePoint) (s : List Char) (w : Text) : Accessor → Text → Text → Prop where
  | locator : Text.trim (s.map .char) ≠ [] →
      Target quote s w .locator (enclosed quote w) (Text.trim (s.map .char))
  | shown {a} : a ≠ .locator → a ≠ .role → Text.isBlank (s.map .char) = false →
      Target quote s w a (enclosed quote w) (a.tag ++ s.map .char)
  | role {mark} {word : Text} : mark = .char '"' ∨ mark = .char '\'' → word ≠ [] → (∀ c ∈ word, c.isWord) →
      ¬ NamesConstant w → Target quote s w .role (roleList mark word quote w) (namedRole word (s.map .char))

inductive Argument : Gesture → Text → Option Text → Prop where
  | bare {g} : g.takesValue = false → Argument g [] none
  | valued {g quote s w} : g.takesValue → isQuote quote → Spelled quote s w →
      Argument g (enclosed quote w) (some (s.map .char))

/- No gesture call that the table could chain to the accessor begins where it is looked for. A role
lets any text stand behind its own; any other accessor reads on only behind a mark of the literal's
own kind, in the literal or, where a backslash ends that, in the value. -/
structure Quiet (a : Accessor) (g : Gesture) (quote : CodePoint) (w arg : Text) : Prop where
  role : a = .role → ∀ h, .chained a h ∈ defaultShapes →
    ¬ Chains h arg ∧ (h ≠ g → h.takesValue → ¬ Chains h (w ++ [quote]))
  shown : a ≠ .role → ∀ h ≠ g, .chained a h ∈ defaultShapes → ∀ x y, GoesOn y →
    (w = x ++ quote :: y → ¬ Chains h arg ∧ (h.takesValue → ¬ Chains h (y ++ [quote]))) ∧
    (w.getLast? = some (.char '\\') → arg = x ++ quote :: y → ¬ Chains h y)

def chainedCall (name args gesture arg : Text) : Text := written name args ++ "." ++ written gesture arg

theorem roleSplit {args : Text} (body u : Text) (feed : CodePoint.char '\n' ∉ args) :
    ∃ nearer, roleArguments.go body (args ++ .char ')' :: u) =
      nearer ++ (body.reverse ++ args,u) :: roleArguments.go (.char ')' :: (args.reverse ++ body)) u := by
  induction args generalizing body with
  | nil => exact ⟨[],by simp [roleArguments.go]⟩
  | cons c args ih =>
    rw [List.mem_cons,not_or] at feed
    obtain ⟨nearer,split⟩ := ih (c :: body) feed.2
    rw [List.cons_append,roleArguments.go,if_neg (Ne.symm feed.1)]
    split
    · exact ⟨(body.reverse,args ++ .char ')' :: u) :: nearer,by rw [split]; simp⟩
    · exact ⟨nearer,by rw [split]; simp⟩

theorem roleNearest {β : Type} {args u : Text} {f : Text × Text → Option β} {b : β} (feed : CodePoint.char '\n' ∉ args)
    (here : f (args,u) = some b) (farther : ∀ given part rest, u = part ++ .char ')' :: rest → f (given,rest) = none) :
    (roleArguments (args ++ .char ')' :: u)).findSome? f = some b := by
  obtain ⟨nearer,split⟩ := roleSplit [] u feed
  have skipped : (roleArguments.go (.char ')' :: (args.reverse ++ [])) u).reverse.findSome? f = none := by
    rw [List.findSome?_eq_none_iff]
    rintro ⟨given,rest⟩ stands
    obtain ⟨part,_,_,same⟩ := roleRest (List.mem_reverse.mp stands)
    exact farther given part rest same
  rw [roleArguments,split,List.reverse_append,List.reverse_cons,List.findSome?_append,List.findSome?_append,skipped]
  simp [here]

section tail
variable {g h : Gesture} {gesture arg stop : Text} {value : Option Text}

theorem afterGesture (called : gesture ∈ g.spellings) (t : Text) :
    afterCall? h.spellings (gesture ++ .char '(' :: t) = if gesture ∈ h.spellings then some t else none := by
  apply afterCallNamed
  intro n member
  rcases List.mem_cons.mp member with rfl | listed
  · exact (gestureSigns called).1
  · exact (gestureSigns listed).1

theorem tailStart : Text.dropBlank (gestureTail gesture arg stop) = gestureTail gesture arg stop :=
  Text.dropBlankSelf (by decide) _

theorem gestureOther (called : gesture ∈ g.spellings) (other : h ≠ g) :
    gestureToEnd? h (gestureTail gesture arg stop) = none := by
  have unnamed : gesture ∉ h.spellings := fun listed => other (gestureOfName called listed)
  rw [gestureToEnd?,tailStart,gestureTail]
  simp only [afterGesture called,if_neg unnamed,Option.bind_none]

theorem gestureReads (called : gesture ∈ g.spellings) (ends : stop ∈ stops) (argument : Argument g arg value) :
    ∃ v, gestureToEnd? g (gestureTail gesture arg stop) = some v ∧ v.map unescape = value := by
  have closed : isStatementEnd stop := by
    have table : ∀ u ∈ stops, isStatementEnd u := by decide
    exact table stop ends
  rw [gestureToEnd?,tailStart,gestureTail]
  simp only [afterGesture called,if_pos called,Option.bind_some]
  cases argument with
  | bare bare => exact ⟨none,by simp [bare,closed],rfl⟩
  | @valued quote s w valued mark spelled =>
    refine ⟨some w,?_,by rw [Option.map_some,unescapeSpelled spelled]⟩
    rw [if_pos valued]
    exact foundFirst (argumentFirst mark spelled _) (if_pos (endsAt ends))

end tail

section captures
variable {g h : Gesture} {a : Accessor} {name gesture args arg selector stop w line t : Text} {quote : CodePoint}
  {s : List Char} {value : Option Text}

theorem capturesLiteral (plain : a ≠ .role) (opens : afterCall? a.spellings (afterReceiver line) = some t) :
    (Shape.chained a h).captures? line = (literalArguments t).findSome? fun (given,rest) =>
      (afterArguments rest).findSome? fun rest => (gestureToEnd? h rest).map fun value => (given,value) := by
  cases a <;> first | exact absurd rfl plain | simp only [Shape.captures?,opens,Option.bind_some]

theorem capturesRole (opens : afterCall? Accessor.role.spellings (afterReceiver line) = some t) :
    (Shape.chained .role h).captures? line = (roleArguments t).findSome? fun (args,rest) =>
      (gestureToEnd? h rest).map fun value => (args,value) := by
  simp only [Shape.captures?,opens,Option.bind_some]

/- The readings of a literal: its own, one that a mark in it ends before, and one that goes on
past its own mark, if a backslash stands before that. -/
theorem literalPlaces {given rest : Text} (mark : isQuote quote)
    (read : (given,rest) ∈ literalArguments (enclosed quote w ++ t)) :
    rest = t ∨ (∃ x y, w = x ++ quote :: y ∧ rest = y ++ quote :: t) ∨
      w.getLast? = some (.char '\\') ∧ ∃ x, t = x ++ quote :: rest := by
  obtain ⟨pad,c,blank,_,guarded,same⟩ := literalRead read
  cases pad with
  | cons d pad =>
    have dark := quoteDark mark
    rw [(List.cons.inj same).1,blank d List.mem_cons_self] at dark
    contradiction
  | nil =>
    obtain ⟨rfl,inner⟩ := List.cons.inj same
    have parted : w ++ quote :: t = given ++ quote :: rest := by simpa using inner
    rcases List.append_eq_append_iff.mp parted with ⟨z,rfl,behind⟩ | ⟨z,rfl,behind⟩
    · cases z with
      | nil => exact .inl (List.cons.inj behind).2.symm
      | cons d z =>
        obtain ⟨rfl,tails⟩ := List.cons.inj behind
        exact .inr (.inr ⟨guarded.guard w z rfl,z,tails⟩)
    · cases z with
      | nil => exact .inl (List.cons.inj behind).2
      | cons d z =>
        obtain ⟨rfl,tails⟩ := List.cons.inj behind
        exact .inr (.inl ⟨given,z,rfl,tails⟩)

theorem argumentsGoOn {c : CodePoint} {y rest : Text} (dark : c.isBlank = false) (other : c ≠ .char ',')
    (read : rest ∈ afterArguments (y ++ c :: t)) : GoesOn y ∨ c = .char ')' ∧ rest = t := by
  unfold afterArguments at read
  split at read
  · rename_i behind same
    cases y with
    | nil => exact .inr ⟨(List.cons.inj same).1,by rw [List.mem_singleton.mp read,(List.cons.inj same).2]⟩
    | cons d y => exact .inl (.inl (by rw [(List.cons.inj same).1]; rfl))
  · split at read
    · rename_i behind comma
      have first := firstDark dark y t
      rw [comma] at first
      cases found : (Text.dropBlank y).head? with
      | none =>
        rw [found] at first
        exact absurd (Option.some.inj first).symm other
      | some d =>
        rw [found] at first
        exact .inl (.inr (found.trans first.symm))
    · simp at read

theorem spelledOneLine (mark : isQuote quote) (spelled : Spelled quote s w) : CodePoint.char '\n' ∉ w := by
  induction spelled with
  | nil => simp
  | @cons c s w v here _ ih =>
    rw [List.mem_append,not_or]
    refine ⟨?_,ih⟩
    have feed := notQuote mark (d := .char '\n') rfl
    rcases spellsShape mark here with ⟨tidy,_⟩ | rfl | rfl
    · exact tidy.oneLine
    · decide
    · simp [Ne.symm feed]

end captures

structure TakenBy (line : Text) (shape : Shape) (kind : Kind) (selector value : Option Text) : Prop where
  read : ∃ c, recognize? defaultShapes line = some (shape,c) ∧ c.kind = kind ∧ c.selector = selector ∧ c.value = value
  only : ∀ other ∈ defaultShapes, other ≠ shape → other.read? line = none

section chained
variable {g h : Gesture} {a : Accessor} {wait receiver name gesture args arg selector stop w : Text} {quote : CodePoint}
  {s : List Char} {value : Option Text} {line : Text}

theorem ownCaptures (opens : afterCall? a.spellings (afterReceiver line) = some (args ++ .char ')' :: gestureTail gesture arg stop))
    (called : gesture ∈ g.spellings) (ends : stop ∈ stops) (given : isQuote quote) (spelled : Spelled quote s w)
    (target : Target quote s w a args selector) (argument : Argument g arg value) (calm : a = .role → ¬ Chains g arg) :
    ∃ v, (Shape.chained a g).captures? line = some (if a = .role then args else w,v) ∧ v.map unescape = value := by
  obtain ⟨v,read,decoded⟩ := gestureReads called ends argument
  refine ⟨v,?_,decoded⟩
  have literal : a ≠ .role → args = enclosed quote w →
      (Shape.chained a g).captures? line = some (if a = .role then args else w,v) := by
    intro plain same
    rw [same] at opens
    rw [capturesLiteral plain opens,if_neg plain]
    refine foundFirst (argumentFirst given spelled _) ?_
    have closed : afterArguments (.char ')' :: gestureTail gesture arg stop) = [gestureTail gesture arg stop] := rfl
    simp [closed,read]
  cases target with
  | locator _ => exact literal (by decide) rfl
  | shown _ plain _ => exact literal plain rfl
  | @role mark word marked _ signs _ =>
    rw [capturesRole opens,if_pos rfl]
    have isMark : isQuote mark := by rcases marked with rfl | rfl <;> rfl
    have feed : CodePoint.char '\n' ∉ roleList mark word quote w := by
      have inWord : CodePoint.char '\n' ∉ word := fun inside => absurd (signs _ inside) (by decide +kernel)
      have inName := spelledOneLine given spelled
      have markFeed := notQuote isMark (d := .char '\n') rfl
      have quoteFeed := notQuote given (d := .char '\n') rfl
      simp [roleList,enclosed,Text.ofString,inWord,inName,Ne.symm markFeed,Ne.symm quoteFeed]
    refine roleNearest feed (by simp [read]) fun b part rest same => ?_
    cases unread : gestureToEnd? g rest with
    | none => simp [unread]
    | some value =>
      exact absurd (chainsValue called ends same unread) (calm rfl)

theorem ownRead (opens : afterCall? a.spellings (afterReceiver line) = some (args ++ .char ')' :: gestureTail gesture arg stop))
    (called : gesture ∈ g.spellings) (ends : stop ∈ stops) (given : isQuote quote) (spelled : Spelled quote s w)
    (target : Target quote s w a args selector) (argument : Argument g arg value) (calm : a = .role → ¬ Chains g arg) :
    ∃ c, (Shape.chained a g).read? line = some c ∧ c.kind = g.kind ∧ c.selector = some selector ∧ c.value = value := by
  obtain ⟨v,captured,decoded⟩ := ownCaptures opens called ends given spelled target argument calm
  have text := unescapeSpelled spelled
  have acts : ∀ full : selector ≠ [], ∃ c, Call.act? g.kind selector (v.map unescape) = some c ∧
      c.kind = g.kind ∧ c.selector = some selector ∧ c.value = value := by
    intro full
    exact ⟨.act g.kind selector value full,by rw [decoded,actOfGiven full],rfl,rfl,rfl⟩
  rw [Shape.read?,captured]
  cases target with
  | locator full => simpa [text] using acts full
  | shown other plain dark =>
    have full := taggedGiven ⟨other,plain⟩ (s.map .char)
    cases a <;> first | contradiction | simpa [text,dark] using acts full
  | role marked full signs free =>
    have read := roleRead given spelled marked full signs free
    simpa [read] using acts (roleSelector?_ne_nil read)

theorem roleFront {mark : CodePoint} {word : Text} (marked : mark = .char '"' ∨ mark = .char '\'')
    (signs : ∀ c ∈ word, c.isWord) : CodePoint.char ')' ∉ enclosed mark word ++ ", \x7b name: " := by
  intro inside
  rcases List.mem_append.mp inside with marks | fixed
  · have sign : (CodePoint.char ')').isWord ∨ CodePoint.char ')' = mark := by
      simp only [enclosed,List.mem_cons,List.mem_append,List.not_mem_nil,or_false] at marks
      rcases marks with same | named | same
      · exact .inr same
      · exact .inl (signs _ named)
      · exact .inr same
    exact absurd rfl (roleSigns marked sign).2.1
  · exact absurd fixed (by decide)

theorem roleOther {mark : CodePoint} {word : Text} (marked : mark = .char '"' ∨ mark = .char '\'')
    (signs : ∀ c ∈ word, c.isWord) (opens : afterCall? Accessor.role.spellings (afterReceiver line) =
      some (roleList mark word quote w ++ .char ')' :: gestureTail gesture arg stop))
    (called : gesture ∈ g.spellings) (ends : stop ∈ stops) (given : isQuote quote) (other : h ≠ g)
    (value : ¬ Chains h arg) (name : h.takesValue → ¬ Chains h (w ++ [quote])) :
    (Shape.chained .role h).captures? line = none := by
  rw [capturesRole opens,List.findSome?_eq_none_iff]
  rintro ⟨args,rest⟩ stands
  cases read : gestureToEnd? h rest with
  | none => simp [read]
  | some v =>
    obtain ⟨part,_,_,same⟩ := roleRest (List.mem_reverse.mp stands)
    have chains := gestureChains read ends (same.symm.trans (tailOpened _))
    have parted : roleList mark word quote w ++ gestureOpen gesture arg = (enclosed mark word ++ ", \x7b name: ") ++
        ([quote] ++ (w ++ quote :: (" \x7d" ++ gestureOpen gesture arg))) := by
      simp [roleList,enclosed]
    rw [parted] at chains
    have free : CodePoint.char ')' ∉ [quote] := by simpa using Ne.symm (notQuote given (d := .char ')') rfl)
    rcases chainsAcross given (by decide) called (chainsBehind free (chainsBehind (roleFront marked signs) chains)) with
      same | ⟨valued,inside⟩ | inside
    · exact absurd same other
    · exact absurd inside (name valued)
    · exact absurd inside value

theorem insideCalls {v : Option Text} {y rest : Text} (called : gesture ∈ g.spellings) (ends : stop ∈ stops)
    (given : isQuote quote) (stands : rest ∈ afterArguments (y ++ quote :: .char ')' :: gestureTail gesture arg stop))
    (read : gestureToEnd? h rest = some v) :
    GoesOn y ∧ (h = g ∨ h.takesValue ∧ Chains h (y ++ [quote]) ∨ Chains h arg) := by
  have close : quote ≠ .char ')' := notQuote given rfl
  rcases argumentsGoOn (quoteDark given) (notQuote given rfl) stands with goesOn | ⟨same,_⟩
  · obtain ⟨further,_,same⟩ := argumentsRead stands
    have chains : Chains h (y ++ quote :: ([] ++ gestureOpen gesture arg)) := by
      refine gestureChains read ends (same.symm.trans ?_)
      simp [gestureOpen,gestureTail]
    exact ⟨goesOn,chainsAcross given (by simp) called chains⟩
  · exact absurd same close

theorem valueCalls {v : Option Text} {x behind rest : Text} (called : gesture ∈ g.spellings) (ends : stop ∈ stops)
    (given : isQuote quote) (same : .char ')' :: gestureTail gesture arg stop = x ++ quote :: behind)
    (stands : rest ∈ afterArguments behind) (read : gestureToEnd? h rest = some v) :
    ∃ x y, arg = x ++ quote :: y ∧ GoesOn y ∧ Chains h y := by
  have close : quote ≠ .char ')' := notQuote given rfl
  have plain : quote ∉ CodePoint.char ')' :: .char '.' :: (gesture ++ [.char '(']) := by
    have nameFree : quote ∉ gesture := fun inside => notQuote given ((gestureSigns called).2.2 quote inside) rfl
    simp [nameFree,close,notQuote given (d := .char '.') rfl,notQuote given (d := .char '(') rfl]
  obtain ⟨z,_,inArgument⟩ := Text.behindPart (x := arg ++ .char ')' :: stop) plain (by simpa [gestureTail] using same)
  have last : quote ∉ CodePoint.char ')' :: stop := by
    have stopFree : quote ∉ stop := fun inside => notQuote given ((stopSigns ends).2.2 quote inside) rfl
    simp [stopFree,close]
  rcases List.append_eq_append_iff.mp inArgument with ⟨y,_,ending⟩ | ⟨y,parts,ending⟩
  · rw [ending] at last
    simp at last
  · cases y with
    | nil => exact absurd (List.cons.inj ending).1 close
    | cons d y =>
      obtain ⟨rfl,rfl⟩ := List.cons.inj ending
      rcases argumentsGoOn rfl (by decide) stands with goesOn | ⟨_,rfl⟩
      · obtain ⟨further,_,same⟩ := argumentsRead stands
        exact ⟨z,y,parts,goesOn,gestureChains read ends same.symm⟩
      · obtain ⟨pad,name,inner,last,_,_,_,_,same⟩ := gestureRead read
        have dot : CodePoint.char '.' ∈ rest := by
          rw [same]
          simp [Text.ofString]
        exact absurd dot (stopSigns ends).2.1

theorem literalOther (plain : a ≠ .role) (opens : afterCall? a.spellings (afterReceiver line) =
      some (enclosed quote w ++ .char ')' :: gestureTail gesture arg stop))
    (called : gesture ∈ g.spellings) (ends : stop ∈ stops) (given : isQuote quote) (other : h ≠ g)
    (quiet : ∀ x y, GoesOn y →
      (w = x ++ quote :: y → ¬ Chains h arg ∧ (h.takesValue → ¬ Chains h (y ++ [quote]))) ∧
      (w.getLast? = some (.char '\\') → arg = x ++ quote :: y → ¬ Chains h y)) :
    (Shape.chained a h).captures? line = none := by
  rw [capturesLiteral plain opens,List.findSome?_eq_none_iff]
  rintro ⟨content,behind⟩ literal
  rw [List.findSome?_eq_none_iff]
  intro rest stands
  cases read : gestureToEnd? h rest with
  | none => rfl
  | some v =>
    exfalso
    rcases literalPlaces given literal with rfl | ⟨x,y,parts,rfl⟩ | ⟨slash,x,same⟩
    · rw [List.mem_singleton.mp stands,gestureOther called other] at read
      contradiction
    · obtain ⟨goesOn,calls⟩ := insideCalls called ends given stands read
      obtain ⟨value,name⟩ := (quiet x y goesOn).1 parts
      rcases calls with same | ⟨valued,inside⟩ | inside
      · exact other same
      · exact name valued inside
      · exact value inside
    · obtain ⟨x,y,parts,goesOn,chains⟩ := valueCalls called ends given same stands read
      exact (quiet x y goesOn).2 slash parts chains

theorem accessorShapes {shape : Shape} (named : name ∈ a.spellings) (opens : name ∈ shape.openings) :
    ∃ h, shape = .chained a h := by
  cases shape with
  | navigation =>
    have apart : ∀ n ∈ a.spellings, n ∉ Shape.navigation.openings := by cases a <;> decide +kernel
    exact absurd opens (apart name named)
  | flat g =>
    have apart : ∀ n ∈ a.spellings, n ∉ (Shape.flat g).openings := by cases a <;> cases g <;> decide +kernel
    exact absurd opens (apart name named)
  | chained b h =>
    have same : ∀ n ∈ a.spellings, n ∈ b.spellings → b = a := by cases a <;> cases b <;> decide +kernel
    exact ⟨h,by rw [same name named opens]⟩

theorem otherCaptures (listed : .chained a h ∈ defaultShapes)
    (opens : afterCall? a.spellings (afterReceiver line) = some (args ++ .char ')' :: gestureTail gesture arg stop))
    (called : gesture ∈ g.spellings) (ends : stop ∈ stops) (given : isQuote quote) (target : Target quote s w a args selector)
    (quiet : Quiet a g quote w arg) (other : h ≠ g) : (Shape.chained a h).captures? line = none := by
  have literal : a ≠ .role → args = enclosed quote w → (Shape.chained a h).captures? line = none := by
    rintro plain rfl
    exact literalOther plain opens called ends given other fun x y => quiet.shown plain h other listed x y
  cases target with
  | locator _ => exact literal (by decide) rfl
  | shown _ plain _ => exact literal plain rfl
  | role marked _ signs _ =>
    obtain ⟨value,name⟩ := quiet.role rfl h listed
    exact roleOther marked signs opens called ends given other value (name other)

theorem takenAlone (listed : .chained a g ∈ defaultShapes) (named : name ∈ a.spellings)
    (start : afterReceiver line = name ++ ("(" ++ (args ++ .char ')' :: gestureTail gesture arg stop)))
    (called : gesture ∈ g.spellings) (ends : stop ∈ stops) (given : isQuote quote) (spelled : Spelled quote s w)
    (target : Target quote s w a args selector) (argument : Argument g arg value) (quiet : Quiet a g quote w arg) :
    TakenBy line (.chained a g) g.kind (some selector) value := by
  have known := openingKnown listed named
  have opens : ∀ shape ∈ defaultShapes, afterCall? shape.openings (afterReceiver line) =
      if name ∈ shape.openings then some (args ++ .char ')' :: gestureTail gesture arg stop) else none := by
    intro shape inside
    rw [start]
    exact afterOpening inside known _
  have own := (opens _ listed).trans (if_pos named)
  obtain ⟨c,read,meant⟩ := ownRead own called ends given spelled target argument fun role => (quiet.role role g listed).1
  have only : ∀ other ∈ defaultShapes, other ≠ .chained a g → other.read? line = none := by
    intro other inside differs
    have nothing : other.captures? line = none := by
      by_cases same : name ∈ other.openings
      · obtain ⟨h,rfl⟩ := accessorShapes named same
        have different : h ≠ g := by
          rintro rfl
          exact differs rfl
        exact otherCaptures inside own called ends given target quiet different
      · exact capturesOther ((opens other inside).trans (if_neg same))
    rw [Shape.read?,nothing]
    rfl
  refine ⟨⟨c,foundOnly listed (by rw [read]; rfl) ?_,meant⟩,only⟩
  intro other inside
  by_cases same : other = .chained a g
  · rw [same,read]
    exact .inr rfl
  · rw [only other inside same]
    exact .inl rfl

end chained

/- A line with an accessor and a gesture that the table lists for it is read by the entry of the
two alone, whatever its literals hold besides the gesture calls of the other entries. -/
theorem chainedLinesRead {wait receiver name gesture args arg stop w selector : Text} {quote : CodePoint} {s : List Char}
    {value : Option Text} {a : Accessor} {g : Gesture} (listed : .chained a g ∈ defaultShapes)
    (front : wait ∈ waits) (next : receiver ∈ receivers) (named : name ∈ a.spellings) (called : gesture ∈ g.spellings)
    (ends : stop ∈ stops) (given : isQuote quote) (spelled : Spelled quote s w)
    (target : Target quote s w a args selector) (argument : Argument g arg value) (quiet : Quiet a g quote w arg) :
    TakenBy (wait ++ receiver ++ chainedCall name args gesture arg ++ stop) (.chained a g) g.kind (some selector) value := by
  have line : wait ++ receiver ++ chainedCall name args gesture arg ++ stop =
      wait ++ (receiver ++ (name ++ ("(" ++ (args ++ .char ')' :: gestureTail gesture arg stop)))) := by
    simp [chainedCall,written,gestureTail,Text.ofString]
  rw [line]
  exact takenAlone listed named (afterReceiverOf front next (openingKnown listed named) _) called ends given spelled target
    argument quiet

theorem goesOnSign {y : Text} (goesOn : GoesOn y) : CodePoint.char ')' ∈ y ∨ CodePoint.char ',' ∈ y := by
  rcases goesOn with close | comma
  · exact .inl (List.mem_of_head? close)
  · exact .inr (List.dropWhile_subset _ (List.mem_of_head? comma))

theorem quietLinesTaken :
    TakenBy ("await " ++ "page." ++ chainedCall "locator" (enclosed (.char '\'') "it\\'s") "fill"
      (enclosed (.char '"') ").click(") ++ ";") (.chained .locator .fill) .fill (some "it's") (some ").click(") ∧
    TakenBy ("" ++ "" ++ chainedCall "get_by_role" (roleList (.char '\'') "Textbox" (.char '`') "\"a\" ).click(") "fill"
      (enclosed (.char '\'') "\\'x\\\\") ++ "") (.chained .role .fill) .fill
        (some "role=textbox[name=\"\\\"a\\\" ).click(\"]") (some "'x\\") := by
  have selector : Spelled (.char '\'') "it's".toList "it\\'s" := @escapedSpelled (.char '\'') "it's".toList rfl (by decide)
  have call : Spelled (.char '"') ").click(".toList ").click(" := @escapedSpelled (.char '"') ").click(".toList rfl (by decide)
  have shut : Quiet .locator .fill (.char '\'') "it\\'s" (enclosed (.char '"') ").click(") := by
    refine ⟨fun role => by contradiction,fun _ h _ _ x y goesOn => ⟨fun parts => ?_,fun last => ?_⟩⟩
    · have free : CodePoint.char ')' ∉ Text.ofString "it\\'s" ∧ CodePoint.char ',' ∉ Text.ofString "it\\'s" := by decide
      have inside : ∀ c ∈ y, c ∈ Text.ofString "it\\'s" := fun c member => by rw [parts]; simp [member]
      rcases goesOnSign goesOn with close | comma
      · exact absurd (inside _ close) free.1
      · exact absurd (inside _ comma) free.2
    · exact absurd last (by decide)
  have name : Spelled (.char '`') "\"a\" ).click(".toList "\"a\" ).click(" :=
    @escapedSpelled (.char '`') "\"a\" ).click(".toList rfl (by decide)
  have value : Spelled (.char '\'') "'x\\".toList "\\'x\\\\" :=
    @escapedSpelled (.char '\'') "'x\\".toList rfl (by decide)
  have nameless : ¬ NamesConstant "\"a\" ).click(" := by
    rintro ⟨c,_,inside⟩
    have capital : CodePoint.char 'A' ∈ Text.ofString "\"a\" ).click(" := inside.subset (by simp [Text.ofString])
    exact absurd capital (by decide)
  have target : Target (.char '`') "\"a\" ).click(".toList "\"a\" ).click(" .role
      (roleList (.char '\'') "Textbox" (.char '`') "\"a\" ).click(") "role=textbox[name=\"\\\"a\\\" ).click(\"]" :=
    .role (.inr rfl) (by decide) (by decide +kernel) nameless
  have quiet : Quiet .role .fill (.char '`') "\"a\" ).click(" (enclosed (.char '\'') "\\'x\\\\") := by
    refine ⟨fun _ h listed => ⟨fun chains => ?_,fun other valued => ?_⟩,fun plain => by contradiction⟩
    · exact absurd (chainsDot chains) (by decide)
    cases h with
    | click => contradiction
    | check => contradiction
    | fill => contradiction
    | select => exact absurd listed (by decide)
    | press => exact absurd listed (by decide)
  exact ⟨chainedLinesRead (by decide) (by decide) (by decide) (by decide) (by decide) (by decide) rfl selector
      (.locator (by decide)) (.valued rfl rfl call) shut,
    chainedLinesRead (by decide) (by decide) (by decide) (by decide) (by decide) (by decide) rfl name target
      (.valued rfl rfl value) quiet⟩

theorem literalsDecide :
    recognize? defaultShapes (chainedCall "locator" (enclosed (.char '\'') " ") "click" []) = none ∧
    ¬ TakenBy (chainedCall "locator" (enclosed (.char '\'') " a") "click" []) (.chained .locator .click) .click (some " a") none ∧
    ¬ TakenBy (chainedCall "getByRole" (roleList (.char '\'') "textbox" (.char '\'') "n") "fill" (enclosed (.char '\'') ").click("))
      (.chained .role .fill) .fill (some "role=textbox[name=\"n\"]") (some ").click(") ∧
    ¬ TakenBy (chainedCall "locator" (enclosed (.char '\'') "x\\', ") "fill" (enclosed (.char '\'') ").click("))
      (.chained .locator .fill) .fill (some "x',") (some ").click(") ∧
    ¬ TakenBy (chainedCall "getByRole" (roleList (.char '\'') "button" (.char '\'') "AriaRole.LINK") "click" [])
      (.chained .role .click) .click (some "role=button[name=\"AriaRole.LINK\"]") none := by
  have differs : ∀ {line : Text} {shape : Shape} {kind : Kind} {selector value : Option Text},
      (recognize? defaultShapes line).map (fun p => (p.1,p.2.selector)) ≠ some (shape,selector) →
        ¬ TakenBy line shape kind selector value := by
    rintro line shape kind selector value other ⟨⟨c,read,_,same,_⟩,_⟩
    rw [read,← same] at other
    exact other rfl
  exact ⟨by decide +kernel,differs (by decide +kernel),differs (by decide +kernel),differs (by decide +kernel),
    differs (by decide +kernel)⟩

end TestWeaver.Recording
