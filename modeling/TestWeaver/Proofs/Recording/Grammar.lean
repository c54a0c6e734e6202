import TestWeaver.Proofs.Recording.Lines

/-! The lines that the table accepts. Each is built as its shape is: a front, the calls of the
shape with a literal in each where one is read, and an end. Between a literal and the closing
parenthesis, and anywhere in the arguments of a role, other text may stand, further calls with it. -/
namespace TestWeaver.Recording

inductive Front : Text → Prop where
  | called {receiver} : receiver ∈ receivers → Front receiver
  | awaited {pad receiver : Text} : pad ≠ [] → (∀ c ∈ pad, c.isBlank) → receiver ∈ receivers →
      Front ("await" ++ pad ++ receiver)

structure Guarded (quote : CodePoint) (w : Text) : Prop where
  oneLine : CodePoint.char '\n' ∉ w
  guard : ∀ x y, w = x ++ quote :: y → x.getLast? = some (.char '\\')

inductive Further : Text → Prop where
  | none : Further []
  | more {pad rest} : (∀ c ∈ pad, c.isBlank) → CodePoint.char '\n' ∉ rest → Further (pad ++ .char ',' :: rest)

inductive Given : Text → Prop where
  | literal {pad quote w further} : (∀ c ∈ pad, c.isBlank) → isQuote quote → Guarded quote w → Further further →
      Given (pad ++ enclosed quote w ++ further)

inductive GivenTwice : Text → Prop where
  | literals {pad quote w gap inside} : (∀ c ∈ pad, c.isBlank) → isQuote quote → Guarded quote w →
      (∀ c ∈ gap, c.isBlank) → Given inside → GivenTwice (pad ++ enclosed quote w ++ gap ++ .char ',' :: inside)

inductive Ends : Text → Prop where
  | open {pad} : (∀ c ∈ pad, c.isBlank) → Ends pad
  | stopped {pad rest} : (∀ c ∈ pad, c.isBlank) → (∀ c ∈ rest, c.isBlank) → Ends (pad ++ .char ';' :: rest)

def Accessor.Takes : Accessor → Text → Prop
  | .role, inside => CodePoint.char '\n' ∉ inside
  | _, inside => Given inside

def Gesture.Takes (g : Gesture) (inside : Text) : Prop :=
  if g.takesValue then Given inside else CodePoint.char ')' ∉ inside

def Gesture.TakesFlat (g : Gesture) (inside : Text) : Prop :=
  if g.takesValue then GivenTwice inside else Given inside

inductive Fits : Shape → Text → Prop where
  | navigation {front name inside last} : Front front → name ∈ Shape.navigation.openings → Given inside → Ends last →
      Fits .navigation (front ++ written name inside ++ last)
  | chained {a g front name inside pad gesture arg last} : Front front → name ∈ a.spellings → a.Takes inside →
      (∀ c ∈ pad, c.isBlank) → gesture ∈ g.spellings → g.Takes arg → Ends last →
      Fits (.chained a g) (front ++ written name inside ++ pad ++ "." ++ written gesture arg ++ last)
  | flat {g front name inside last} : Front front → name ∈ g.spellings → g.TakesFlat inside → Ends last →
      Fits (.flat g) (front ++ written name inside ++ last)

section readers
variable {t rest given args : Text}

theorem blankParts (t : Text) : ∃ pad, (∀ c ∈ pad, c.isBlank) ∧ t = pad ++ Text.dropBlank t :=
  ⟨t.takeWhile CodePoint.isBlank,fun _ inside => List.all_eq_true.mp List.all_takeWhile _ inside,
    (List.takeWhile_append_dropWhile ..).symm⟩

theorem receiverParts (t : Text) :
    ∃ receiver ∈ receivers, t = receiver ++ ((t.afterLead? "self.page." <|> t.afterLead? "page.").getD t) := by
  cases far : t.afterLead? "self.page." with
  | some rest => exact ⟨"self.page.",by decide,Text.afterLeadSome.mp far⟩
  | none =>
    cases near : t.afterLead? "page." with
    | some rest => exact ⟨"page.",by decide,Text.afterLeadSome.mp near⟩
    | none => exact ⟨"",by decide,rfl⟩

theorem frontRead (t : Text) : ∃ front, Front front ∧ t = front ++ afterReceiver t := by
  have called : ∃ receiver ∈ receivers, t = receiver ++ ((t.afterLead? "self.page." <|> t.afterLead? "page.").getD t) :=
    receiverParts t
  unfold afterReceiver
  cases waits : t.afterLead? "await" with
  | none =>
    obtain ⟨receiver,listed,parts⟩ := called
    exact ⟨receiver,.called listed,parts⟩
  | some behind =>
    cases behind with
    | nil =>
      obtain ⟨receiver,listed,parts⟩ := called
      exact ⟨receiver,.called listed,parts⟩
    | cons c u =>
      cases blank : c.isBlank with
      | false =>
        obtain ⟨receiver,listed,parts⟩ := called
        exact ⟨receiver,.called listed,by simpa [blank] using parts⟩
      | true =>
        obtain ⟨pad,blanks,rest⟩ := blankParts u
        obtain ⟨receiver,listed,parts⟩ := receiverParts (Text.dropBlank u)
        have padBlank : ∀ d ∈ c :: pad, d.isBlank := by
          intro d member
          rcases List.mem_cons.mp member with rfl | inside
          · exact blank
          · exact blanks d inside
        refine ⟨"await" ++ (c :: pad) ++ receiver,.awaited (by simp) padBlank listed,?_⟩
        simp only [blank,if_true]
        rw [List.append_assoc,List.append_assoc,← parts,List.cons_append,← rest]
        exact Text.afterLeadSome.mp waits

theorem callRead {names : List Text} (read : afterCall? names t = some rest) :
    ∃ name ∈ names, t = name ++ .char '(' :: rest := by
  obtain ⟨name,listed,leads⟩ := List.exists_of_findSome?_eq_some read
  exact ⟨name,listed,by simpa [Text.ofString] using Text.afterLeadSome.mp leads⟩

theorem guardedLast {quote d : CodePoint} {w : Text} (guarded : Guarded quote w) (feed : d ≠ .char '\n')
    (behind : d = quote → w.getLast? = some (.char '\\')) : Guarded quote (w ++ [d]) where
  oneLine := by simp [guarded.oneLine,Ne.symm feed]
  guard := by
    intro x y parts
    rcases List.eq_nil_or_concat y with rfl | ⟨front,e,rfl⟩
    · obtain ⟨rfl,same⟩ := List.append_inj' parts rfl
      exact behind (List.singleton_inj.mp same)
    · rw [List.concat_eq_append,← List.cons_append,← List.append_assoc] at parts
      exact guarded.guard x front (List.append_inj' parts rfl).1

theorem closingRead {quote : CodePoint} {body : Text} {run : Nat}
    (count : run ≠ 0 → body.head? = some (.char '\\')) (before : Guarded quote body.reverse)
    (read : (given,rest) ∈ closingsFrom quote body run t) :
    Guarded quote given ∧ body.reverse ++ t = given ++ quote :: rest := by
  -- the content so far carries the induction: the marks in it are guarded, and the run counts the backslashes at its end
  induction t generalizing body run with
  | nil => simp [closingsFrom] at read
  | cons c t ih =>
    rw [closingsFrom] at read
    split at read
    · simp at read
    rename_i feed
    have passed : ∀ d : CodePoint, (d :: body).reverse ++ t = body.reverse ++ d :: t := by simp
    split at read
    · rename_i close
      have here : (given,rest) = (body.reverse,t) → Guarded quote given ∧ body.reverse ++ c :: t = given ++ quote :: rest := by
        rintro same
        obtain ⟨rfl,rfl⟩ := Prod.mk.inj same
        exact ⟨before,by rw [close]⟩
      split at read
      · exact here (List.mem_singleton.mp read)
      · rename_i some
        have later : (given,rest) ∈ closingsFrom quote (c :: body) 0 t →
            Guarded quote given ∧ body.reverse ++ c :: t = given ++ quote :: rest := by
          intro inside
          have longer : Guarded quote (c :: body).reverse := by
            rw [List.reverse_cons]
            exact guardedLast before feed fun _ => by rw [List.getLast?_reverse]; exact count some
          have found := ih (by simp) longer inside
          rwa [passed] at found
        dsimp only at read
        split at read
        · rcases List.mem_cons.mp read with same | inside
          · exact here same
          · exact later inside
        · rcases List.mem_append.mp read with inside | same
          · exact later inside
          · exact here (List.mem_singleton.mp same)
    · rename_i other
      have longer : Guarded quote (c :: body).reverse := by
        rw [List.reverse_cons]
        exact guardedLast before feed fun same => absurd same other
      have counted : (if c = .char '\\' then run + 1 else 0) ≠ 0 → (c :: body).head? = some (.char '\\') := by
        split
        · rename_i slash
          simp [slash]
        · simp
      have found := ih counted longer read
      rwa [passed] at found

theorem literalRead (read : (given,rest) ∈ literalArguments t) : ∃ pad quote, (∀ c ∈ pad, c.isBlank) ∧
    isQuote quote ∧ Guarded quote given ∧ t = pad ++ enclosed quote given ++ rest := by
  obtain ⟨pad,blank,parts⟩ := blankParts t
  unfold literalArguments literals at read
  split at read
  · simp at read
  · rename_i c u opened
    split at read
    · rename_i mark
      obtain ⟨guarded,same⟩ := closingRead (by simp) ⟨by simp,by simp⟩ read
      refine ⟨pad,c,blank,mark,guarded,?_⟩
      rw [parts,opened]
      simpa [enclosed] using same
    · simp at read

theorem parenthesisRead (read : rest ∈ afterParentheses t) :
    ∃ part, CodePoint.char '\n' ∉ part ∧ t = part ++ .char ')' :: rest := by
  induction t with
  | nil => simp [afterParentheses] at read
  | cons c t ih =>
    rw [afterParentheses] at read
    split at read
    · simp at read
    · rename_i feed
      have later : rest ∈ afterParentheses t → ∃ part, CodePoint.char '\n' ∉ part ∧ c :: t = part ++ .char ')' :: rest := by
        intro inside
        obtain ⟨part,oneLine,same⟩ := ih inside
        exact ⟨c :: part,by simp [oneLine,Ne.symm feed],by rw [same]; rfl⟩
      split at read
      · rename_i close
        rcases List.mem_cons.mp read with rfl | inside
        · exact ⟨[],by simp,by rw [close]; rfl⟩
        · exact later inside
      · exact later read

theorem argumentsRead (read : rest ∈ afterArguments t) : ∃ further, Further further ∧ t = further ++ .char ')' :: rest := by
  unfold afterArguments at read
  split at read
  · rw [List.mem_singleton.mp read]
    exact ⟨[],.none,rfl⟩
  · split at read
    · rename_i behind opened
      obtain ⟨pad,blank,parts⟩ := blankParts t
      obtain ⟨part,oneLine,same⟩ := parenthesisRead read
      exact ⟨pad ++ .char ',' :: part,.more blank oneLine,by rw [parts,opened,same]; simp⟩
    · simp at read

theorem roleRest {before : Text} (read : (args,rest) ∈ roleArguments.go before t) :
    ∃ part, CodePoint.char '\n' ∉ part ∧ args = before.reverse ++ part ∧ t = part ++ .char ')' :: rest := by
  induction t generalizing before with
  | nil => simp [roleArguments.go] at read
  | cons c t ih =>
    rw [roleArguments.go] at read
    split at read
    · simp at read
    · rename_i feed
      have later : (args,rest) ∈ roleArguments.go (c :: before) t → ∃ part, CodePoint.char '\n' ∉ part ∧
          args = before.reverse ++ part ∧ c :: t = part ++ .char ')' :: rest := by
        intro inside
        obtain ⟨part,oneLine,passed,same⟩ := ih inside
        exact ⟨c :: part,by simp [oneLine,Ne.symm feed],by simp [passed],by rw [same]; rfl⟩
      split at read
      · rename_i close
        rcases List.mem_cons.mp read with same | inside
        · cases same
          exact ⟨[],by simp,by simp,by rw [close]; rfl⟩
        · exact later inside
      · exact later read

theorem endRead (read : isStatementEnd t) : Ends t := by
  obtain ⟨pad,blank,parts⟩ := blankParts t
  unfold isStatementEnd at read
  split at read
  · rename_i empty
    rw [parts,empty,List.append_nil]
    exact .open blank
  · rename_i c rest opened
    obtain ⟨stop,last⟩ := Bool.and_eq_true_iff.mp read
    rw [parts,opened,beq_iff_eq.mp stop]
    exact .stopped blank (List.all_eq_true.mp last)

theorem lastRead (read : (given,rest) ∈ literalArguments t) (ends : (afterArguments rest).any isStatementEnd) :
    ∃ inside last, Given inside ∧ Ends last ∧ t = inside ++ .char ')' :: last := by
  obtain ⟨pad,quote,blank,mark,guarded,parts⟩ := literalRead read
  obtain ⟨last,stands,closes⟩ := List.any_eq_true.mp ends
  obtain ⟨further,more,same⟩ := argumentsRead stands
  exact ⟨pad ++ enclosed quote given ++ further,last,.literal blank mark guarded more,endRead closes,
    by rw [parts,same]; simp⟩

theorem gestureRead {g : Gesture} {value : Option Text} (read : gestureToEnd? g t = some value) :
    ∃ pad gesture arg last, (∀ c ∈ pad, c.isBlank) ∧ gesture ∈ g.spellings ∧ g.Takes arg ∧ Ends last ∧
      t = pad ++ "." ++ written gesture arg ++ last := by
  obtain ⟨pad,blank,parts⟩ := blankParts t
  unfold gestureToEnd? at read
  split at read
  · rename_i u opened
    obtain ⟨behind,call,value⟩ := Option.bind_eq_some_iff.mp read
    obtain ⟨gesture,listed,named⟩ := callRead call
    have inside : ∃ arg last, g.Takes arg ∧ Ends last ∧ behind = arg ++ .char ')' :: last := by
      split at value
      · rename_i valued
        obtain ⟨⟨given,rest⟩,literal,taken⟩ := List.exists_of_findSome?_eq_some value
        obtain ⟨arg,last,form,ends,same⟩ := lastRead literal (by simp at taken; exact List.any_eq_true.mpr taken.1)
        exact ⟨arg,last,by simpa [Gesture.Takes,valued] using form,ends,same⟩
      · rename_i bare
        split at value
        · rename_i c rest closed
          have close : c = .char ')' := by
            have head := List.head?_dropWhile_not (· != .char ')') behind
            simpa [closed] using head
          have free : CodePoint.char ')' ∉ behind.takeWhile (· != .char ')') := by
            intro inside
            have other := List.all_eq_true.mp (List.all_takeWhile (p := (· != CodePoint.char ')')) (l := behind)) _ inside
            simp at other
          split at value
          · rename_i ends
            refine ⟨behind.takeWhile (· != .char ')'),rest,by simpa [Gesture.Takes,bare] using free,endRead ends,?_⟩
            rw [close] at closed
            rw [← closed]
            exact (List.takeWhile_append_dropWhile ..).symm
          · contradiction
        · contradiction
    obtain ⟨arg,last,takes,ends,same⟩ := inside
    refine ⟨pad,gesture,arg,last,blank,listed,takes,ends,?_⟩
    rw [parts,opened,named,same]
    simp [written,Text.ofString]
  · contradiction

end readers

section shapes
variable {line : Text} {a : Accessor} {g : Gesture} {captured : Text × Option Text}

theorem flatRead (read : (Shape.flat g).captures? line = some captured) : ∃ name inside last, name ∈ g.spellings ∧
    g.TakesFlat inside ∧ Ends last ∧ afterReceiver line = written name inside ++ last := by
  obtain ⟨t,call,found⟩ := Option.bind_eq_some_iff.mp read
  obtain ⟨name,listed,named⟩ := callRead call
  obtain ⟨⟨given,rest⟩,literal,taken⟩ := List.exists_of_findSome?_eq_some found
  have takes : ∃ inside last, g.TakesFlat inside ∧ Ends last ∧ t = inside ++ .char ')' :: last := by
    cases valued : g.takesValue with
    | false =>
      simp only [valued,Bool.false_eq_true,if_false] at taken
      obtain ⟨inside,last,form,ends,same⟩ := lastRead literal (Option.ite_none_right_eq_some.mp taken).1
      exact ⟨inside,last,by simpa [Gesture.TakesFlat,valued] using form,ends,same⟩
    | true =>
      simp only [valued,if_true] at taken
      split at taken
      · rename_i behind opened
        obtain ⟨⟨value,tail⟩,second,closes⟩ := List.exists_of_findSome?_eq_some taken
        obtain ⟨inside,last,form,ends,same⟩ := lastRead second (Option.ite_none_right_eq_some.mp closes).1
        obtain ⟨pad,quote,blank,mark,guarded,first⟩ := literalRead literal
        obtain ⟨gap,between,comma⟩ := blankParts rest
        have twice : GivenTwice (pad ++ enclosed quote given ++ gap ++ .char ',' :: inside) :=
          .literals blank mark guarded between form
        exact ⟨_,last,by simpa [Gesture.TakesFlat,valued] using twice,ends,by rw [first,comma,opened,same]; simp⟩
      · contradiction
  obtain ⟨inside,last,form,ends,same⟩ := takes
  exact ⟨name,inside,last,listed,form,ends,by rw [named,same]; simp [written,Text.ofString]⟩

theorem accessorRead (read : (Shape.chained a g).captures? line = some captured) :
    ∃ name inside rest value, name ∈ a.spellings ∧ a.Takes inside ∧
      afterReceiver line = written name inside ++ rest ∧ gestureToEnd? g rest = some value := by
  have literal : a ≠ .role → ((afterCall? a.spellings (afterReceiver line)).bind fun t =>
      (literalArguments t).findSome? fun found =>
        (afterArguments found.2).findSome? fun rest => (gestureToEnd? g rest).map (found.1,·)) = some captured →
      ∃ name inside rest value, name ∈ a.spellings ∧ a.Takes inside ∧
        afterReceiver line = written name inside ++ rest ∧ gestureToEnd? g rest = some value := by
    intro plain read
    obtain ⟨t,call,found⟩ := Option.bind_eq_some_iff.mp read
    obtain ⟨name,listed,named⟩ := callRead call
    obtain ⟨⟨given,rest⟩,literal,taken⟩ := List.exists_of_findSome?_eq_some found
    obtain ⟨behind,stands,gesture⟩ := List.exists_of_findSome?_eq_some taken
    obtain ⟨value,gestured,_⟩ := Option.map_eq_some_iff.mp gesture
    obtain ⟨pad,quote,blank,mark,guarded,first⟩ := literalRead literal
    obtain ⟨further,more,second⟩ := argumentsRead (t := rest) stands
    have form : Given (pad ++ enclosed quote given ++ further) := .literal blank mark guarded more
    refine ⟨name,pad ++ enclosed quote given ++ further,behind,value,listed,?_,?_,gestured⟩
    · cases a <;> first | contradiction | exact form
    · rw [named,first,second]
      simp [written,Text.ofString]
  cases a with
  | role =>
    obtain ⟨t,call,found⟩ := Option.bind_eq_some_iff.mp read
    obtain ⟨name,listed,named⟩ := callRead call
    obtain ⟨⟨args,rest⟩,stands,gesture⟩ := List.exists_of_findSome?_eq_some found
    obtain ⟨value,gestured,_⟩ := Option.map_eq_some_iff.mp gesture
    obtain ⟨part,oneLine,_,same⟩ := roleRest (List.mem_reverse.mp stands)
    refine ⟨name,part,rest,value,listed,oneLine,?_,gestured⟩
    rw [named,same]
    simp [written,Text.ofString]
  | locator => exact literal (by decide) read
  | text => exact literal (by decide) read
  | placeholder => exact literal (by decide) read
  | label => exact literal (by decide) read

theorem shapeRead {shape : Shape} (read : shape.captures? line = some captured) : Fits shape line := by
  obtain ⟨front,start,parts⟩ := frontRead line
  rw [parts]
  cases shape with
  | navigation =>
    obtain ⟨t,call,found⟩ := Option.bind_eq_some_iff.mp read
    obtain ⟨name,listed,named⟩ := callRead call
    obtain ⟨⟨given,rest⟩,literal,taken⟩ := List.exists_of_findSome?_eq_some found
    obtain ⟨inside,last,form,ends,same⟩ := lastRead literal (Option.ite_none_right_eq_some.mp taken).1
    have whole : Fits .navigation (front ++ written name inside ++ last) := .navigation start listed form ends
    simpa [named,same,written,Text.ofString] using whole
  | flat g =>
    obtain ⟨name,inside,last,listed,form,ends,same⟩ := flatRead read
    have whole : Fits (.flat g) (front ++ written name inside ++ last) := .flat start listed form ends
    simpa [same] using whole
  | chained a g =>
    obtain ⟨name,inside,rest,value,listed,form,same,gesture⟩ := accessorRead read
    obtain ⟨pad,call,arg,last,blank,called,takes,ends,tail⟩ := gestureRead gesture
    have whole : Fits (.chained a g) (front ++ written name inside ++ pad ++ "." ++ written call arg ++ last) :=
      .chained start listed form blank called takes ends
    simpa [same,tail] using whole

end shapes

theorem acceptedLinesFit {line : Text} {shape : Shape} {c : Call} (read : recognize? defaultShapes line = some (shape,c)) :
    shape ∈ defaultShapes ∧ Fits shape line := by
  obtain ⟨other,listed,found⟩ := List.exists_of_findSome?_eq_some read
  obtain ⟨call,meant,same⟩ := Option.map_eq_some_iff.mp found
  obtain ⟨rfl,rfl⟩ := Prod.mk.inj same
  obtain ⟨captured,taken,_⟩ := Option.bind_eq_some_iff.mp meant
  exact ⟨listed,shapeRead taken⟩

theorem secondAccessorFits :
    recognize? defaultShapes "page.getByRole('row', \x7b name: 'a' \x7d).getByRole('button').click()" =
      some (.chained .role .click,.act .click "role=row[name=\"a\"]" none (by decide)) ∧
    Fits (.chained .role .click) "page.getByRole('row', \x7b name: 'a' \x7d).getByRole('button').click()" := by
  have read : recognize? defaultShapes "page.getByRole('row', \x7b name: 'a' \x7d).getByRole('button').click()" =
      some (.chained .role .click,.act .click "role=row[name=\"a\"]" none (by decide)) := by decide +kernel
  exact ⟨read,(acceptedLinesFit read).2⟩

def skeletonFrom : Option CodePoint → Bool → Text → Text
  | _, _, [] => []
  | none, _, c :: t => c :: skeletonFrom (if isQuote c then some c else none) false t
  | some quote, true, _ :: t => skeletonFrom (some quote) false t
  | some quote, false, c :: t =>
    if c = quote then c :: skeletonFrom none false t else skeletonFrom (some quote) (c == .char '\\') t

def skeleton (line : Text) : Text := skeletonFrom none false line

theorem laterCallsAccepted :
    (skeleton "getByRole('row', \x7b name: 'a' \x7d).getByRole('button').click()" =
        "getByRole('', \x7b name: '' \x7d).getByRole('').click()" ∧
      recognize? defaultShapes "getByRole('row', \x7b name: 'a' \x7d).getByRole('button').click()" =
        some (.chained .role .click,.act .click "role=row[name=\"a\"]" none (by decide))) ∧
    (skeleton "locator('a', \x7b\x7d).first().click()" = "locator('', \x7b\x7d).first().click()" ∧
      recognize? defaultShapes "locator('a', \x7b\x7d).first().click()" =
        some (.chained .locator .click,.act .click "a" none (by decide))) ∧
    (skeleton "click('a', x); click('b')" = "click('', x); click('')" ∧
      recognize? defaultShapes "click('a', x); click('b')" = some (.flat .click,.act .click "a" none (by decide))) := by
  decide +kernel

end TestWeaver.Recording
