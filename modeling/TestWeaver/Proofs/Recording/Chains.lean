import TestWeaver.Proofs.Recording.Grammar
import TestWeaver.Proofs.Text.Alphabet

/-! Gesture calls that begin in one part of a line. A call behind a closing parenthesis that ends
the line begins in what stands before the last parenthesis and is left open there. Quotation marks
have no place in its beginning, so that lies on one side of each. -/
namespace TestWeaver.Recording

def Gesture.Begins (g : Gesture) (rest : Text) : Prop :=
  if g.takesValue then ∃ c ∈ rest.dropBlank.head?, isQuote c else CodePoint.char ')' ∉ rest

/- A gesture call behind a closing parenthesis begins in a text, and the text does not close it. -/
def Chains (g : Gesture) (t : Text) : Prop :=
  ∃ before pad name rest, (∀ c ∈ pad, c.isBlank) ∧ name ∈ g.spellings ∧ g.Begins rest ∧
    t = before ++ .char ')' :: (pad ++ .char '.' :: (name ++ .char '(' :: rest))

def GoesOn (t : Text) : Prop := t.head? = some (.char ')') ∨ t.dropBlank.head? = some (.char ',')

section gestures
variable {g h : Gesture} {gesture arg rest stop x y : Text} {quote : CodePoint} {value : Option Text}

theorem gestureSigns {name : Text} (called : name ∈ g.spellings) :
    CodePoint.char '(' ∉ name ∧ CodePoint.char ')' ∉ name ∧ ∀ c ∈ name, isQuote c = false := by
  have table : ∀ n ∈ g.spellings,
      CodePoint.char '(' ∉ n ∧ CodePoint.char ')' ∉ n ∧ ∀ c ∈ n, isQuote c = false := by
    cases g <;> decide +kernel
  exact table name called

theorem gestureOfName {name : Text} (called : name ∈ g.spellings) (other : name ∈ h.spellings) : h = g := by
  have apart : ∀ n ∈ g.spellings, n ∈ h.spellings → h = g := by
    cases g <;> cases h <;> decide +kernel
  exact apart name called other

theorem endsPlain (ends : Ends t) : CodePoint.char ')' ∉ t := by
  have dark : ∀ {pad : Text}, (∀ c ∈ pad, c.isBlank) → CodePoint.char ')' ∉ pad := by
    intro pad blank inside
    exact absurd (blank _ inside) (by decide)
  rcases ends with ⟨blank⟩ | ⟨blank,last⟩
  · exact dark blank
  · simp [dark blank,dark last]

theorem stopSigns (ends : stop ∈ stops) :
    CodePoint.char ')' ∉ stop ∧ CodePoint.char '.' ∉ stop ∧ ∀ c ∈ stop, isQuote c = false := by
  have table : ∀ u ∈ stops, CodePoint.char ')' ∉ u ∧ CodePoint.char '.' ∉ u ∧ ∀ c ∈ u, isQuote c = false := by decide
  exact table stop ends

theorem gestureChains (read : gestureToEnd? g rest = some value) (ends : stop ∈ stops)
    (same : x ++ .char ')' :: rest = t ++ .char ')' :: stop) : Chains g t := by
  obtain ⟨pad,name,arg,last,blank,listed,takes,closed,rfl⟩ := gestureRead read
  have parted : (x ++ .char ')' :: (pad ++ .char '.' :: (name ++ .char '(' :: arg))) ++ .char ')' :: last =
      t ++ .char ')' :: stop := by
    rw [← same]
    simp [written,Text.ofString]
  obtain ⟨rfl,_⟩ := Text.lastPartUnique (endsPlain closed) (stopSigns ends).1 parted
  refine ⟨x,pad,name,arg,blank,listed,?_,rfl⟩
  unfold Gesture.Begins
  unfold Gesture.Takes at takes
  split
  · rename_i valued
    rw [if_pos valued] at takes
    cases takes with
    | @literal pad quote w further blank mark guarded more =>
      refine ⟨quote,?_,mark⟩
      rw [List.append_assoc,dropBlankPad blank,enclosed,List.cons_append,Text.dropBlankSelf (quoteDark mark)]
      rfl
  · rename_i bare
    rwa [if_neg bare] at takes

theorem chainsBehind (free : CodePoint.char ')' ∉ x) (chains : Chains g (x ++ y)) : Chains g y := by
  obtain ⟨before,pad,name,rest,blank,listed,begins,same⟩ := chains
  obtain ⟨z,_,rfl⟩ := Text.behindPart free same
  exact ⟨z,pad,name,rest,blank,listed,begins,rfl⟩

theorem firstDark {c : CodePoint} (dark : c.isBlank = false) (x u : Text) :
    (Text.dropBlank (x ++ c :: u)).head? = (Text.dropBlank x).head?.or (some c) := by
  rw [Text.dropBlank,Text.dropBlank,List.dropWhile_append]
  split
  · rename_i empty
    rw [List.isEmpty_iff.mp empty,List.dropWhile_cons_of_neg (by simpa using dark)]
    rfl
  · rw [List.head?_append]
    rfl

theorem beginsSide (mark : isQuote quote) (begins : g.Begins (x ++ quote :: y)) :
    g.Begins (x ++ [quote]) ∧ (g.takesValue ∨ CodePoint.char ')' ∉ y) := by
  unfold Gesture.Begins at *
  split at begins
  · rename_i valued
    rw [if_pos valued,firstDark (quoteDark mark),← firstDark (quoteDark mark) x y]
    exact ⟨begins,.inl valued⟩
  · rename_i bare
    rw [if_neg bare]
    simp only [List.mem_append,List.mem_cons,List.not_mem_nil,or_false,not_or] at begins ⊢
    exact ⟨⟨begins.1,begins.2.1⟩,.inr begins.2.2⟩

/- A quotation mark has no place in the beginning of a call, so that lies on one side of it. A call
that takes no value is open on the left only while no parenthesis closes on the right. -/
theorem chainsSide (mark : isQuote quote) (chains : Chains g (x ++ quote :: y)) :
    Chains g (x ++ [quote]) ∧ (g.takesValue ∨ CodePoint.char ')' ∉ y) ∨ Chains g y := by
  obtain ⟨before,pad,name,rest,blank,listed,begins,same⟩ := chains
  have free : quote ∉ CodePoint.char ')' :: (pad ++ .char '.' :: (name ++ [.char '('])) := by
    have padFree : quote ∉ pad := fun inside => by
      have dark := quoteDark mark
      rw [blank quote inside] at dark
      contradiction
    have nameFree : quote ∉ name := fun inside => notQuote mark ((gestureSigns listed).2.2 quote inside) rfl
    simp [padFree,nameFree,notQuote mark (d := .char ')') rfl,notQuote mark (d := .char '.') rfl,
      notQuote mark (d := .char '(') rfl]
  have parted : x ++ quote :: y = before ++ ((.char ')' :: (pad ++ .char '.' :: (name ++ [.char '(']))) ++ rest) := by
    rw [same]
    simp
  rcases Text.partSide free parted with ⟨z,left,rfl⟩ | ⟨z,_,right⟩
  · obtain ⟨here,later⟩ := beginsSide mark begins
    exact .inl ⟨⟨before,pad,name,z ++ [quote],blank,listed,here,by rw [left]; simp⟩,later⟩
  · exact .inr ⟨z,pad,name,rest,blank,listed,begins,by rw [right]; simp⟩

theorem chainsDot (chains : Chains g x) : CodePoint.char '.' ∈ x := by
  obtain ⟨before,pad,name,rest,_,_,_,rfl⟩ := chains
  simp

end gestures

def gestureOpen (gesture arg : Text) : Text := .char ')' :: .char '.' :: (gesture ++ .char '(' :: arg)

def gestureTail (gesture arg stop : Text) : Text := .char '.' :: (gesture ++ .char '(' :: (arg ++ .char ')' :: stop))

section tail
variable {g h : Gesture} {gesture arg stop rest x back : Text} {quote : CodePoint} {v : Option Text}

theorem chainsOpen (called : gesture ∈ g.spellings) (chains : Chains h (gestureOpen gesture arg)) : h = g ∨ Chains h arg := by
  obtain ⟨before,pad,name,rest,blank,listed,begins,same⟩ := chains
  cases before with
  | nil =>
    have next := (List.cons.inj same).2
    cases pad with
    | nil =>
      obtain ⟨rfl,_⟩ := Text.firstPartUnique (gestureSigns called).1 (gestureSigns listed).1 (List.cons.inj next).2
      exact .inl (gestureOfName called listed)
    | cons c pad =>
      have dark := blank c List.mem_cons_self
      rw [← (List.cons.inj next).1] at dark
      exact absurd dark (by decide)
  | cons c before =>
    have free : CodePoint.char ')' ∉ CodePoint.char '.' :: (gesture ++ [.char '(']) := by
      simp [(gestureSigns called).2.1]
    refine .inr (chainsBehind free ⟨before,pad,name,rest,blank,listed,begins,?_⟩)
    simpa using (List.cons.inj same).2

theorem chainsAcross (mark : isQuote quote) (free : CodePoint.char ')' ∉ back) (called : gesture ∈ g.spellings)
    (chains : Chains h (x ++ quote :: (back ++ gestureOpen gesture arg))) :
    h = g ∨ h.takesValue ∧ Chains h (x ++ [quote]) ∨ Chains h arg := by
  rcases chainsSide mark chains with ⟨inside,valued | closed⟩ | behind
  · exact .inr (.inl ⟨valued,inside⟩)
  · simp [gestureOpen] at closed
  · exact (chainsOpen called (chainsBehind free behind)).imp_right .inr

theorem tailOpened (t : Text) : t ++ .char ')' :: gestureTail gesture arg stop =
    (t ++ gestureOpen gesture arg) ++ .char ')' :: stop := by
  simp [gestureOpen,gestureTail]

theorem chainsValue (called : gesture ∈ g.spellings) (ends : stop ∈ stops)
    (same : gestureTail gesture arg stop = x ++ .char ')' :: rest) (read : gestureToEnd? h rest = some v) : Chains h arg := by
  have free : CodePoint.char ')' ∉ CodePoint.char '.' :: (gesture ++ [.char '(']) := by
    simp [(gestureSigns called).2.1]
  refine chainsBehind free (gestureChains (x := x) read ends ?_)
  rw [← same]
  simp [gestureTail]

end tail

end TestWeaver.Recording
