import TestWeaver.Markup.Plain
import TestWeaver.Proofs.Text.Reading

/-! Paragraphs of running text with marks, as marked-up text. Every mark has an element of its own, and
an element is shown on lines of its own: what stands between two tags is one span, which is a line. -/
namespace TestWeaver.Markup

inductive Mark where
  | bold
  | emphasis
  deriving DecidableEq, Repr

def Mark.name : Mark → Text
  | bold => "b"
  | emphasis => "em"

structure Run where
  text : Text
  marks : List Mark := []
  deriving Repr

def opening (name : Text) : Text := .char '<' :: (name ++ [endMark])

def closing (name : Text) : Text := .char '<' :: .char '/' :: (name ++ [endMark])

def enclose : List Mark → Text → Text
  | [],t => t
  | m :: marks,t => opening m.name ++ enclose marks t ++ closing m.name

def Run.html (r : Run) : Text := enclose r.marks r.text

def paragraph (runs : List Run) : Text := opening "p" ++ runs.flatMap Run.html ++ closing "p"

def document (paragraphs : List (List Run)) : Text := paragraphs.flatMap paragraph

/- The texts between the tags of a paragraph, where `before` stands behind the last one: runs without marks
go on with each other. -/
def spans (before : Text) : List Run → List Text
  | [] => [before]
  | r :: runs => if r.marks.isEmpty then spans (before ++ r.text) runs else before :: r.text :: spans [] runs

def Tokenizes (t : Text) (tokens : List Token) : Prop := ∀ fuel, t.length < fuel → tokensFrom fuel false t = .ok tokens

def tagNames : List Text := ["p","b","em"]

section tags
variable {name t rest : Text} {ts : List Token}

theorem markNamed (m : Mark) : m.name ∈ tagNames := by cases m <;> decide

theorem nameParts : ∀ name ∈ tagNames, name.head?.any CodePoint.isLetter ∧
    ∀ c ∈ name, (!endsTagName c) ∧ isEndNamePart c ∧ (c != endMark) ∧ c.isBlank = false := by decide +kernel

theorem nameLowered : ∀ name ∈ tagNames, Text.lower name = name := by decide +kernel

theorem namePlain : ∀ name ∈ tagNames, rawElements.contains name = false ∧ voidElements.contains name = false ∧
    silentElements.contains name = false ∧ Listing.ofName? name = none := by decide +kernel

theorem attributesNone (fuel : Nat) (before : Option CodePoint) (rest : Text) :
    attributes fuel (before,endMark :: rest) = ([],(before,endMark :: rest)) := by
  have none : nameLength (before,endMark :: rest) = 0 := by cases before <;> simp [nameLength]
  cases fuel with
  | zero => rfl
  | succ fuel => rw [attributes,none,if_pos rfl]

theorem nameHead (known : name ∈ tagNames) : ∃ c n, name = c :: n ∧ c.isLetter := by
  have letter := (nameParts name known).1
  cases name with
  | nil => contradiction
  | cons c n => exact ⟨c,n,rfl,letter⟩

theorem startTagRead (known : name ∈ tagNames) : startTag (name ++ endMark :: rest) = .ok (some ([.start name],rest)) := by
  obtain ⟨_,parts⟩ := nameParts name known
  have head : (name ++ endMark :: rest).head?.any CodePoint.isLetter := by
    obtain ⟨c,n,rfl,letter⟩ := nameHead known
    exact letter
  have run : (name ++ endMark :: rest).takeWhile (fun c => !endsTagName c) = name := by
    rw [List.takeWhile_append_of_pos fun c member => (parts c member).1,List.takeWhile_cons_of_neg (by decide),List.append_nil]
  have named : tagName? (name ++ endMark :: rest) = some (name,endMark :: rest) := by
    rw [tagName?,if_pos head]
    simp only [run,List.drop_left]
  have gap : gapLength (endMark :: rest) = 0 := rfl
  simp only [startTag,named,gap,after,List.drop_zero,if_true,attributesNone]
  simp [startPiece,endMark,nameLowered name known]

theorem pieceStart (known : name ∈ tagNames) : piece (name ++ endMark :: rest) = .ok (some ([.start name],rest)) := by
  have read := @startTagRead _ rest known
  obtain ⟨c,n,rfl,letter⟩ := nameHead known
  have sign : ∀ d : CodePoint, d.isLetter = false → ∀ t : Text, c :: n ++ endMark :: rest = d :: t → False := by
    intro d other t same
    rw [(List.cons.inj same).1,other] at letter
    contradiction
  have head : (c :: n ++ endMark :: rest).head?.any CodePoint.isLetter := letter
  rw [piece,if_pos head,read]
  · rfl
  · exact sign _ (by decide)
  · exact sign _ (by decide)
  · exact sign _ (by decide)

theorem pieceClose (known : name ∈ tagNames) :
    piece (.char '/' :: (name ++ endMark :: rest)) = .ok (some ([.close name],rest)) := by
  obtain ⟨_,parts⟩ := nameParts name known
  have free : endMark ∉ name := fun member => by simpa using (parts endMark member).2.2.1
  have cut : afterMark? (name ++ endMark :: rest) = some rest := by
    rw [afterMark?,Text.cutFirst free]
    rfl
  have run : (name ++ endMark :: rest).takeWhile isEndNamePart = name := by
    rw [List.takeWhile_append_of_pos fun c member => (parts c member).2.1,List.takeWhile_cons_of_neg (by decide),List.append_nil]
  obtain ⟨c,n,rfl,letter⟩ := nameHead known
  have shown : Text.dropBlank (c :: n ++ endMark :: rest) = c :: n ++ endMark :: rest :=
    Text.dropBlankSelf (parts c List.mem_cons_self).2.2.2 _
  have mark : Text.dropBlank (endMark :: rest) = endMark :: rest := Text.dropBlankSelf (by decide) rest
  have plain : plainEndTag? (c :: n ++ endMark :: rest) = some ([.close (c :: n)],rest) := by
    simp only [plainEndTag?,shown,run,List.drop_left,mark]
    simp [letter,endMark,nameLowered _ known]
  show (Except.ok (endTag? (c :: n ++ endMark :: rest)) : Except MarkupError Piece) = _
  rw [endTag?,cut,Option.bind_some,plain]

theorem readStart (known : name ∈ tagNames) (later : Tokenizes rest ts) :
    Tokenizes (opening name ++ rest) (.start name :: ts) := by
  intro fuel enough
  have text : opening name ++ rest = .char '<' :: (name ++ endMark :: rest) := by simp [opening]
  rw [text] at enough ⊢
  cases fuel with
  | zero => contradiction
  | succ fuel =>
    have raw : pastRaw [.start name] rest = rest := by
      rw [pastRaw,(namePlain name known).1]
      rfl
    have read := later fuel (by simp at enough; omega)
    rw [tokensFrom,pieceStart known]
    simp only [bind,Except.bind,raw,read]
    rfl

theorem readClose (known : name ∈ tagNames) (later : Tokenizes rest ts) :
    Tokenizes (closing name ++ rest) (.close name :: ts) := by
  intro fuel enough
  have text : closing name ++ rest = .char '<' :: .char '/' :: (name ++ endMark :: rest) := by simp [closing]
  rw [text] at enough ⊢
  cases fuel with
  | zero => contradiction
  | succ fuel =>
    have read := later fuel (by simp at enough; omega)
    rw [tokensFrom,pieceClose known]
    simp only [bind,Except.bind,pastRaw,read]
    rfl

def Plain (t : Text) : Prop := ∀ c ∈ t, isPlain c
instance (t : Text) : Decidable (Plain t) := by unfold Plain; infer_instance

def textToken (t : Text) : List Token := if t.isEmpty then [] else [.text t]

theorem readText (plain : Plain t) (ends : rest.head? = some (.char '<')) (later : Tokenizes rest ts) :
    Tokenizes (t ++ rest) (textToken t ++ ts) := by
  cases t with
  | nil => exact later
  | cons c t =>
    intro fuel enough
    cases fuel with
    | zero => contradiction
    | succ fuel =>
      have run : (c :: t ++ rest).takeWhile isPlain = c :: t := by
        obtain ⟨r,rfl⟩ := List.head?_eq_some_iff.mp ends
        rw [List.takeWhile_append_of_pos plain,List.takeWhile_cons_of_neg (by decide),List.append_nil]
      have read := later fuel (by simp at enough; omega)
      have sign : ∀ d : CodePoint, isPlain d = false → ∀ r, c :: t ++ rest = d :: r → False := by
        intro d other r same
        have here := plain c List.mem_cons_self
        rw [(List.cons.inj same).1,other] at here
        contradiction
      rw [tokensFrom,run,List.drop_left,read]
      · rfl
      · exact fun none => by simp at none
      · exact sign _ (by decide)
      · exact sign _ (by decide)

end tags

def encloseTokens : List Mark → Text → List Token
  | [],t => textToken t
  | m :: marks,t => .start m.name :: (encloseTokens marks t ++ [.close m.name])

def runTokens (before : Text) : List Run → List Token
  | [] => textToken before
  | r :: runs =>
    if r.marks.isEmpty then runTokens (before ++ r.text) runs
    else textToken before ++ (encloseTokens r.marks r.text ++ runTokens [] runs)

def paragraphTokens (runs : List Run) : List Token := .start "p" :: (runTokens [] runs ++ [.close "p"])

section reading
variable {t rest before : Text} {ts : List Token} {marks : List Mark} {runs : List Run} {paragraphs : List (List Run)}

theorem tagHead (name rest : Text) : (opening name ++ rest).head? = some (.char '<') ∧
    (closing name ++ rest).head? = some (.char '<') :=
  ⟨rfl,rfl⟩

theorem encloseHead (full : marks ≠ []) (t rest : Text) : (enclose marks t ++ rest).head? = some (.char '<') := by
  obtain ⟨m,marks,rfl⟩ := List.exists_cons_of_ne_nil full
  rfl

theorem readEnclosed (plain : Plain t) (m : Mark) (marks : List Mark) (later : Tokenizes rest ts) :
    Tokenizes (enclose (m :: marks) t ++ rest) (encloseTokens (m :: marks) t ++ ts) := by
  induction marks generalizing m rest ts with
  | nil =>
    have inner := readText plain (tagHead m.name rest).2 (readClose (markNamed m) later)
    have whole := readStart (markNamed m) inner
    simpa [enclose,encloseTokens] using whole
  | cons next marks ih =>
    have inner := ih next (readClose (markNamed m) later)
    have whole := readStart (markNamed m) inner
    rw [enclose,encloseTokens]
    simpa using whole

theorem readRuns (plain : Plain before) (each : ∀ r ∈ runs, Plain r.text) (ends : rest.head? = some (.char '<'))
    (later : Tokenizes rest ts) : Tokenizes (before ++ (runs.flatMap Run.html ++ rest)) (runTokens before runs ++ ts) := by
  induction runs generalizing before with
  | nil => exact readText plain ends later
  | cons r runs ih =>
    obtain ⟨here,others⟩ := List.forall_mem_cons.mp each
    rw [List.flatMap_cons,runTokens]
    cases marked : r.marks with
    | nil =>
      have joined : Plain (before ++ r.text) := List.forall_mem_append.mpr ⟨plain,here⟩
      have read := ih joined others
      simpa [Run.html,marked,enclose] using read
    | cons m marks =>
      have nothing : Plain [] := by simp [Plain]
      have read := ih nothing others
      have head := encloseHead (List.cons_ne_nil m marks) r.text (runs.flatMap Run.html ++ rest)
      have inner := readEnclosed here m marks read
      have whole := readText plain head inner
      simpa [Run.html,marked] using whole

theorem readParagraph (each : ∀ r ∈ runs, Plain r.text) (later : Tokenizes rest ts) :
    Tokenizes (paragraph runs ++ rest) (paragraphTokens runs ++ ts) := by
  have known : (["p"] : List Text) ⊆ tagNames := by decide
  have named := known (List.mem_singleton.mpr rfl)
  have nothing : Plain [] := by simp [Plain]
  have inner := readRuns nothing each (tagHead "p" rest).2 (readClose named later)
  have whole := readStart named inner
  simpa [paragraph,paragraphTokens] using whole

theorem readDocument (each : ∀ p ∈ paragraphs, ∀ r ∈ p, Plain r.text) :
    Tokenizes (document paragraphs) (paragraphs.flatMap paragraphTokens) := by
  induction paragraphs with
  | nil =>
    intro fuel enough
    cases fuel with
    | zero => contradiction
    | succ fuel => rfl
  | cons p paragraphs ih =>
    obtain ⟨here,later⟩ := List.forall_mem_cons.mp each
    exact readParagraph here (ih later)

end reading

def textNode (t : Text) : List Node := if t.isEmpty then [] else [.text t]

def encloseNodes : List Mark → Text → List Node
  | [],t => textNode t
  | m :: marks,t => [.element m.name (encloseNodes marks t)]

def runNodes (before : Text) : List Run → List Node
  | [] => textNode before
  | r :: runs =>
    if r.marks.isEmpty then runNodes (before ++ r.text) runs
    else textNode before ++ encloseNodes r.marks r.text ++ runNodes [] runs

def within (frames : List Frame) (top : List Node) : Build := { «open» := frames, top }

def Frame.add (f : Frame) (nodes : List Node) : Frame := { f with children := nodes.reverse ++ f.children }

def Loud (frames : List Frame) : Prop := ∀ f ∈ frames, silentElements.contains f.name = false

section trees
variable {f : Frame} {frames : List Frame} {top : List Node} {b : Build} {t before : Text} {marks : List Mark} {runs : List Run}

theorem settleIdle (idle : b.running = none) : b.settle = b := by
  rw [Build.settle,idle]

theorem settledUnclosed (b : Build) : b.settle.unclosed = b.unclosed := by
  rw [Build.settle]
  split
  · rfl
  · dsimp only
    split
    · rfl
    · rw [Build.add]
      split <;> rfl

theorem textBuild (loud : Loud (f :: frames)) (t : Text) (top : List Node) :
    ((textToken t).foldl Build.token (within (f :: frames) top)).settle = within (f.add (textNode t) :: frames) top := by
  cases t with
  | nil => rfl
  | cons c t =>
    have silent : ((f :: frames).any fun f => silentElements.contains f.name) = false :=
      List.any_eq_false.mpr fun f member => by simpa using loud f member
    show Build.settle { within (f :: frames) top with running := some ([] ++ c :: t) } = _
    rw [Build.settle]
    simp only [Build.isSilent,within,silent]
    rfl

theorem startBuild (settled : b.settle = within frames top) {name : Text} (known : name ∈ tagNames) :
    b.token (.start name) = within (⟨name,[]⟩ :: frames) top := by
  have started : b.start name = within (⟨name,[]⟩ :: frames) top := by
    show { b.settle with «open» := ⟨name,[]⟩ :: b.settle.open } = _
    rw [settled]
    rfl
  rw [Build.token,(namePlain name known).2.1]
  exact started

theorem closeBuild {name : Text} {children : List Node} (settled : b.settle = within (⟨name,children⟩ :: frames) top) :
    b.token (.close name) = (within frames top).add (.element name children.reverse) := by
  have unclosed : b.unclosed = [] := by
    rw [← settledUnclosed,settled]
    rfl
  have innermost : ((within (⟨name,children⟩ :: frames) top).open.findIdx? fun f => f.name = name) = some 0 := by
    rw [within,List.findIdx?_cons,if_pos (by simp)]
  have closed : b.closeElement name = (within frames top).add (.element name children.reverse) := by
    rw [Build.closeElement]
    simp only [settled,innermost]
    rfl
  rw [Build.token,Build.endTag,unclosed]
  exact closed

theorem closeAdded {name : Text} {nodes : List Node}
    (settled : b.settle = within (Frame.add ⟨name,[]⟩ nodes :: f :: frames) top) :
    b.token (.close name) = within (f.add [.element name nodes] :: frames) top := by
  rw [closeBuild settled,List.append_nil,List.reverse_reverse]
  rfl

theorem loudAdd (loud : Loud (f :: frames)) (nodes : List Node) : Loud (f.add nodes :: frames) :=
  List.forall_mem_cons.mpr (List.forall_mem_cons.mp loud)

theorem loudNamed (loud : Loud frames) {name : Text} (known : name ∈ tagNames) : Loud (⟨name,[]⟩ :: frames) :=
  List.forall_mem_cons.mpr ⟨(namePlain name known).2.2.1,loud⟩

theorem encloseBuild (loud : Loud (f :: frames)) (m : Mark) (marks : List Mark) (t : Text)
    (settled : b.settle = within (f :: frames) top) :
    (encloseTokens (m :: marks) t).foldl Build.token b = within (f.add (encloseNodes (m :: marks) t) :: frames) top := by
  induction marks generalizing m f frames b with
  | nil =>
    have enclosed := textBuild (loudNamed loud (markNamed m)) t top
    rw [encloseTokens,List.foldl_cons,List.foldl_append,startBuild settled (markNamed m)]
    exact closeAdded enclosed
  | cons next marks ih =>
    have enclosed := ih (loudNamed loud (markNamed m)) next (settleIdle rfl)
    rw [encloseTokens,List.foldl_cons,List.foldl_append,startBuild settled (markNamed m),enclosed]
    exact closeAdded (settleIdle rfl)

theorem runsBuild (loud : Loud (f :: frames)) (before : Text) (runs : List Run) :
    ((runTokens before runs).foldl Build.token (within (f :: frames) top)).settle =
      within (f.add (runNodes before runs) :: frames) top := by
  induction runs generalizing f before with
  | nil => exact textBuild loud before top
  | cons r runs ih =>
    rw [runTokens,runNodes]
    cases marked : r.marks with
    | nil => exact ih loud (before ++ r.text)
    | cons m marks =>
      have enclosed := encloseBuild (loudAdd loud (textNode before)) m marks r.text (textBuild loud before top)
      have later := ih (loudAdd (loudAdd loud (textNode before)) (encloseNodes (m :: marks) r.text)) []
      rw [List.isEmpty_cons,if_neg Bool.false_ne_true,if_neg Bool.false_ne_true,List.foldl_append,List.foldl_append,
        enclosed,later]
      simp [Frame.add]

theorem paragraphBuild (runs : List Run) :
    (paragraphTokens runs).foldl Build.token (within [] top) = within [] (.element "p" (runNodes [] runs) :: top) := by
  have known : (["p"] : List Text) ⊆ tagNames := by decide
  have named := known (List.mem_singleton.mpr rfl)
  have loud : Loud [⟨"p",[]⟩] := loudNamed (by simp [Loud]) named
  rw [paragraphTokens,List.foldl_cons,List.foldl_append,startBuild (settleIdle rfl) named,List.foldl_cons,List.foldl_nil,
    closeBuild (runsBuild loud [] runs),List.append_nil,List.reverse_reverse]
  rfl

theorem documentBuild (paragraphs : List (List Run)) :
    nodes (paragraphs.flatMap paragraphTokens) = paragraphs.map fun p => .element "p" (runNodes [] p) := by
  have whole : ∀ top, (paragraphs.flatMap paragraphTokens).foldl Build.token (within [] top) =
      within [] ((paragraphs.map fun p => .element "p" (runNodes [] p)).reverse ++ top) := by
    induction paragraphs with
    | nil => intro top; rfl
    | cons p paragraphs ih =>
      intro top
      rw [List.flatMap_cons,List.foldl_append,paragraphBuild,ih]
      simp
  show Build.finish ((paragraphs.flatMap paragraphTokens).foldl Build.token (within [] [])) = _
  rw [whole,List.append_nil]
  exact List.reverse_reverse _

end trees

section shown
variable {t before : Text} {runs : List Run} {paragraphs : List (List Run)}

theorem shownAppend (ns ms : List Node) : shownIn (ns ++ ms) = shownIn ns ++ shownIn ms := by
  induction ns with
  | nil => rfl
  | cons n ns ih => rw [List.cons_append,shownIn,shownIn,ih,List.append_assoc]

theorem shownElement {name : Text} (known : name ∈ tagNames) (children : List Node) :
    shown (.element name children) = shownIn children := by
  rw [shown,(namePlain name known).2.2.2]
  rfl

theorem shownText (t : Text) : shownIn (textNode t) = [t].filter fun t => !t.isEmpty := by
  cases t <;> rfl

theorem shownEnclosed (marks : List Mark) (t : Text) : shownIn (encloseNodes marks t) = [t].filter fun t => !t.isEmpty := by
  induction marks with
  | nil => exact shownText t
  | cons m marks ih => rw [encloseNodes,shownIn,shownElement (markNamed m),ih,shownIn,List.append_nil]

theorem shownRuns (before : Text) (runs : List Run) :
    shownIn (runNodes before runs) = (spans before runs).filter fun t => !t.isEmpty := by
  induction runs generalizing before with
  | nil => exact shownText before
  | cons r runs ih =>
    rw [runNodes,spans]
    split
    · exact ih _
    · rw [shownAppend,shownAppend,ih,shownText,shownEnclosed,← List.filter_append,← List.filter_append]
      rfl

theorem shownParagraphs (paragraphs : List (List Run)) :
    shownIn (paragraphs.map fun p => .element "p" (runNodes [] p)) =
      paragraphs.flatMap fun p => (spans [] p).filter fun t => !t.isEmpty := by
  have known : (["p"] : List Text) ⊆ tagNames := by decide
  induction paragraphs with
  | nil => rfl
  | cons p paragraphs ih =>
    rw [List.map_cons,shownIn,shownElement (known (List.mem_singleton.mpr rfl)),shownRuns,ih]
    rfl

theorem spansFree {mark : CodePoint} (free : mark ∉ before) (each : ∀ r ∈ runs, mark ∉ r.text) :
    ∀ t ∈ spans before runs, mark ∉ t := by
  induction runs generalizing before with
  | nil =>
    rw [spans]
    exact List.forall_mem_singleton.mpr free
  | cons r runs ih =>
    obtain ⟨here,later⟩ := List.forall_mem_cons.mp each
    rw [spans]
    split
    · refine ih ?_ later
      rw [List.mem_append,not_or]
      exact ⟨free,here⟩
    · exact List.forall_mem_cons.mpr ⟨free,List.forall_mem_cons.mpr ⟨here,ih (by simp) later⟩⟩

theorem spansFlatten (before : Text) (runs : List Run) : (spans before runs).flatten = before ++ runs.flatMap Run.text := by
  induction runs generalizing before with
  | nil => rw [spans,List.flatten_singleton]; simp
  | cons r runs ih =>
    rw [spans]
    split
    · rw [ih,List.flatMap_cons,List.append_assoc]
    · rw [List.flatten_cons,List.flatten_cons,ih]
      rfl

theorem documentText (plain : ∀ p ∈ paragraphs, ∀ r ∈ p, Plain r.text)
    (single : ∀ p ∈ paragraphs, ∀ r ∈ p, .char '\n' ∉ r.text) :
    plainText (document paragraphs) = .ok (Text.unlines (paragraphs.flatMap fun p => Text.tidy (spans [] p))) := by
  have read : tokens (document paragraphs) = .ok (paragraphs.flatMap paragraphTokens) :=
    readDocument plain _ (Nat.lt_succ_self _)
  have pieces : ∀ t ∈ paragraphs.flatMap (fun p => (spans [] p).filter fun t => !t.isEmpty), .char '\n' ∉ t := by
    intro t member
    obtain ⟨p,inside,here⟩ := List.mem_flatMap.mp member
    exact spansFree List.not_mem_nil (single p inside) t (List.mem_filter.mp here).1
  rw [plainText,read,Except.map,documentBuild,shownParagraphs]
  show Except.ok (Text.unlines (Text.linesIn _)) = _
  rw [Text.linesUnlines pieces,Text.tidyFlat]

end shown
end TestWeaver.Markup
