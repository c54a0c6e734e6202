import TestWeaver.Proofs.Naming.Classes
import TestWeaver.Proofs.Steps.Names
import TestWeaver.Proofs.Text.Reading
import TestWeaver.Naming.Readable

/-! Names that are spelled from words. A name that is read to an earlier end has the words of the whole name up to there,
and it is spelled like the whole name just when all words stay the same. -/
namespace TestWeaver

namespace Text
section runs
variable {p : CodePoint → Bool} {run t r : Text}

theorem runsGrow (full : run ≠ []) : ∃ x tail, runs.go p run r = (run.reverse ++ x) :: tail := by
  induction r generalizing run with
  | nil => exact ⟨[],[],by simp [runs.go,full]⟩
  | cons c r ih =>
    rw [runs.go]
    split
    · obtain ⟨x,tail,grown⟩ := ih (List.cons_ne_nil c run)
      exact ⟨c :: x,tail,by rw [grown]; simp⟩
    · exact ⟨[],runs.go p [] r,by simp [full]⟩

theorem runsLonger (some : run ≠ [] ∨ ∃ c ∈ t, p c) : ∃ front last x tail,
    runs.go p run t = front ++ [last] ∧ runs.go p run (t ++ r) = front ++ (last ++ x) :: tail := by
  induction t generalizing run with
  | nil =>
    have full : run ≠ [] := some.resolve_right nofun
    obtain ⟨x,tail,grown⟩ := runsGrow (p := p) (r := r) full
    exact ⟨[],run.reverse,x,tail,by simp [runs.go,full],grown⟩
  | cons c t ih =>
    rw [List.cons_append,runs.go,runs.go]
    by_cases accepted : p c
    · rw [if_pos accepted,if_pos accepted]
      exact ih (.inl (List.cons_ne_nil c run))
    rw [if_neg accepted,if_neg accepted]
    have later : run = [] → ∃ d ∈ t, p d := by
      intro none
      obtain ⟨d,member,found⟩ := some.resolve_left (not_not_intro none)
      rcases List.mem_cons.mp member with rfl | inside
      · exact absurd found accepted
      · exact ⟨d,inside,found⟩
    cases run with
    | nil => exact ih (.inr (later rfl))
    | cons d run =>
      -- the run at hand is the last one unless an accepted sign comes later
      by_cases more : ∃ d ∈ t, p d
      · obtain ⟨front,last,x,tail,short,long⟩ := @ih [] (.inr more)
        refine ⟨(d :: run).reverse :: front,last,x,tail,?_,?_⟩
        · simp [short]
        · simp [long]
      · have none : runs.go p [] t = [] := by
          refine runsBlank (t := []) (fun c member => ?_) []
          exact Bool.eq_false_iff.mpr fun found => more ⟨c,member,found⟩
        exact ⟨[],(d :: run).reverse,[],runs.go p [] (t ++ r),by simp [none],by simp⟩

end runs
end Text

namespace Naming

def spelledName (words : List Text) : Text :=
  if words.flatten.all CodePoint.isDigit then "Number" ++ words.flatten
  else if (words.map capitalized).flatten.head?.any CodePoint.isDigit then "Element" ++ (words.map capitalized).flatten
  else (words.map capitalized).flatten

def Words (W : List Text) : Prop := ∀ word ∈ W, word ≠ [] ∧ Alnum word

section words
variable {raw name more : Text} {V W : List Text}

theorem cleanCases (raw : Text) : cleanWords raw = alnumWords raw ∨
    cleanWords raw = (alnumWords raw).dropLast ∧ 2 ≤ (alnumWords raw).length := by
  unfold cleanWords
  simp only
  split
  · split
    · rename_i control
      exact .inr ⟨rfl,control.1⟩
    · exact .inl rfl
  · rename_i none
    exact .inl (List.getLast?_eq_none_iff.mp none).symm

theorem cleanFull (shows : ∃ c ∈ name, c.isAlnum) : cleanWords name ≠ [] := by
  obtain ⟨c,member,alnum⟩ := shows
  obtain ⟨word,found,_⟩ := Text.memRuns (p := CodePoint.isAlnum) member alnum
  intro empty
  rcases cleanCases name with whole | ⟨dropped,many⟩
  · rw [alnumWords] at whole
    rw [← whole,empty] at found
    contradiction
  · have short := congrArg List.length dropped
    rw [empty,List.length_dropLast,List.length_nil] at short
    omega

theorem cleanLonger (shows : ∃ c ∈ name, c.isAlnum) (more : Text) : ∃ front last x, 0 < last.length ∧
    (cleanWords name = front ∨ cleanWords name = front ++ [last]) ∧
    (cleanWords (name ++ more) = front ∨ ∃ later, cleanWords (name ++ more) = front ++ (last ++ x) :: later) := by
  obtain ⟨front,last,x,tail,short,long⟩ : ∃ front last x tail, alnumWords name = front ++ [last] ∧
      alnumWords (name ++ more) = front ++ (last ++ x) :: tail := Text.runsLonger (.inr shows)
  refine ⟨front,last,x,?_,?_,?_⟩
  · exact List.length_pos_iff.mpr (Text.runsWithin (short ▸ List.mem_append_right _ List.mem_cons_self : last ∈ alnumWords name)).1
  · rcases cleanCases name with whole | ⟨dropped,_⟩
    · exact .inr (whole.trans short)
    · exact .inl (by rw [dropped,short,List.dropLast_concat])
  · rcases cleanCases (name ++ more) with whole | ⟨dropped,_⟩
    · exact .inr ⟨tail,whole.trans long⟩
    · rw [dropped,long]
      rcases List.eq_nil_or_concat tail with rfl | ⟨later,word,rfl⟩
      · exact .inl List.dropLast_concat
      · rw [List.concat_eq_append]
        exact .inr ⟨later,by rw [← List.cons_append,← List.append_assoc,List.dropLast_concat]⟩

theorem cleanSame (shows : ∃ c ∈ name, c.isAlnum)
    (same : (cleanWords name).flatten.length = (cleanWords (name ++ more)).flatten.length) :
    cleanWords name = cleanWords (name ++ more) := by
  obtain ⟨front,last,x,full,first,second⟩ := cleanLonger shows more
  rcases first with first | first <;> rcases second with second | ⟨later,second⟩
  · rw [first,second]
  · rw [first,second] at same
    simp only [List.flatten_append,List.flatten_cons,List.length_append] at same
    omega
  · rw [first,second] at same
    simp only [List.flatten_append,List.flatten_cons,List.length_append] at same
    omega
  · have grown : ∀ word ∈ later, 0 < word.length := fun word member =>
      List.length_pos_iff.mpr (cleanWordsWithin
        (second ▸ List.mem_append_right _ (List.mem_cons_of_mem _ member) : word ∈ cleanWords (name ++ more))).1
    rw [first,second] at same ⊢
    simp only [List.flatten_append,List.flatten_cons,List.flatten_nil,List.length_append,List.append_nil] at same
    obtain rfl : x = [] := List.length_eq_zero_iff.mp (by omega)
    cases later with
    | nil => rw [List.append_nil]
    | cons word later =>
      have := grown word List.mem_cons_self
      simp only [List.flatten_cons,List.length_append] at same
      omega

theorem cleanHeads (shows : ∃ c ∈ name, c.isAlnum) (more : Text) :
    ∃ c s t, (cleanWords name).flatten = c :: s ∧ (cleanWords (name ++ more)).flatten = c :: t := by
  have some := cleanFull shows
  have others : cleanWords (name ++ more) ≠ [] := by
    obtain ⟨c,member,alnum⟩ := shows
    exact cleanFull ⟨c,List.mem_append_left _ member,alnum⟩
  have words : ∀ word ∈ cleanWords name, word ≠ [] := fun word member => (cleanWordsWithin member).1
  obtain ⟨front,last,x,full,first,second⟩ := cleanLonger shows more
  obtain ⟨d,rest,shape⟩ := List.exists_cons_of_length_pos full
  cases front with
  | nil =>
    have short := first.resolve_left some
    obtain ⟨later,long⟩ := second.resolve_left others
    exact ⟨d,rest,rest ++ x ++ later.flatten,by rw [short,shape]; simp,by rw [long,shape]; simp⟩
  | cons word front =>
    have given : word ∈ cleanWords name := by rcases first with first | first <;> simp [first]
    obtain ⟨c,t,rfl⟩ := List.exists_cons_of_ne_nil (words word given)
    refine ⟨c,(cleanWords name).flatten.tail,(cleanWords (name ++ more)).flatten.tail,?_,?_⟩
    · rcases first with first | first <;> simp [first]
    · rcases second with second | ⟨later,second⟩ <;> simp [second]

theorem wordsThen {c : CodePoint} {word t : Text} (full : word ≠ []) (alnum : Alnum word) (blank : c.isBlank) :
    Text.words (word ++ c :: t) = word :: Text.words t := by
  have whole : Text.runs.go (fun c => !c.isBlank) [] word = [word] :=
    Text.runsAll (fun c member => by simp [CodePoint.notBlankOfAlnum (alnum c member)]) (.inr full)
  rw [Text.words,Text.runs,Text.runsBehind (by simp [blank]),whole]
  rfl

theorem wordsJoined (words : Words W) : (Text.join " " W).words = W := by
  induction W with
  | nil => rfl
  | cons word W ih =>
    obtain ⟨⟨full,alnum⟩,later⟩ := List.forall_mem_cons.mp words
    cases W with
    | nil =>
      rw [Text.joinSingle]
      exact Text.runsAll (fun c member => by simp [CodePoint.notBlankOfAlnum (alnum c member)]) (.inr full)
    | cons next W =>
      have space : Text.join " " (word :: next :: W) = word ++ .char ' ' :: Text.join " " (next :: W) := by
        rw [Text.joinCons,List.append_assoc]
        rfl
      rw [space,wordsThen full alnum (by decide),ih later]

theorem joinedSigns (words : Words W) : (Text.join " " W).filter (· != .char ' ') = W.flatten := by
  have kept : ∀ word, Alnum word → word.filter (· != .char ' ') = word := by
    intro word alnum
    refine List.filter_eq_self.mpr fun c member => bne_iff_ne.mpr ?_
    rintro rfl
    exact absurd (alnum _ member) (by decide)
  induction W with
  | nil => rfl
  | cons word W ih =>
    obtain ⟨⟨_,alnum⟩,later⟩ := List.forall_mem_cons.mp words
    cases W with
    | nil => rw [Text.joinSingle,kept word alnum,List.flatten_singleton]
    | cons next W =>
      rw [Text.joinCons,List.filter_append,List.filter_append,kept word alnum,ih later,List.flatten_cons]
      exact congrArg (· ++ _) (List.append_nil word)

theorem readableSpelled (selector : Text) (full : cleanWords (rawName selector) ≠ []) :
    readable selector = spelledName (cleanWords (rawName selector)) := by
  have words : Words (cleanWords (rawName selector)) := fun word member => cleanWordsWithin member
  have some : clean (rawName selector) ≠ [] := by
    obtain ⟨word,W,shape⟩ := List.exists_cons_of_ne_nil full
    intro empty
    rw [clean] at empty
    have flat := joinedSigns words
    rw [empty,shape,List.flatten_cons] at flat
    exact (words word (shape ▸ List.mem_cons_self)).1 (List.append_eq_nil_iff.mp flat.symm).1
  have joined : (clean (rawName selector)).filter (· != .char ' ') = (cleanWords (rawName selector)).flatten := joinedSigns words
  have capital : pascal (clean (rawName selector)) = ((cleanWords (rawName selector)).map capitalized).flatten := by
    rw [pascal,clean,wordsJoined words]
  simp only [readable]
  rw [if_neg (by simpa using some),joined,capital,spelledName]

theorem capitalizedLength (words : Words W) : (W.map capitalized).flatten.length = W.flatten.length := by
  induction W with
  | nil => rfl
  | cons word W ih =>
    obtain ⟨⟨full,alnum⟩,later⟩ := List.forall_mem_cons.mp words
    obtain ⟨c,t,rfl⟩ := List.exists_cons_of_ne_nil full
    rw [List.map_cons,List.flatten_cons,List.flatten_cons,List.length_append,List.length_append,ih later,capitalizedCons alnum]
    simp

theorem capitalizedDigit (words : Words W) :
    (W.map capitalized).flatten.head?.any CodePoint.isDigit = W.flatten.head?.any CodePoint.isDigit := by
  cases W with
  | nil => rfl
  | cons word W =>
    obtain ⟨full,alnum⟩ := words word List.mem_cons_self
    obtain ⟨c,t,rfl⟩ := List.exists_cons_of_ne_nil full
    have sign := alnumForall (P := fun c => c.capital.isDigit = c.isDigit) (alnum c List.mem_cons_self) (by decide +kernel)
    rw [List.map_cons,List.flatten_cons,List.flatten_cons,capitalizedCons alnum]
    exact sign

theorem spelledShape {c : CodePoint} {t : Text} (words : Words W) (front : W.flatten = c :: t) :
    c.isDigit = false ∧ spelledName W = (W.map capitalized).flatten ∨
    c.isDigit ∧ (spelledName W = "Number" ++ W.flatten ∨ spelledName W = "Element" ++ (W.map capitalized).flatten) := by
  have first : (W.map capitalized).flatten.head?.any CodePoint.isDigit = c.isDigit := by
    rw [capitalizedDigit words,front]
    rfl
  unfold spelledName
  rw [first]
  cases digit : c.isDigit with
  | false =>
    have mixed : W.flatten.all CodePoint.isDigit = false := by simp [front,digit]
    exact .inl ⟨rfl,by rw [mixed]; rfl⟩
  | true =>
    refine .inr ⟨rfl,?_⟩
    split
    · exact .inl rfl
    · exact .inr rfl

/- Names that are spelled alike from words that begin alike have as many signs in their words. -/
theorem spelledLength {c : CodePoint} {s t : Text} (left : Words V) (right : Words W) (front : V.flatten = c :: s)
    (other : W.flatten = c :: t) (same : spelledName V = spelledName W) : V.flatten.length = W.flatten.length := by
  have capitals := capitalizedLength left
  have others := capitalizedLength right
  rcases spelledShape left front with ⟨letter,first⟩ | ⟨digit,first⟩
  · rcases spelledShape right other with ⟨_,second⟩ | ⟨digit,_⟩
    · rw [first,second] at same
      rw [← capitals,← others,same]
    · rw [letter] at digit
      contradiction
  · rcases spelledShape right other with ⟨letter,_⟩ | ⟨_,second⟩
    · rw [letter] at digit
      contradiction
    rcases first with first | first <;> rcases second with second | second <;> rw [first,second] at same
    · exact congrArg List.length (List.append_cancel_left same)
    · exact absurd (congrArg List.head? same) (by simp [Text.ofString])
    · exact absurd (congrArg List.head? same) (by simp [Text.ofString])
    · rw [← capitals,← others,List.append_cancel_left same]

theorem rawText (full : name ≠ []) : rawName ("text=" ++ name) = name := by
  have found : Rule.extract? .text ("text=" ++ name) = some name := Text.afterLeadSelf "text=" name
  rw [rawName,Rule.all,List.findSome?_cons,found,Option.filter_some,if_pos (by simpa using full)]
  rfl

theorem readableCleaned {selector other : Text} (same : cleanWords (rawName selector) = cleanWords (rawName other)) :
    readable selector = readable other := by
  have cleaned : clean (rawName selector) = clean (rawName other) := congrArg (Text.join " ") same
  simp only [readable,cleaned]

theorem readableLonger (shows : ∃ c ∈ name, c.isAlnum) (more : Text) :
    readable ("text=" ++ name) = readable ("text=" ++ (name ++ more)) ↔ cleanWords name = cleanWords (name ++ more) := by
  obtain ⟨c,member,alnum⟩ := shows
  have raw : rawName ("text=" ++ name) = name := rawText (List.ne_nil_of_mem member)
  have longer : rawName ("text=" ++ (name ++ more)) = name ++ more :=
    rawText (List.ne_nil_of_mem (List.mem_append_left _ member))
  constructor
  · intro same
    have some : cleanWords (rawName ("text=" ++ name)) ≠ [] := by
      rw [raw]
      exact cleanFull ⟨c,member,alnum⟩
    have others : cleanWords (rawName ("text=" ++ (name ++ more))) ≠ [] := by
      rw [longer]
      exact cleanFull ⟨c,List.mem_append_left _ member,alnum⟩
    rw [readableSpelled _ some,readableSpelled _ others,raw,longer] at same
    obtain ⟨_,_,_,front,other⟩ := cleanHeads ⟨c,member,alnum⟩ more
    exact cleanSame ⟨c,member,alnum⟩ (spelledLength (fun _ => cleanWordsWithin) (fun _ => cleanWordsWithin) front other same)
  · intro same
    exact readableCleaned (by rw [raw,longer,same])

end words
end Naming
end TestWeaver
