import TestWeaver.Proofs.Naming.Classes
import TestWeaver.Proofs.Steps.Functions

/-! The members of a page. Whatever a selector holds, the constant and the method derived from it are
identifiers, and they clash with nothing: constants are in capitals and end in the number of their action,
methods begin with a verb in small letters that tells their kind. -/
namespace TestWeaver.Page
open Naming

def isUnderscore (c : CodePoint) : Bool := c == .char '_'

/- A name that a member can have: letters, digits and underscores of ASCII, no digit first, and no word that the
language keeps to itself. -/
structure Identifier (name : Text) : Prop where
  first : ∃ c rest, name = c :: rest ∧ (c.isLetter ∨ isUnderscore c)
  signs : ∀ c ∈ name, c.isAlnum ∨ isUnderscore c
  free : name ∉ Steps.languageWords

def ownMembers : List Text := ["PAGE_PATH","__init__","_locate"]

structure SpokenName (name : Text) : Prop where
  first : ∃ c rest, name = c :: rest ∧ c.isAlnum
  signs : ∀ c ∈ name, isSpokenSign c
  last : name.getLast? ≠ some (.char ' ')
  single : ¬ Text.ofString "  " <:+: name

def saidOf : Kind → Text
  | .navigate => "user navigates to page"
  | .click => "user clicks on "
  | .fill => "user enters text into "
  | .select => "user selects option from "
  | .check => "user checks "
  | .press => "user presses key on "

structure Sound (a : Action) : Prop where
  constant : Identifier a.names.constant
  method : Identifier a.names.method
  own : a.names.constant ∉ ownMembers ∧ a.names.method ∉ ownMembers
  phrase : a.kind ≠ .navigate → ∃ name, a.names.phrase = saidOf a.kind ++ name ∧ SpokenName name

structure Unmixed (a b : Action) : Prop where
  constants : a.id.isSame b.id = false → a.names.constant ≠ b.names.constant
  methods : a.kind ≠ b.kind → a.names.method ≠ b.names.method
  crossed : a.names.constant ≠ b.names.method

section constants
variable {name t : Text} {c : CodePoint}

theorem pascalHead {raw : Text} (member : c ∈ clean raw) (alnum : c.isAlnum) :
    ∃ d rest, pascal (clean raw) = d :: rest ∧ (d.isCapital ∨ d.isDigit) := by
  obtain ⟨word,found,_⟩ := Text.memRuns (p := fun c => !c.isBlank) member (by simp [CodePoint.notBlankOfAlnum alnum])
  cases words : (clean raw).words with
  | nil =>
    rw [Text.words] at words
    simp [words] at found
  | cons first others =>
    obtain ⟨full,signs⟩ := wordOfCleanAlnum (words ▸ List.mem_cons_self : first ∈ (clean raw).words)
    obtain ⟨d,rest,head,sort⟩ := capitalizedHead full signs
    exact ⟨d,rest ++ (others.map capitalized).flatten,by rw [pascal,words,List.map_cons,List.flatten_cons,head]; rfl,sort⟩

theorem readableHead (selector : Text) : ∃ c rest, readable selector = c :: rest ∧ c.isCapital := by
  unfold readable
  simp only
  split
  · exact ⟨.char 'E',"lement",rfl,by decide⟩
  · split
    · exact ⟨.char 'N',_,rfl,by decide⟩
    · rename_i mixed
      split
      · exact ⟨.char 'E',_,rfl,by decide⟩
      · rename_i plain
        simp only [List.all_eq_true,Classical.not_forall] at mixed
        obtain ⟨c,kept,_⟩ := mixed
        obtain ⟨inside,other⟩ := List.mem_filter.mp kept
        obtain ⟨d,rest,begins,sort⟩ := pascalHead inside ((cleanWithin inside).resolve_right (by simpa using other))
        rw [begins] at plain ⊢
        exact ⟨d,rest,rfl,sort.resolve_right (by simpa using plain)⟩

theorem readableOfHead (a : Action) : ∃ c rest, readableOf a = c :: rest ∧ c.isCapital := by
  unfold readableOf
  split
  · exact ⟨.char 'P',"age",rfl,by decide⟩
  · exact readableHead a.target

theorem readableOfAlnum (a : Action) : Alnum (readableOf a) := by
  unfold readableOf
  split
  · decide
  · exact readableAlnum a.target

theorem upperAscii (ascii : ∀ c ∈ t, c.value < 0x80) : t.upper = t.map CodePoint.capital := by
  induction t with
  | nil => rfl
  | cons c t ih =>
    obtain ⟨here,later⟩ := List.forall_mem_cons.mp ascii
    rw [Text.upper,List.flatMap_cons,CodePoint.upper,if_pos here,List.map_cons,← ih later]
    rfl

theorem capitalSign (sign : c.isAlnum ∨ c = .char '_') : c.value < 0x80 ∧
    (c.capital.isCapital ∨ c.capital.isDigit ∨ isUnderscore c.capital) := by
  rcases sign with alnum | rfl
  · exact ⟨CodePoint.alnumAscii alnum,(CodePoint.capitalOfAlnum alnum).imp_right .inl⟩
  · decide

theorem upperSnakeSigns (alnum : Alnum name) (head : ∃ c rest, name = c :: rest ∧ c.isCapital) :
    (∃ c rest, upperSnake name = c :: rest ∧ c.isCapital) ∧
      ∀ c ∈ upperSnake name, c.isCapital ∨ c.isDigit ∨ isUnderscore c := by
  have signs : ∀ c ∈ separate (.char '_') risesAfter name, c.isAlnum ∨ c = .char '_' :=
    fun c member => (memSeparate member).symm.imp_left (alnum c)
  have upper : upperSnake name = (separate (.char '_') risesAfter name).map CodePoint.capital :=
    upperAscii fun c member => (capitalSign (signs c member)).1
  rw [upper]
  constructor
  · obtain ⟨c,rest,rfl,capital⟩ := head
    obtain ⟨more,begins⟩ := separateHead risesAfter (.char '_') c rest
    exact ⟨c,more.map CodePoint.capital,by rw [begins,List.map_cons,(capitalSelf capital).1],capital⟩
  · intro c member
    obtain ⟨d,inside,rfl⟩ := List.mem_map.mp member
    exact (capitalSign (signs d inside)).2

theorem constantMarked (name id : Text) : Naming.constant name id = upperSnake name ++ .char '_' :: id := by
  simp [Naming.constant,Text.ofString]

theorem alnumOfCapital (sign : c.isCapital ∨ c.isDigit ∨ isUnderscore c) : c.isAlnum ∨ isUnderscore c := by
  rcases sign with capital | digit | mark
  · exact .inl (capitalAlnum capital)
  · exact .inl (by simp [CodePoint.isAlnum,digit])
  · exact .inr mark

theorem constantHead (a : Action) : ∃ c rest, (names a).constant = c :: rest ∧ c.isCapital := by
  obtain ⟨⟨c,rest,begins,capital⟩,_⟩ := upperSnakeSigns (readableOfAlnum a) (readableOfHead a)
  exact ⟨c,rest ++ .char '_' :: a.id.text,by rw [names,constantMarked,begins]; rfl,capital⟩

theorem constantIdentifier {a : Action} (integer : a.id.IsInteger) : Identifier (names a).constant := by
  obtain ⟨c,rest,begins,capital⟩ := constantHead a
  have marked : (names a).constant = upperSnake (readableOf a) ++ .char '_' :: a.id.text := constantMarked _ _
  refine ⟨⟨c,rest,begins,.inl (by simp [CodePoint.isLetter,capital])⟩,?_,fun word => ?_⟩
  · rw [marked]
    refine List.forall_mem_append.mpr ⟨fun c member => ?_,List.forall_mem_cons.mpr ⟨.inr rfl,fun c member => ?_⟩⟩
    · exact alnumOfCapital ((upperSnakeSigns (readableOfAlnum a) (readableOfHead a)).2 c member)
    · exact .inl (Ordinal.integerSigns integer c member)
  · have plain : ∀ word ∈ Steps.languageWords, CodePoint.char '_' ∉ word := by decide
    exact plain _ word (by rw [marked]; simp)

theorem constantOwn {a : Action} (integer : a.id.IsInteger) : (names a).constant ∉ ownMembers := by
  obtain ⟨c,rest,begins,capital⟩ := constantHead a
  have path : a.id.text ≠ "PATH" := by
    intro same
    have letter : CodePoint.char 'P' ∈ a.id.text := by rw [same]; decide
    cases number : a.id with
    | real x => rw [number] at integer; exact integer.elim
    | truth => rw [number] at same; exact absurd same (by decide)
    | whole n => rw [number] at letter; exact absurd (Text.ofNatDigits letter) (by decide)
  have marked : (names a).constant = upperSnake (readableOf a) ++ .char '_' :: a.id.text := constantMarked _ _
  intro member
  rcases List.mem_cons.mp member with same | others
  · rw [marked] at same
    exact path (Text.lastPartUnique (b := "PAGE") (y := "PATH") (Ordinal.textOfInteger integer) (by decide) same).2
  · have heads : ∀ name ∈ ([.ofString "__init__","_locate"] : List Text), ∀ c ∈ name.head?, c.isCapital = false := by decide
    have low := heads _ others c (by rw [begins]; rfl)
    rw [capital] at low
    contradiction

end constants

section methods
variable {name old : Text} {c : CodePoint} {kind other : Kind}

def verbs : Kind → List Text
  | .navigate => [navigationMethod]
  | .click => ["click"]
  | .fill => ["search","enter"]
  | .select => ["select"]
  | .check => ["toggle","check"]
  | .press => ["pressKeyOn"]

def OfKind (kind : Kind) (name : Text) : Prop := ∃ verb ∈ verbs kind, ∃ rest, Alnum rest ∧ name = verb ++ rest

theorem memReplace {t : Text} {n : Nat} (member : c ∈ Text.replaceFrom old [] n t) : c ∈ t := by
  induction t generalizing n with
  | nil => cases n <;> exact member
  | cons d t ih =>
    cases n with
    | succ n => exact List.mem_cons_of_mem d (ih member)
    | zero =>
      unfold Text.replaceFrom at member
      split at member
      · exact List.mem_cons_of_mem d (ih member)
      · rcases List.mem_cons.mp member with rfl | later
        · exact List.mem_cons_self
        · exact List.mem_cons_of_mem d (ih later)

theorem withoutAlnum (words : List Text) {word : Text} (spare : Alnum word) (alnum : Alnum name) :
    Alnum (without words word name) := by
  have left : Alnum (words.foldl (fun t w => t.replace w []) name) := by
    induction words generalizing name with
    | nil => exact alnum
    | cons w words ih => exact ih fun c member => alnum c (memReplace member)
  unfold without
  simp only
  split
  · exact spare
  · exact left

theorem fillOfKind (alnum : Alnum name) : OfKind .fill (fillMethod name) := by
  unfold fillMethod
  simp only
  split
  · exact ⟨"search",by decide,_,withoutAlnum ["Search"] (by decide) alnum,rfl⟩
  · split
    · exact ⟨"enter",by decide,"Email",by decide,rfl⟩
    · split
      · exact ⟨"enter",by decide,"Password",by decide,rfl⟩
      · split
        · exact ⟨"enter",by decide,"Username",by decide,rfl⟩
        · exact ⟨"enter",by decide,name,alnum,rfl⟩

theorem checkOfKind (alnum : Alnum name) : OfKind .check (checkMethod name) := by
  unfold checkMethod
  simp only
  split
  · exact ⟨"toggle",by decide,_,withoutAlnum ["Toggle","Switch"] (by decide) alnum,rfl⟩
  · exact ⟨"check",by decide,name,alnum,rfl⟩

theorem methodOfKind {a : Action} (integer : a.id.IsInteger) : OfKind a.kind (names a).method := by
  have alnum : Alnum (if readableOf a = "Value" then "Field" ++ a.id.text else readableOf a) := by
    split
    · exact behindAlnum (by decide) (Ordinal.integerSigns integer)
    · exact readableOfAlnum a
  unfold names method
  simp only
  cases a.kind with
  | navigate => exact ⟨navigationMethod,by decide,[],by decide,rfl⟩
  | click => exact ⟨"click",by decide,_,alnum,rfl⟩
  | fill => exact fillOfKind alnum
  | select => exact ⟨"select",by decide,_,alnum,rfl⟩
  | check => exact checkOfKind alnum
  | press => exact ⟨"pressKeyOn",by decide,_,alnum,rfl⟩

theorem verbSigns : ∀ verb ∈ verbs kind, Alnum verb ∧ (∃ c ∈ verb.head?, c.isSmall) ∧
    ∀ word ∈ Steps.languageWords, ¬ verb <+: word := by
  cases kind <;> decide +kernel

theorem verbsApart (differ : kind ≠ other) : ∀ left ∈ verbs kind, ∀ right ∈ verbs other, Text.Apart left right := by
  revert differ
  cases kind <;> cases other <;> decide +kernel

theorem ofKindHead (made : OfKind kind name) : ∃ c rest, name = c :: rest ∧ c.isSmall := by
  obtain ⟨verb,member,rest,_,rfl⟩ := made
  obtain ⟨_,⟨c,first,small⟩,_⟩ := verbSigns verb member
  obtain ⟨more,rfl⟩ := List.head?_eq_some_iff.mp first
  exact ⟨c,more ++ rest,rfl,small⟩

theorem ofKindIdentifier (made : OfKind kind name) : Identifier name := by
  obtain ⟨c,more,begins,small⟩ := ofKindHead made
  obtain ⟨verb,member,rest,alnum,rfl⟩ := made
  obtain ⟨signs,_,free⟩ := verbSigns verb member
  exact ⟨⟨c,more,begins,.inl (by simp [CodePoint.isLetter,small])⟩,fun c inside => .inl (behindAlnum signs alnum c inside),
    fun word => free _ word (List.prefix_append verb rest)⟩

theorem ofKindOwn (made : OfKind kind name) : name ∉ ownMembers := by
  obtain ⟨c,rest,begins,small⟩ := ofKindHead made
  have heads : ∀ name ∈ ownMembers, ∀ c ∈ name.head?, c.isSmall = false := by decide
  intro member
  have large := heads name member c (by rw [begins]; rfl)
  rw [small] at large
  contradiction

theorem ofKindsDiffer {name : Text} (made : OfKind kind name) (again : OfKind other name) : kind = other := by
  by_contra differ
  obtain ⟨verb,member,rest,_,rfl⟩ := made
  obtain ⟨next,listed,more,_,same⟩ := again
  exact Text.apartNoPrefix (verbsApart differ verb member next listed) rest ⟨more,same.symm⟩

end methods

section spoken
variable {name : Text}

theorem spokenNamed (alnum : Alnum name) (full : name ≠ []) : SpokenName (spoken name) := by
  have same := spokenSeparated alnum
  have risen := separatedRisen alnum
  rw [← same] at risen
  refine ⟨?_,spokenWithin alnum,fun last => ?_,fun twice => ?_⟩
  · cases whole : spoken name with
    | nil =>
      obtain ⟨c,member,_⟩ := spokenHasWord alnum full
      rw [whole] at member
      contradiction
    | cons c rest => exact ⟨c,rest,rfl,separatedHead alnum (by rw [← same,whole]; rfl)⟩
  · obtain ⟨front,whole⟩ := List.getLast?_eq_some_iff.mp last
    obtain ⟨_,_,empty,_⟩ := risen front [] whole
    contradiction
  · obtain ⟨front,back,whole⟩ := twice
    obtain ⟨c,_,next,small⟩ := risen front (.char ' ' :: back) (by rw [← whole]; simp [Text.ofString])
    rw [← (List.cons.inj next).1] at small
    exact absurd small (by decide)

theorem phraseSaid (a : Action) (onElement : a.kind ≠ .navigate) :
    ∃ name, (names a).phrase = saidOf a.kind ++ name ∧ SpokenName name := by
  obtain ⟨c,rest,begins,_⟩ := readableOfHead a
  refine ⟨spoken (readableOf a),?_,spokenNamed (readableOfAlnum a) (by rw [begins]; exact List.cons_ne_nil c rest)⟩
  unfold names phrase saidOf
  cases kind : a.kind with
  | navigate => contradiction
  | click | fill | select | check | press => rfl

end spoken

theorem membersSound {a b : Action} (left : a.id.IsInteger) (right : b.id.IsInteger) :
    Sound a.resolve ∧ Unmixed a.resolve b.resolve := by
  refine ⟨⟨constantIdentifier left,ofKindIdentifier (methodOfKind left),
    ⟨constantOwn left,ofKindOwn (methodOfKind left)⟩,phraseSaid a⟩,constantsDiffer left right,?_,?_⟩
  · intro differ same
    have one : OfKind a.kind (names a).method := methodOfKind left
    have next : OfKind b.kind (names b).method := methodOfKind right
    rw [show (names a).method = (names b).method from same] at one
    exact differ (ofKindsDiffer one next)
  · intro same
    obtain ⟨c,rest,begins,capital⟩ := constantHead a
    obtain ⟨d,more,opens,small⟩ := ofKindHead (methodOfKind right)
    have heads : c :: rest = d :: more := begins.symm.trans (Eq.trans same opens)
    rw [(List.cons.inj heads).1] at capital
    have apart : ∀ n < 128, (CodePoint.char (Char.ofNat n)).isCapital → (CodePoint.char (Char.ofNat n)).isSmall = false := by
      decide +kernel
    have low := CodePoint.asciiForall (P := fun d => d.isCapital → d.isSmall = false) apart
      (CodePoint.alnumAscii (capitalAlnum capital)) capital
    rw [small] at low
    contradiction

def numberedSearch : Action := {
  id := .whole 2, kind := .fill, selector := some "label=Search 2", id_counts := rfl,
  selector_given := fun _ => ⟨_,rfl,by decide⟩ }

def digitSwitch : Action := {
  id := .whole 3, kind := .check, selector := some "#2fa-switch", id_counts := rfl,
  selector_given := fun _ => ⟨_,rfl,by decide⟩ }

theorem switchSound : numberedSearch.id.IsInteger ∧ digitSwitch.id.IsInteger ∧
    numberedSearch.resolve.names.method = "search2" ∧ digitSwitch.resolve.names.constant = "ELEMENT2FA_SWITCH_3" ∧
    Sound digitSwitch.resolve ∧ Unmixed digitSwitch.resolve numberedSearch.resolve := by
  have search : numberedSearch.id.IsInteger := by decide
  have switch : digitSwitch.id.IsInteger := by decide
  exact ⟨search,switch,by decide +kernel,by decide +kernel,membersSound switch search⟩

end TestWeaver.Page
