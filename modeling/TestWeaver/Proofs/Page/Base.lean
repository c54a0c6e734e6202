import TestWeaver.Page.Path
import TestWeaver.Proofs.Text.Parts

/-! The path of a page under a base address. The base is taken off wherever its signs begin the address, also where a
longer host or a longer folder goes on behind them; any other address keeps its own path and query. -/
namespace TestWeaver.Page

structure Address (url : Text) where
  scheme : Text
  authority : Text
  folders : Text
  segment : Text
  parameters : Text
  asked : Text
  query : Text
  fragment : Text
  known : scheme ∈ schemes
  whole : (url.filter fun c => !Url.isWrap c) =
    scheme ++ ("//" ++ (authority ++ (folders ++ (segment ++ (parameters ++ (asked ++ fragment))))))
  host : ∀ c ∈ authority, Url.endsAuthority c = false
  rooted : folders = [] ∧ segment = [] ∧ parameters = [] ∨ folders.head? = some (.char '/') ∧ folders.getLast? = some (.char '/')
  inside : ∀ c ∈ folders ++ segment ++ parameters, c ≠ .char '?' ∧ c ≠ .char '#'
  last : ∀ c ∈ segment ++ parameters, c ≠ .char '/'
  named : .char ';' ∉ segment
  parametersMark : parameters = [] ∨ parameters.head? = some (.char ';')
  askedMark : asked = [] ∧ query = [] ∨ asked = .char '?' :: query
  askedFree : .char '#' ∉ query
  fragmentMark : fragment = [] ∨ fragment.head? = some (.char '#')

def Address.own {url : Text} (a : Address url) : Text :=
  if a.query.isEmpty then a.folders ++ a.segment else a.folders ++ a.segment ++ "?" ++ a.query

def checked (authority : Text) : Except Url.UrlError Unit := do
  Url.checkAuthority authority
  if authority.any fun p => p.value ∈ Url.separatorForms then throw (.compatibility authority)

/- What is left of the address where it lies under the base, and its own path where it does not. -/
inductive Stripped (base url : Text) : Except Url.UrlError Text → Prop where
  | under {rest} : url = baseOf base ++ rest → (∀ c ∈ rest.head?, Url.endsAuthority c) → Stripped base url (.ok rest)
  | outside : (∀ rest, url = baseOf base ++ rest → ∃ c ∈ rest.head?, Url.endsAuthority c = false) →
      Stripped base url (ownPath url)

/- The address begins with the signs of the base, but it goes on inside the host or the segment at the end of the base. -/
def Loose (base url : Text) : Prop :=
  base.isBlank = false ∧ ∃ c rest, url = baseOf base ++ c :: rest ∧ Url.endsAuthority c = false

section address
variable {url t : Text}

theorem beforeParts (stop : CodePoint) (t : Text) : t = Url.before stop t ++ t.dropWhile (· != stop) ∧ stop ∉ Url.before stop t ∧
    (t.dropWhile (· != stop) = [] ∨ (t.dropWhile (· != stop)).head? = some stop) := by
  obtain ⟨taken,stops⟩ := Text.takenStops (· != stop) t
  refine ⟨List.takeWhile_append_dropWhile.symm,fun inside => by simpa using taken stop inside,?_⟩
  cases behind : t.dropWhile (· != stop) with
  | nil => exact .inl rfl
  | cons c rest =>
    have stopped := stops c (by rw [behind]; rfl)
    exact .inr (congrArg some (by simpa using stopped))

theorem parametersParts (rooted : t = [] ∨ t.head? = some (.char '/')) : ∃ folders segment parameters,
    t = folders ++ (segment ++ parameters) ∧ Url.withoutParameters t = folders ++ segment ∧
    (folders = [] ∧ segment = [] ∧ parameters = [] ∨ folders.head? = some (.char '/') ∧ folders.getLast? = some (.char '/')) ∧
    (∀ c ∈ segment ++ parameters, c ≠ .char '/') ∧ .char ';' ∉ segment ∧
    (parameters = [] ∨ parameters.head? = some (.char ';')) := by
  obtain ⟨back,noSlash,mark⟩ := beforeParts (.char '/') t.reverse
  generalize lastBack : Url.before (.char '/') t.reverse = last at back noSlash
  generalize t.reverse.dropWhile (· != .char '/') = front at back mark
  have whole : t = front.reverse ++ last.reverse := by rw [← List.reverse_append,← back,List.reverse_reverse]
  obtain ⟨parted,named,sign⟩ := beforeParts (.char ';') last.reverse
  have without : Url.withoutParameters t = front.reverse ++ Url.before (.char ';') last.reverse := by
    have taken : (t.reverse.takeWhile (· != .char '/')) = last := lastBack
    unfold Url.withoutParameters
    simp only [taken]
    rw [whole]
    simp
  generalize Url.before (.char ';') last.reverse = segment at parted named without
  generalize last.reverse.dropWhile (· != .char ';') = parameters at parted sign
  refine ⟨front.reverse,segment,parameters,by rw [whole,parted],without,?_,?_,named,sign⟩
  · rcases mark with rfl | mark
    · -- without a slash at the start nothing stands before the end of the path
      have empty : t = [] := by
        rcases rooted with empty | slash
        · exact empty
        · rw [whole,List.reverse_nil,List.nil_append] at slash
          exact absurd (List.mem_reverse.mp (List.mem_of_head? slash)) noSlash
      rw [empty,List.reverse_nil,List.nil_append,parted] at whole
      obtain ⟨rfl,rfl⟩ := List.append_eq_nil_iff.mp whole.symm
      exact .inl ⟨rfl,rfl,rfl⟩
    · refine .inr ⟨?_,by rw [List.getLast?_reverse,mark]⟩
      rcases rooted with rfl | slash
      · obtain ⟨rest,rfl⟩ := List.head?_eq_some_iff.mp mark
        simp at whole
      · rw [whole,List.head?_append] at slash
        cases first : front.reverse.head? with
        | none =>
          rw [List.reverse_eq_nil_iff.mp (List.head?_eq_none_iff.mp first)] at mark
          contradiction
        | some d => rwa [first] at slash
  · intro c inside
    rintro rfl
    rw [← parted] at inside
    exact noSlash (List.mem_reverse.mp inside)

theorem splitRest (rest : Text) : ∃ authority tail : Text, (rest.filter fun c => !Url.isWrap c) = authority ++ tail ∧
    (∀ c ∈ authority, Url.endsAuthority c = false) ∧ (∀ c ∈ tail.head?, Url.endsAuthority c) ∧
    Url.split ("//" ++ rest) = (checked authority).map fun _ => {
      authority, path := Url.withoutParameters (Url.before (.char '?') (Url.before (.char '#') tail)),
      query := ((Url.before (.char '#') tail).dropWhile (· != .char '?')).drop 1 } := by
  have filtered : (Text.ofString "//" ++ rest).filter (fun c => !Url.isWrap c) = "//" ++ rest.filter fun c => !Url.isWrap c := rfl
  have lead : ∀ t, Text.afterLead? (Text.ofString "//" ++ t) "//" = some t := Text.afterLeadSelf "//"
  unfold Url.split
  rw [filtered]
  simp only [lead]
  generalize rest.filter (fun c => !Url.isWrap c) = flat
  obtain ⟨taken,stops⟩ := Text.takenStops (fun p => !Url.endsAuthority p) flat
  refine ⟨flat.takeWhile fun p => !Url.endsAuthority p,flat.dropWhile fun p => !Url.endsAuthority p,
    List.takeWhile_append_dropWhile.symm,fun c member => by simpa using taken c member,
    fun c first => by simpa using stops c first,?_⟩
  generalize flat.takeWhile (fun p => !Url.endsAuthority p) = authority
  unfold checked
  cases Url.checkAuthority authority with
  | error e => rfl
  | ok _ => cases authority.any fun p => decide (p.value ∈ Url.separatorForms) <;> rfl

theorem webScheme (web : isWebAddress url) : ∃ scheme ∈ schemes, ∃ rest, url = scheme ++ ("//" ++ rest) := by
  rcases Bool.or_eq_true_iff.mp web with plain | secure
  · obtain ⟨rest,rfl⟩ := List.isPrefixOf_iff_prefix.mp plain
    exact ⟨"http:",by decide,rest,rfl⟩
  · obtain ⟨rest,rfl⟩ := List.isPrefixOf_iff_prefix.mp secure
    exact ⟨"https:",by decide,rest,rfl⟩

theorem behindScheme {scheme : Text} (known : scheme ∈ schemes) (t : Text) :
    (schemes.findSome? fun s => (scheme ++ t).afterLead? s) = some t := by
  rcases List.mem_cons.mp known with rfl | known
  · exact List.findSome?_cons.trans (by rw [Text.afterLeadSelf])
  · obtain rfl := List.mem_singleton.mp known
    rw [schemes,List.findSome?_cons,Text.apartNone (by decide),List.findSome?_cons,Text.afterLeadSelf]

theorem pathRooted {path t : Text} (ends : ∀ c ∈ (path ++ t).head?, Url.endsAuthority c) (noQuery : .char '?' ∉ path)
    (noFragment : .char '#' ∉ path) : path = [] ∨ path.head? = some (.char '/') := by
  cases path with
  | nil => exact .inl rfl
  | cons c path =>
    have first : Url.endsAuthority c := ends c rfl
    have query : c ≠ .char '?' := fun same => noQuery (same ▸ List.mem_cons_self)
    have hash : c ≠ .char '#' := fun same => noFragment (same ▸ List.mem_cons_self)
    unfold Url.endsAuthority at first
    split at first
    · exact .inr rfl
    · exact absurd rfl query
    · exact absurd rfl hash
    · contradiction

theorem addressOwn (web : isWebAddress url) : ∃ a : Address url, ownPath url = (checked a.authority).map fun _ => a.own := by
  obtain ⟨scheme,known,rest,rfl⟩ := webScheme web
  have kept : (scheme ++ (Text.ofString "//" ++ rest)).filter (fun c => !Url.isWrap c) =
      scheme ++ ("//" ++ rest.filter fun c => !Url.isWrap c) := by
    have plain : ∀ scheme ∈ schemes, scheme.filter (fun c => !Url.isWrap c) = scheme := by decide
    rw [List.filter_append,List.filter_append,plain scheme known]
    rfl
  obtain ⟨authority,tail,divided,host,ends,read⟩ := splitRest rest
  obtain ⟨located,noFragment,fragmentMark⟩ := beforeParts (.char '#') tail
  generalize Url.before (.char '#') tail = place at located noFragment read
  generalize tail.dropWhile (· != .char '#') = fragment at located fragmentMark
  obtain ⟨asked,noQuery,queryMark⟩ := beforeParts (.char '?') place
  generalize Url.before (.char '?') place = path at asked noQuery read
  generalize place.dropWhile (· != .char '?') = question at asked queryMark read
  rw [located,asked,List.append_assoc] at ends
  have rooted := pathRooted ends noQuery fun inside => noFragment (asked ▸ List.mem_append_left _ inside)
  obtain ⟨folders,segment,parameters,parted,without,folded,last,named,parametersMark⟩ := parametersParts rooted
  have queried : question = [] ∧ question.drop 1 = [] ∨ question = .char '?' :: question.drop 1 := by
    rcases queryMark with rfl | mark
    · exact .inl ⟨rfl,rfl⟩
    · obtain ⟨query,rfl⟩ := List.head?_eq_some_iff.mp mark
      exact .inr rfl
  have own : ownPath (scheme ++ ("//" ++ rest)) = (checked authority).map fun _ =>
      if (question.drop 1).isEmpty then folders ++ segment else folders ++ segment ++ "?" ++ question.drop 1 := by
    unfold ownPath
    rw [behindScheme known,Option.getD_some,read,without]
    cases checked authority <;> rfl
  refine ⟨{
    scheme, authority, folders, segment, parameters, asked := question, query := question.drop 1, fragment, known, host, last, named,
    parametersMark, fragmentMark, rooted := folded, askedMark := queried, whole := ?_, inside := ?_, askedFree := ?_ },own⟩
  · rw [kept,divided,located,asked,parted]
    simp
  · intro c member
    rw [List.append_assoc,← parted] at member
    constructor
    · rintro rfl
      exact noQuery member
    · rintro rfl
      exact noFragment (asked ▸ List.mem_append_left _ member)
  · exact fun member => noFragment (asked ▸ List.mem_append_right _ (List.mem_of_mem_drop member))

theorem ownHead (a : Address url) : ∀ c ∈ a.own.head?, c = .char '/' ∨ c = .char '?' := by
  have path : ∀ c ∈ (a.folders ++ a.segment).head?, c = .char '/' := by
    rcases a.rooted with ⟨none,empty,_⟩ | ⟨slash,_⟩
    · rw [none,empty]
      nofun
    · rw [List.head?_append,slash]
      exact fun c first => (Option.some.inj first).symm
  intro c first
  unfold Address.own at first
  split at first
  · exact .inl (path c first)
  · rw [List.append_assoc,List.head?_append] at first
    cases front : (a.folders ++ a.segment).head? with
    | none =>
      rw [front] at first
      exact .inr (Option.some.inj first).symm
    | some d =>
      rw [front] at first
      exact .inl (path c (front.trans first))

end address

section stripped
variable {url base rest : Text}

theorem looseUnlike (web : isWebAddress url) (c : CodePoint) (more : Text) (other : Url.endsAuthority c = false) :
    ownPath url ≠ .ok (c :: more) := by
  obtain ⟨a,read⟩ := addressOwn web
  intro same
  rw [read] at same
  cases accepted : checked a.authority with
  | error e =>
    rw [accepted] at same
    contradiction
  | ok _ =>
    rw [accepted] at same
    have own : a.own = c :: more := Except.ok.inj same
    rcases ownHead a c (by rw [own]; rfl) with rfl | rfl <;> contradiction

theorem webHead (web : isWebAddress url) : ∃ rest, url = .char 'h' :: rest := by
  obtain ⟨scheme,known,rest,rfl⟩ := webScheme web
  have heads : ∀ scheme ∈ schemes, scheme.head? = some (.char 'h') := by decide
  obtain ⟨more,rfl⟩ := List.head?_eq_some_iff.mp (heads scheme known)
  exact ⟨_,rfl⟩

theorem blankBase (blank : base.isBlank) : baseOf base = [] := by
  have empty : (base ++ []).dropWhile CodePoint.isBlank = [] := List.dropWhile_append_of_pos (List.all_eq_true.mp blank)
  rw [List.append_nil] at empty
  rw [baseOf,Text.trim,Text.dropBoth,empty]
  rfl

theorem pathWeb (web : isWebAddress url.trim) : pathOf url base =
    if !base.isBlank && url.trim.startsWith (baseOf base) then .ok (url.trim.drop (baseOf base).length) else ownPath url.trim := by
  obtain ⟨rest,first⟩ := webHead web
  have slash : url.trim.startsWith "/" = false := by
    rw [first]
    rfl
  simp only [pathOf,slash,web]
  rfl

theorem strippedIff (web : isWebAddress url.trim) : Stripped base url.trim (pathOf url base) ↔ ¬ Loose base url.trim := by
  rw [pathWeb web]
  generalize url.trim = url at web
  constructor
  · rintro stripped ⟨given,c,rest,whole,other⟩
    have starts : url.startsWith (baseOf base) := List.isPrefixOf_iff_prefix.mpr ⟨_,whole.symm⟩
    have taken : url.drop (baseOf base).length = c :: rest := by rw [whole,List.drop_left]
    rw [given,starts,taken] at stripped
    generalize result : Except.ok (c :: rest) = path at stripped
    cases stripped with
    | @under more same ends =>
      obtain rfl : c :: rest = more := List.append_cancel_left (whole.symm.trans same)
      rw [ends c rfl] at other
      contradiction
    | outside => exact looseUnlike web c rest other result.symm
  · intro firm
    split
    · rename_i begins
      obtain ⟨given,starts⟩ := Bool.and_eq_true_iff.mp begins
      obtain ⟨rest,rfl⟩ := List.isPrefixOf_iff_prefix.mp starts
      rw [List.drop_left]
      refine .under rfl fun c first => ?_
      obtain ⟨more,rfl⟩ := List.head?_eq_some_iff.mp first
      cases ends : Url.endsAuthority c with
      | true => rfl
      | false => exact absurd ⟨by simpa using given,c,more,rfl,ends⟩ firm
    · rename_i apart
      refine .outside fun rest same => ?_
      obtain ⟨more,head⟩ := webHead web
      cases blank : base.isBlank with
      | false =>
        have starts : url.startsWith (baseOf base) := List.isPrefixOf_iff_prefix.mpr ⟨_,same.symm⟩
        exact absurd (by rw [blank,starts]; rfl) apart
      | true =>
        rw [blankBase blank,List.nil_append] at same
        exact ⟨.char 'h',by rw [← same,head]; rfl,rfl⟩

end stripped

/- The path of an address for a base address: what begins with the signs of the base loses them, and any other address
keeps its own path and query, as read from its parts. -/
structure TakenOff (url : Text) (base : Value) (b : Text) : Prop where
  parts : ∃ a : Address url.trim, ownPath url.trim = (checked a.authority).map fun _ => a.own
  path : pathFor (.text url) base = (pathOf url b).mapError fun e => .invalid e.message
  below : ∀ rest, b.isBlank = false → url.trim = baseOf b ++ rest → pathOf url b = .ok rest
  beside : (∀ rest, b.isBlank = false → url.trim ≠ baseOf b ++ rest) → pathOf url b = ownPath url.trim
  firm : Stripped b url.trim (pathOf url b) ↔ ¬ Loose b url.trim

theorem baseTakenOff {url b : Text} {base : Value} (web : isWebAddress url.trim) (given : baseText base = .ok b) :
    TakenOff url base b := by
  refine ⟨addressOwn web,?_,fun rest full whole => ?_,fun apart => ?_,strippedIff web⟩
  · have some : Value.isGiven (.text url) = true := by
      cases url with
      | nil => contradiction
      | cons c t => rfl
    simp only [pathFor,some,Value.textFor,bind,Except.bind,web,if_true,given]
    rfl
  · have starts : url.trim.startsWith (baseOf b) := List.isPrefixOf_iff_prefix.mpr ⟨_,whole.symm⟩
    rw [pathWeb web,full,starts,whole,List.drop_left]
    rfl
  · rw [pathWeb web]
    refine if_neg fun begins => ?_
    obtain ⟨full,starts⟩ := Bool.and_eq_true_iff.mp begins
    obtain ⟨rest,whole⟩ := List.isPrefixOf_iff_prefix.mp starts
    exact apart rest (by simpa using full) whole.symm

theorem loginTakenOff : isWebAddress (Text.trim "https://app.example.com/login?x=1") ∧
    baseText (.text "https://app.example.com/") = .ok "https://app.example.com/" ∧
    TakenOff "https://app.example.com/login?x=1" (.text "https://app.example.com/") "https://app.example.com/" :=
  ⟨by decide,rfl,baseTakenOff (by decide) rfl⟩

theorem longerHostCut :
    pathOf "https://shop.example.com.evil.org/login" "https://shop.example.com" = .ok ".evil.org/login" ∧
    ownPath (Text.trim "https://shop.example.com.evil.org/login") = .ok "/login" ∧
    ¬ Stripped "https://shop.example.com" (Text.trim "https://shop.example.com.evil.org/login") (.ok ".evil.org/login") := by
  have cut : pathOf "https://shop.example.com.evil.org/login" "https://shop.example.com" = .ok ".evil.org/login" := rfl
  refine ⟨cut,rfl,fun stripped => ?_⟩
  rw [← cut] at stripped
  exact (strippedIff (by decide)).mp stripped ⟨by decide,.char '.',"evil.org/login",by decide +kernel,by decide⟩

end TestWeaver.Page
