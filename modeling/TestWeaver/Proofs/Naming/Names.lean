import TestWeaver.Naming.Derived
import TestWeaver.Proofs.Action.Order

/-! The letters of derived names. A readable name is made of letters and digits of ASCII
whatever the selector holds; a number stands behind the last underscore of a constant;
no method of an element is the entry point of a page. -/
namespace TestWeaver.Naming

def Alnum (t : Text) : Prop := ∀ c ∈ t, c.isAlnum
instance (t) : Decidable (Alnum t) := by unfold Alnum; infer_instance

def isSpokenSign (p : CodePoint) : Bool := p.isSmall || p.isDigit || p == .char ' '

theorem cleanWordsWithin {raw word : Text} (member : word ∈ cleanWords raw) : word ≠ [] ∧ Alnum word := by
  have sub : word ∈ alnumWords raw := by
    unfold cleanWords at member
    cases last : (alnumWords raw).getLast? with
    | none => simp [last] at member
    | some w =>
      simp only [last] at member
      split at member
      · exact (List.dropLast_sublist _).subset member
      · exact member
  obtain ⟨full,signs⟩ := Text.runsWithin sub
  exact ⟨full,fun c hc => (signs c hc).1⟩

theorem cleanWithin {raw : Text} {c : CodePoint} (member : c ∈ clean raw) : c.isAlnum ∨ c = .char ' ' := by
  rcases Text.memJoin member with space | ⟨word,inside,here⟩
  · exact .inr (by simpa [Text.ofString] using space)
  · exact .inl ((cleanWordsWithin inside).2 c here)

theorem capitalizedAlnum {t : Text} (alnum : Alnum t) : Alnum (capitalized t) := by
  cases t with
  | nil => exact alnum
  | cons p t =>
    have here := alnum p List.mem_cons_self
    have rest : Alnum t := fun c hc => alnum c (List.mem_cons_of_mem _ hc)
    have lowered := Text.lowerAscii fun c hc => CodePoint.alnumAscii (rest c hc)
    intro c member
    simp only [capitalized,CodePoint.upper,if_pos (CodePoint.alnumAscii here),lowered,List.mem_append,
      List.mem_singleton,List.mem_map] at member
    unfold CodePoint.isAlnum CodePoint.isLetter
    rcases member with rfl | ⟨d,inside,rfl⟩
    · rcases CodePoint.capitalOfAlnum here with h | h <;> simp [h]
    · rcases CodePoint.smallOfAlnum (rest d inside) with h | h <;> simp [h]

theorem capitalizedFull {t : Text} (full : t ≠ []) (alnum : Alnum t) : capitalized t ≠ [] := by
  cases t with
  | nil => contradiction
  | cons p t => simp [capitalized,CodePoint.upper,CodePoint.alnumAscii (alnum p List.mem_cons_self)]

theorem wordOfCleanAlnum {raw word : Text} (member : word ∈ (clean raw).words) : word ≠ [] ∧ Alnum word := by
  obtain ⟨full,signs⟩ := Text.runsWithin member
  refine ⟨full,fun c hc => ?_⟩
  obtain ⟨dark,inside⟩ := signs c hc
  rcases cleanWithin inside with alnum | rfl
  · exact alnum
  · exact absurd dark (by decide)

theorem pascalAlnum (raw : Text) : Alnum (pascal (clean raw)) := by
  intro c member
  obtain ⟨part,inside,here⟩ := List.mem_flatten.mp member
  obtain ⟨word,found,rfl⟩ := List.mem_map.mp inside
  exact capitalizedAlnum (wordOfCleanAlnum found).2 c here

theorem pascalFull {raw : Text} {c : CodePoint} (member : c ∈ clean raw) (alnum : c.isAlnum) :
    pascal (clean raw) ≠ [] := by
  obtain ⟨word,found,_⟩ := Text.memRuns (p := fun c => !c.isBlank) member
    (by simp [CodePoint.notBlankOfAlnum alnum])
  obtain ⟨full,signs⟩ := wordOfCleanAlnum found
  obtain ⟨d,rest,head⟩ := List.exists_cons_of_ne_nil (capitalizedFull full signs)
  have inside : d ∈ pascal (clean raw) :=
    List.mem_flatten.mpr ⟨_,List.mem_map_of_mem found,by simp [head]⟩
  intro empty
  simp [empty] at inside

theorem behindAlnum {lead t : Text} (left : Alnum lead) (right : Alnum t) : Alnum (lead ++ t) := by
  intro c member
  rcases List.mem_append.mp member with h | h
  · exact left c h
  · exact right c h

theorem readableAlnum (selector : Text) : Alnum (readable selector) := by
  have joined : Alnum ((clean (rawName selector)).filter (· != .char ' ')) := by
    intro c member
    obtain ⟨inside,other⟩ := List.mem_filter.mp member
    exact (cleanWithin inside).resolve_right (by simpa using other)
  unfold readable
  simp only
  split
  · decide
  · split
    · exact behindAlnum (by decide) joined
    · split
      · exact behindAlnum (by decide) (pascalAlnum _)
      · exact pascalAlnum _

theorem classNameAlnum (t : Text) : Alnum (className t) := by
  have words : ∀ word ∈ alnumWords t, Alnum word := fun word member c inside => ((Text.runsWithin member).2 c inside).1
  have inner : ∀ {c : CodePoint} {rest : Text}, Alnum (c :: rest) → Alnum (c.capital :: rest) := by
    intro c rest alnum d member
    rcases List.mem_cons.mp member with rfl | later
    · unfold CodePoint.isAlnum CodePoint.isLetter
      rcases CodePoint.capitalOfAlnum (alnum c List.mem_cons_self) with h | h <;> simp [h]
    · exact alnum d (List.mem_cons_of_mem _ later)
  have joined : Alnum ((alnumWords t).map capitalized).flatten := by
    intro c member
    obtain ⟨part,inside,here⟩ := List.mem_flatten.mp member
    obtain ⟨word,found,rfl⟩ := List.mem_map.mp inside
    exact capitalizedAlnum (words word found) c here
  have numbered : ∀ {name : Text}, Alnum name → Alnum (if name.head?.any CodePoint.isDigit then "Class" ++ name else name) := by
    intro name alnum
    split
    · exact behindAlnum (by decide) alnum
    · exact alnum
  unfold className
  split
  · decide
  · apply numbered
    split
    · rename_i found
      have alnum := words _ (by rw [found]; exact List.mem_cons_self)
      split
      · exact inner alnum
      · exact capitalizedAlnum alnum
    · exact joined

theorem readableFull (selector : Text) : readable selector ≠ [] := by
  unfold readable
  simp only
  split
  · decide
  · split
    · simp [Text.ofString]
    · rename_i mixed
      split
      · simp [Text.ofString]
      · simp only [List.all_eq_true,Classical.not_forall] at mixed
        obtain ⟨c,member,_⟩ := mixed
        obtain ⟨inside,other⟩ := List.mem_filter.mp member
        exact pascalFull inside ((cleanWithin inside).resolve_right (by simpa using other))

theorem memSeparate {mark : CodePoint} {test : CodePoint → Text → Bool} {t : Text} {c : CodePoint} :
    c ∈ separate mark test t → c = mark ∨ c ∈ t := by
  induction t with
  | nil => simp [separate]
  | cons a t ih =>
    intro member
    unfold separate at member
    split at member <;> simp only [List.mem_cons] at member ⊢
    · rcases member with rfl | rfl | later
      · exact .inr (.inl rfl)
      · exact .inl rfl
      · exact (ih later).imp_right .inr
    · rcases member with rfl | later
      · exact .inr (.inl rfl)
      · exact (ih later).imp_right .inr

theorem memSeparated {mark : CodePoint} {test : CodePoint → Text → Bool} {t : Text} {c : CodePoint}
    (member : c ∈ t) : c ∈ separate mark test t := by
  induction t with
  | nil => contradiction
  | cons a t ih =>
    unfold separate
    rcases List.mem_cons.mp member with rfl | later
    · split <;> simp
    · split <;> simp [ih later]

theorem spokenSign {p : CodePoint} (given : p.isAlnum ∨ p = .char ' ') :
    p.value < 0x80 ∧ isSpokenSign p.small := by
  rcases given with alnum | rfl
  · refine ⟨CodePoint.alnumAscii alnum,?_⟩
    unfold isSpokenSign
    rcases CodePoint.smallOfAlnum alnum with h | h <;> simp [h]
  · decide

section spoken
variable {name : Text}

theorem spokenLowered (alnum : Alnum name) :
    spoken name = Text.trim ((separate (.char ' ') (fun a t => risesAfter a t || acronymEndsAfter a t)
      name).map CodePoint.small) := by
  unfold spoken
  rw [Text.lowerAscii]
  intro c member
  exact (spokenSign ((memSeparate member).symm.imp_left (alnum c))).1

theorem spokenWithin (alnum : Alnum name) : ∀ c ∈ spoken name, isSpokenSign c := by
  intro c member
  rw [spokenLowered alnum] at member
  obtain ⟨d,inside,rfl⟩ := List.mem_map.mp ((Text.trimSublist _).subset member)
  exact (spokenSign ((memSeparate inside).symm.imp_left (alnum d))).2

theorem spokenHasWord (alnum : Alnum name) (full : name ≠ []) : ∃ c ∈ spoken name, c.isAlnum := by
  obtain ⟨p,rest,rfl⟩ := List.exists_cons_of_ne_nil full
  have here := alnum p List.mem_cons_self
  have kept : p.small.isAlnum := by
    unfold CodePoint.isAlnum CodePoint.isLetter
    rcases CodePoint.smallOfAlnum here with h | h <;> simp [h]
  refine ⟨p.small,?_,kept⟩
  rw [spokenLowered alnum]
  exact Text.memTrim (List.mem_map_of_mem (memSeparated List.mem_cons_self))
    (CodePoint.notBlankOfAlnum kept)

theorem snakeWithin {c : CodePoint} (member : c ∈ snake name) : c.isAlnum ∨ c = .char '_' := by
  rcases Text.memJoin member with mark | ⟨word,inside,here⟩
  · exact .inr (by simpa [Text.ofString] using mark)
  · exact .inl ((Text.runsWithin inside).2 c here).1

theorem snakeFull (alnum : Alnum name) (full : name ≠ []) : snake name ≠ [] := by
  obtain ⟨c,member,kept⟩ := spokenHasWord alnum full
  obtain ⟨word,found,inside⟩ := Text.memRuns (p := CodePoint.isAlnum) member kept
  have joined : c ∈ snake name := Text.memJoinOfPart found inside
  intro empty
  simp [empty] at joined

end spoken

theorem constantsDiffer {a b : Text} {o p : Ordinal} (left : o.IsInteger) (right : p.IsInteger)
    (other : o.isSame p = false) : constant a o.text ≠ constant b p.text := by
  intro same
  have marked : ∀ name id, constant name id = upperSnake name ++ .char '_' :: id := by
    intro name id
    simp [constant,Text.ofString]
  rw [marked,marked] at same
  have texts := (Text.lastPartUnique (Ordinal.textOfInteger left) (Ordinal.textOfInteger right) same).2
  exact Ordinal.textOfDistinct left right other texts

theorem methodNotNavigation {kind : Kind} (onElement : kind ≠ .navigate) (name id : Text) :
    method kind name id ≠ navigationMethod := by
  have fill : ∀ t, fillMethod t ≠ navigationMethod := by
    intro t
    unfold fillMethod
    simp only
    repeat' split
    all_goals simp [navigationMethod,Text.ofString]
  have check : ∀ t, checkMethod t ≠ navigationMethod := by
    intro t
    unfold checkMethod
    simp only
    split <;> simp [navigationMethod,Text.ofString]
  unfold method
  cases kind with
  | navigate => contradiction
  | fill => exact fill _
  | check => exact check _
  | click | select | press => simp [navigationMethod,Text.ofString]

end TestWeaver.Naming
