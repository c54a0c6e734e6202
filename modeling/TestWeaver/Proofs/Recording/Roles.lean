import TestWeaver.Proofs.Recording.Lines

/-! The arguments of an accessor by role. The role is the quoted word and the name is the literal:
nothing before the literal can be taken for a label, and only the literal can hold the full stop
that a role constant has. -/
namespace TestWeaver.Recording

def NamesConstant (t : Text) : Prop := ∃ c : CodePoint, c.isWord ∧ Text.ofString "AriaRole." ++ [c] <:+: t

def roleList (mark : CodePoint) (word : Text) (quote : CodePoint) (w : Text) : Text :=
  enclosed mark word ++ ", \x7b name: " ++ enclosed quote w ++ " \x7d"

def namedRole (word name : Text) : Text :=
  "role=" ++ word.lower ++ "[name=\"" ++ name.replace "\"" "\\\"" ++ "\"]"

section role
variable {mark quote c : CodePoint} {word w t x y : Text} {s : List Char}

theorem roleMark (marked : mark = .char '"' ∨ mark = .char '\'') :
    mark.isWord = false ∧ mark.isBlank = false ∧ (mark == .char '"' || mark == .char '\'') = true := by
  rcases marked with rfl | rfl <;> decide +kernel

theorem roleSigns (marked : mark = .char '"' ∨ mark = .char '\'') (sign : c.isWord ∨ c = mark) :
    c ≠ .char '(' ∧ c ≠ .char ')' ∧ c ≠ .char '.' ∧ c ≠ .char '=' ∧ c ≠ .char ':' := by
  rcases sign with isWord | rfl
  · refine ⟨?_,?_,?_,?_,?_⟩ <;> rintro rfl <;> exact absurd isWord (by decide +kernel)
  · rcases marked with rfl | rfl <;> decide

theorem quotedWord (marked : mark = .char '"' ∨ mark = .char '\'') (full : word ≠ [])
    (signs : ∀ c ∈ word, c.isWord) (t : Text) : quotedRole? (enclosed mark word ++ t) = some word := by
  obtain ⟨other,dark,named⟩ := roleMark marked
  have taken : takeWord? (word ++ mark :: t) = some (word,mark :: t) := by
    have run : (word ++ mark :: t).takeWhile CodePoint.isWord = word := by
      rw [List.takeWhile_append_of_pos signs,List.takeWhile_cons_of_neg (by simp [other]),List.append_nil]
    have rest : (word ++ mark :: t).dropWhile CodePoint.isWord = mark :: t := by
      rw [List.dropWhile_append_of_pos signs,List.dropWhile_cons_of_neg (by simp [other])]
    simp only [takeWord?,run,rest,List.isEmpty_iff,if_neg full]
  have start : Text.dropBlank (enclosed mark word ++ t) = mark :: (word ++ mark :: t) := by
    rw [enclosed,List.cons_append,Text.dropBlankSelf dark]
    simp
  simp only [quotedRole?,start,named,if_true,taken]

theorem constantRead (read : (t.afterLead? "AriaRole.").bind (fun t => (takeWord? t).map (·.1)) = some word) :
    NamesConstant t := by
  obtain ⟨rest,leads,taken⟩ := Option.bind_eq_some_iff.mp read
  rw [Text.afterLeadSome.mp leads]
  cases rest with
  | nil => simp [takeWord?] at taken
  | cons c rest =>
    cases sign : c.isWord with
    | true => exact ⟨c,sign,[],rest,by simp⟩
    | false => simp [takeWord?,sign] at taken

theorem constantSide (mark : isQuote quote) (names : NamesConstant (x ++ quote :: y)) :
    NamesConstant x ∨ NamesConstant y := by
  obtain ⟨c,isWord,stands⟩ := names
  have free : quote ∉ Text.ofString "AriaRole." ++ [c] := by
    intro member
    rcases List.mem_append.mp member with fixed | last
    · have plain : ∀ d ∈ Text.ofString "AriaRole.", isQuote d = false := by decide
      exact notQuote mark (plain quote fixed) rfl
    · rw [← List.mem_singleton.mp last] at isWord
      rcases quoteCases mark with rfl | rfl | rfl <;> exact absurd isWord (by decide +kernel)
  exact (Text.infixSide free stands).imp (fun left => ⟨c,isWord,left⟩) fun right => ⟨c,isWord,right⟩

theorem constantDot (names : NamesConstant x) : CodePoint.char '.' ∈ x := by
  obtain ⟨c,_,stands⟩ := names
  exact stands.subset (by simp [Text.ofString])

theorem noConstant (given : isQuote quote) (marked : mark = .char '"' ∨ mark = .char '\'')
    (signs : ∀ c ∈ word, c.isWord) (free : ¬ NamesConstant w) :
    roleConstant? (roleList mark word quote w) = none := by
  have isMark : isQuote mark := by rcases marked with rfl | rfl <;> rfl
  have free : ¬ NamesConstant (roleList mark word quote w) := by
    intro names
    have parted : NamesConstant ([] ++ mark :: (word ++ mark :: (Text.ofString ", \x7b name: " ++
        quote :: (w ++ quote :: Text.ofString " \x7d")))) := by
      simpa [roleList,enclosed] using names
    rcases constantSide isMark parted with first | names
    · simpa using constantDot first
    rcases constantSide isMark names with inWord | names
    · exact absurd rfl (roleSigns marked (.inl (signs _ (constantDot inWord)))).2.2.1
    rcases constantSide given names with between | names
    · exact absurd (constantDot between) (by decide)
    rcases constantSide given names with inName | last
    · exact free inName
    · exact absurd (constantDot last) (by decide)
  apply Text.searchNone
  intro b u ends
  cases found : (Text.afterLead? u "AriaRole.").bind fun t => (takeWord? t).map (·.1) with
  | none => rfl
  | some role =>
    obtain ⟨c,isWord,stands⟩ := constantRead found
    exact absurd ⟨c,isWord,stands.trans ends.isInfix⟩ free

theorem headBehind {sign : CodePoint} {rest more : Text} (dark : mark.isBlank = false)
    (dropped : Text.dropBlank (more ++ mark :: t) = sign :: rest) : sign ∈ more ++ [mark] := by
  induction more with
  | nil =>
    rw [List.nil_append,Text.dropBlankSelf dark] at dropped
    simp [(List.cons.inj dropped).1]
  | cons d more ih =>
    cases blank : d.isBlank with
    | true =>
      rw [List.cons_append,Text.dropBlank,List.dropWhile_cons_of_pos blank] at dropped
      exact List.mem_cons_of_mem d (ih dropped)
    | false =>
      rw [List.cons_append,Text.dropBlankSelf blank] at dropped
      simp [(List.cons.inj dropped).1]

theorem setterPast {u : Text} (marked : mark = .char '"' ∨ mark = .char '\'') (signs : ∀ c ∈ u, c.isWord ∨ c = mark) :
    (u ++ mark :: t).afterLead? "setName(" = none := by
  cases found : (u ++ mark :: t).afterLead? "setName(" with
  | none => rfl
  | some rest =>
    have plain : mark ∉ Text.ofString "setName(" := by rcases marked with rfl | rfl <;> decide
    have starts := Text.prefixBefore plain ⟨rest,(Text.afterLeadSome.mp found).symm⟩
    have opens : CodePoint.char '(' ∈ u := starts.subset (by decide)
    exact absurd rfl (roleSigns marked (signs _ opens)).1

theorem propertyPast {u rest : Text} {sign : CodePoint} (marked : mark = .char '"' ∨ mark = .char '\'')
    (signs : ∀ c ∈ u, c.isWord ∨ c = mark)
    (found : ((u ++ mark :: t).afterLead? "name").map Text.dropBlank = some (sign :: rest)) :
    (sign == .char '=' || sign == .char ':') = false := by
  obtain ⟨behind,leads,dropped⟩ := Option.map_eq_some_iff.mp found
  have plain : mark ∉ Text.ofString "name" := by rcases marked with rfl | rfl <;> decide
  obtain ⟨more,rfl⟩ := Text.prefixBefore plain ⟨behind,(Text.afterLeadSome.mp leads).symm⟩
  rw [List.append_assoc,Text.afterLeadSelf] at leads
  cases leads
  have shape : sign.isWord ∨ sign = mark := by
    rcases List.mem_append.mp (headBehind (roleMark marked).2.1 dropped) with inside | last
    · exact signs sign (by simp [inside])
    · exact .inr (List.mem_singleton.mp last)
  obtain ⟨_,_,_,equals,colon⟩ := roleSigns marked shape
  simp [equals,colon]

theorem noLabel {b : Option CodePoint} {u t : Text} (marked : mark = .char '"' ∨ mark = .char '\'')
    (signs : ∀ c ∈ u, c.isWord ∨ c = mark) : nameAt? b (u ++ mark :: t) = none := by
  unfold nameAt?
  rw [setterPast marked signs]
  simp only [Option.bind_none]
  split
  · rfl
  · split
    · rename_i sign rest found
      rw [propertyPast marked signs found]
      rfl
    · rfl

theorem labelOther {b : Option CodePoint} (setter : c ≠ .char 's') (label : c ≠ .char 'n') : nameAt? b (c :: t) = none := by
  have first : Text.afterLead? (c :: t) "setName(" = none := by simp [Text.ofString,Text.afterLead?,Ne.symm setter]
  have second : Text.afterLead? (c :: t) "name" = none := by simp [Text.ofString,Text.afterLead?,Ne.symm label]
  unfold nameAt?
  rw [first,second]
  simp

theorem nameHere (given : isQuote quote) (spelled : Spelled quote s w) (t : Text) :
    nameAt? (some (.char ' ')) (Text.ofString "name: " ++ (enclosed quote w ++ t)) = some w := by
  have first : (literals (Text.dropBlank (enclosed quote w ++ t))).head? = some (w,t) := argumentFirst given spelled t
  have start : (Text.ofString "name: " ++ (enclosed quote w ++ t)) =
    Text.ofString "name" ++ (.char ':' :: .char ' ' :: (enclosed quote w ++ t)) := rfl
  have setter : (Text.ofString "name: " ++ (enclosed quote w ++ t)).afterLead? "setName(" = none :=
    Text.apartNone (by decide) _
  have gap : Text.dropBlank (.char ' ' :: (enclosed quote w ++ t)) = Text.dropBlank (enclosed quote w ++ t) := rfl
  have colon : Text.dropBlank (.char ':' :: .char ' ' :: (enclosed quote w ++ t)) =
    .char ':' :: .char ' ' :: (enclosed quote w ++ t) := rfl
  have apart : ¬ (some (CodePoint.char ' ')).any CodePoint.isWord := by decide +kernel
  unfold nameAt?
  rw [setter,start,Text.afterLeadSelf]
  simp only [Option.map_some,colon,gap,first,if_neg apart]
  rfl

theorem nameGiven (given : isQuote quote) (spelled : Spelled quote s w) (marked : mark = .char '"' ∨ mark = .char '\'')
    (signs : ∀ c ∈ word, c.isWord) : accessibleName? (roleList mark word quote w) = some w := by
  have line : roleList mark word quote w = (mark :: word) ++ (mark :: Text.ofString ", \x7b " ++
      (Text.ofString "name: " ++ (enclosed quote w ++ Text.ofString " \x7d"))) := by
    simp [roleList,enclosed,Text.ofString]
  rw [accessibleName?,line,Text.searchPast,Text.searchPast]
  · have last : ((mark :: Text.ofString ", \x7b ").getLast?.or ((mark :: word).getLast?.or none)) = some (.char ' ') := rfl
    rw [last]
    exact Text.searchHere (nameHere given spelled _)
  · intro b u full ends
    cases u with
    | nil => contradiction
    | cons c u =>
      have among := ends.subset List.mem_cons_self
      rcases List.mem_cons.mp among with same | fixed
      · rw [same]
        rcases marked with rfl | rfl <;> exact labelOther (by decide) (by decide)
      · have plain : ∀ d ∈ Text.ofString ", \x7b ", d ≠ .char 's' ∧ d ≠ .char 'n' := by decide
        exact labelOther (plain c fixed).1 (plain c fixed).2
  · intro b u _ ends
    apply noLabel marked
    intro c inside
    rcases List.mem_cons.mp (ends.subset inside) with same | among
    · exact .inr same
    · exact .inl (signs c among)

theorem roleRead (given : isQuote quote) (spelled : Spelled quote s w) (marked : mark = .char '"' ∨ mark = .char '\'')
    (full : word ≠ []) (signs : ∀ c ∈ word, c.isWord) (free : ¬ NamesConstant w) :
    roleSelector? (roleList mark word quote w) = some (namedRole word (s.map .char)) := by
  have quoted : quotedRole? (roleList mark word quote w) = some word := by
    rw [roleList,List.append_assoc,List.append_assoc]
    exact quotedWord marked full signs _
  rw [roleSelector?,noConstant given marked signs free,quoted,nameGiven given spelled marked signs]
  simp [namedRole,unescapeSpelled spelled]

end role

end TestWeaver.Recording
