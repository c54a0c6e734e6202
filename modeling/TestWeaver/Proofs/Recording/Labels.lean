import Mathlib.Data.List.Infix
import TestWeaver.Proofs.Naming.Accessible
import TestWeaver.Proofs.Recording.Roles
import TestWeaver.Proofs.Text.Letters

/-! The name of a control by role, from the arguments of the accessor to the readable name. The selector escapes double
quotes only, and the readable name is that of the part that the reader of selectors keeps. -/
namespace TestWeaver.Recording
open Naming (kept readable cleanWords)

structure Between (front : Text) : Prop where
  apart : ∀ u ∈ front.tails, u ≠ [] → Text.Apart u "setName(" ∧ Text.Apart u "name"
  ends : ∀ c ∈ front.getLast?, c.isWord = false

inductive Label : Text → Prop where
  | setter {gap : Text} : (∀ c ∈ gap, c.isBlank) → Label ("setName(" ++ gap)
  | property {gap more : Text} {sign : CodePoint} : (∀ c ∈ gap, c.isBlank) → sign = .char ':' ∨ sign = .char '=' → (∀ c ∈ more, c.isBlank) →
      Label (Text.ofString "name" ++ (gap ++ sign :: more))

def labelledRole (mark : CodePoint) (word front label : Text) (quote : CodePoint) (w after : Text) : Text :=
  enclosed mark word ++ (front ++ (label ++ (enclosed quote w ++ after)))

structure Agrees (role name : Text) : Prop where
  none : kept name = [] → Naming.roleName? (namedRole role name) = none
  read : kept name ≠ [] → readable (namedRole role name) = readable ("text=" ++ kept name)
  whole : name ≠ [] → (∀ c ∈ name, c ≠ .char '\'' ∧ c ≠ .char ']') → ¬ [.char '\\',.char '"'] <:+: name →
    readable (namedRole role name) = readable ("text=" ++ name)
  cut : (∃ c ∈ kept name, c.isAlnum) →
    (readable (namedRole role name) = readable ("text=" ++ name) ↔ cleanWords (kept name) = cleanWords name)

section arguments
variable {mark quote c : CodePoint} {word front label w after role t : Text} {s : List Char}

theorem frontPast {b : Option CodePoint} {u : Text} (between : Between front) (full : u ≠ []) (ends : u <:+ front) (t : Text) :
    nameAt? b (u ++ t) = none := by
  obtain ⟨setter,property⟩ := between.apart u ((List.mem_tails u front).mpr ends) full
  unfold nameAt?
  rw [Text.apartNone setter,Text.apartNone property]
  simp

theorem labelHere {b : Option CodePoint} (other : b.any CodePoint.isWord = false) (labelled : Label label)
    (given : isQuote quote) (spelled : Spelled quote s w) (after : Text) :
    nameAt? b (label ++ (enclosed quote w ++ after)) = some w := by
  have first : ∀ gap : Text, (∀ c ∈ gap, c.isBlank) →
      (literals (Text.dropBlank (gap ++ (enclosed quote w ++ after)))).head? = some (w,after) := by
    intro gap blank
    rw [Text.dropBlank,List.dropWhile_append_of_pos blank]
    exact argumentFirst given spelled after
  cases labelled with
  | @setter gap blank =>
    unfold nameAt?
    rw [List.append_assoc,Text.afterLeadSelf]
    simp only [Option.bind_some,first gap blank]
    rfl
  | @property gap more sign blank signed blank₁ =>
    have dark : sign.isBlank = false := by rcases signed with rfl | rfl <;> rfl
    have equal : (sign == .char '=' || sign == .char ':') = true := by rcases signed with rfl | rfl <;> rfl
    have setter : (Text.ofString "name" ++ (gap ++ sign :: more) ++ (enclosed quote w ++ after)).afterLead? "setName(" = none := by
      rw [List.append_assoc]
      exact Text.apartNone (by decide) _
    have behind : Text.dropBlank (gap ++ sign :: more ++ (enclosed quote w ++ after)) =
        sign :: (more ++ (enclosed quote w ++ after)) := by
      rw [List.append_assoc,Text.dropBlank,List.dropWhile_append_of_pos blank,List.cons_append]
      exact Text.dropBlankSelf dark _
    unfold nameAt?
    rw [setter,List.append_assoc,Text.afterLeadSelf]
    simp only [Option.map_some,behind,equal,first more blank₁,other,Bool.false_eq_true,if_false,if_true]
    rfl

theorem nameFound (marked : mark = .char '"' ∨ mark = .char '\'') (signs : ∀ c ∈ word, c.isWord) (between : Between front)
    (labelled : Label label) (given : isQuote quote) (spelled : Spelled quote s w) :
    accessibleName? (labelledRole mark word front label quote w after) = some w := by
  have line : labelledRole mark word front label quote w after =
      (mark :: word) ++ ([mark] ++ (front ++ (label ++ (enclosed quote w ++ after)))) := by
    simp [labelledRole,enclosed]
  have plain : mark ≠ .char 's' ∧ mark ≠ .char 'n' ∧ mark.isWord = false := by rcases marked with rfl | rfl <;> decide +kernel
  rw [accessibleName?,line,Text.searchPast,Text.searchPast,Text.searchPast]
  · have other : (front.getLast?.or ([mark].getLast?.or ((mark :: word).getLast?.or none))).any CodePoint.isWord = false := by
      cases last : front.getLast? with
      | none => exact plain.2.2
      | some c => exact between.ends c last
    have found := labelHere other labelled given spelled after
    obtain ⟨c,t,shape⟩ : ∃ c t, label ++ (enclosed quote w ++ after) = c :: t := by
      cases labelled <;> exact ⟨_,_,rfl⟩
    rw [shape] at found ⊢
    exact Text.searchHere found
  · exact fun b u full ends => frontPast between full ends _
  · intro b u full ends
    rcases List.suffix_cons_iff.mp ends with rfl | none
    · exact labelOther plain.1 plain.2.1
    · exact absurd (List.suffix_nil.mp none) full
  · intro b u _ ends
    apply noLabel marked
    intro c inside
    rcases List.mem_cons.mp (ends.subset inside) with same | among
    · exact .inr same
    · exact .inl (signs c among)

theorem constantFound (found : roleConstant? t = some role) : role ≠ [] ∧ (∀ c ∈ role, c.isWord) ∧ NamesConstant t := by
  obtain ⟨_,u,ends,read⟩ := Text.searchFound found
  obtain ⟨c,isWord,stands⟩ := constantRead read
  obtain ⟨rest,_,taken⟩ := Option.bind_eq_some_iff.mp read
  obtain ⟨pair,worded,rfl⟩ := Option.map_eq_some_iff.mp taken
  unfold takeWord? at worded
  simp only at worded
  split at worded
  · contradiction
  · rename_i some
    obtain rfl := Option.some.inj worded
    exact ⟨by simpa using some,(Text.takenStops CodePoint.isWord rest).1,c,isWord,stands.trans ends.isInfix⟩

end arguments

section agreement
variable {role name : Text}

theorem roleAgrees (full : role ≠ []) (signs : ∀ c ∈ role, c.isWord) (plain : .char 'İ' ∉ role) : Agrees role name := by
  obtain ⟨long,lowered⟩ := lowerWords signs plain
  have some : role.lower ≠ [] := by
    rw [← List.length_pos_iff,long]
    exact List.length_pos_iff.mpr full
  have read : kept name ≠ [] → readable (namedRole role name) = readable ("text=" ++ kept name) :=
    Naming.readableRole some lowered
  refine ⟨fun empty => ?_,read,fun given free apart => ?_,fun shows => ?_⟩
  · exact (Naming.roleNameRead some lowered).trans (if_pos empty)
  · have same := Naming.keptWhole free apart
    rw [read (by rwa [same]),same]
  · obtain ⟨c,member,_⟩ := id shows
    obtain ⟨more,whole⟩ := Naming.keptPrefix name
    rw [read (List.ne_nil_of_mem member)]
    have longer := Naming.readableLonger shows more
    rwa [whole] at longer

end agreement

/- For every role word and name, the arguments of the accessor give a selector for the role, or for the role constant that
stands in the arguments, and for the whole name. What is cut off of the name is known then. -/
theorem roleNamesAgree {mark quote : CodePoint} {word front label w after : Text} {s : List Char}
    (marked : mark = .char '"' ∨ mark = .char '\'') (full : word ≠ []) (signs : ∀ c ∈ word, c.isWord)
    (between : Between front) (labelled : Label label) (given : isQuote quote) (spelled : Spelled quote s w) :
    ∃ role, (role = word ∨ NamesConstant (labelledRole mark word front label quote w after)) ∧
      roleSelector? (labelledRole mark word front label quote w after) = some (namedRole role (s.map .char)) ∧
      (.char 'İ' ∉ role → Agrees role (s.map .char)) := by
  have quoted : quotedRole? (labelledRole mark word front label quote w after) = some word := quotedWord marked full signs _
  have named : accessibleName? (labelledRole mark word front label quote w after) = some w :=
    nameFound marked signs between labelled given spelled
  cases constant : roleConstant? (labelledRole mark word front label quote w after) with
  | none =>
    refine ⟨word,.inl rfl,?_,roleAgrees full signs⟩
    rw [roleSelector?,constant,quoted,named]
    simp [namedRole,unescapeSpelled spelled]
  | some role =>
    obtain ⟨some,isWord,names⟩ := constantFound constant
    refine ⟨role,.inr names,?_,roleAgrees some isWord⟩
    rw [roleSelector?,constant,named]
    simp [namedRole,unescapeSpelled spelled]

theorem openNamed : Between ", new Page.GetByRoleOptions()." ∧ Label "setName(" ∧ Spelled (.char '"') ['O','K'] "OK" ∧
    ∃ role, (role = Text.ofString "button" ∨
        NamesConstant (labelledRole (.char '"') "button" ", new Page.GetByRoleOptions()." "setName(" (.char '"') "OK" ")")) ∧
      roleSelector? (labelledRole (.char '"') "button" ", new Page.GetByRoleOptions()." "setName(" (.char '"') "OK" ")") =
        some (namedRole role "OK") ∧ (.char 'İ' ∉ role → Agrees role "OK") := by
  have between : Between ", new Page.GetByRoleOptions()." := ⟨by decide,by decide⟩
  have labelled : Label "setName(" := @Label.setter [] nofun
  have spelled : Spelled (.char '"') ['O','K'] "OK" :=
    .cons (.raw (by decide) (by decide) (by decide)) (.cons (.raw (by decide) (by decide) (by decide)) .nil)
  exact ⟨between,labelled,spelled,roleNamesAgree (.inl rfl) (by decide) (by decide +kernel) between labelled rfl spelled⟩

theorem apostropheCuts :
    (roleSelector? "'button', \x7b name: \"Don't save\" \x7d").map readable = some (Text.ofString "Don") ∧
    (roleSelector? "'button', \x7b name: \"Don't send\" \x7d").map readable = some (Text.ofString "Don") ∧
    readable "text=Don't save" = "DonTSave" ∧ readable "text=Don't send" = "DonTSend" := by
  decide +kernel

end TestWeaver.Recording
