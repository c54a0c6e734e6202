import TestWeaver.Proofs.Naming.Spelling
import TestWeaver.Proofs.Text.Replace

/-! What is read of an accessible name that stands escaped between double quotes. The escape guards double quotes only,
so the reader stops at any other mark, at a closing bracket, and behind a backslash that the name has before a double
quote of its own. -/
namespace TestWeaver.Naming

def escaped (name : Text) : Text := name.replace "\"" "\\\""

/- The part of a name up to the first sign that ends it. A backslash keeps the next sign with it. -/
def kept : Text → Text
  | [] => []
  | [c] => if c = .char '\'' ∨ c = .char ']' then [] else [c]
  | c :: d :: t =>
    if c = .char '\\' ∧ d ≠ .char '\n' then if d = .char '"' then [c] else c :: d :: kept t
    else if c = .char '\'' ∨ c = .char ']' then [] else c :: kept (d :: t)

section kept
variable {c d : CodePoint} {name t : Text}

theorem keptPrefix (name : Text) : kept name <+: name := by
  induction name using kept.induct with
  | case1 => exact List.nil_prefix
  | case2 c ends => rw [kept,if_pos ends]; exact List.nil_prefix
  | case3 c open_ => exact ⟨[],by simp [kept,open_]⟩
  | case4 c t guard => rw [kept,if_pos guard,if_pos rfl]; exact List.prefix_append [c] _
  | case5 c d t guard other ih =>
    rw [kept,if_pos guard,if_neg other]
    exact List.cons_prefix_cons.mpr ⟨rfl,List.cons_prefix_cons.mpr ⟨rfl,ih⟩⟩
  | case6 c d t free ends => rw [kept,if_neg free,if_pos ends]; exact List.nil_prefix
  | case7 c d t free open_ ih =>
    rw [kept,if_neg free,if_neg open_]
    exact List.cons_prefix_cons.mpr ⟨rfl,ih⟩

theorem keptWhole (free : ∀ c ∈ name, c ≠ .char '\'' ∧ c ≠ .char ']') (apart : ¬ [.char '\\',.char '"'] <:+: name) :
    kept name = name := by
  induction name using kept.induct with
  | case1 => rfl
  | case2 c ends => exact absurd ends (not_or.mpr (free c List.mem_cons_self))
  | case3 c open_ => rw [kept,if_neg open_]
  | case4 c t guard => exact absurd ⟨[],t,by simp [guard.1]⟩ apart
  | case5 c d t guard other ih =>
    rw [kept,if_pos guard,if_neg other,ih]
    · exact fun c member => free c (List.mem_cons_of_mem _ (List.mem_cons_of_mem _ member))
    · exact fun inside => apart (inside.trans ⟨[c,d],[],by simp⟩)
  | case6 c d t guard ends => exact absurd ends (not_or.mpr (free c List.mem_cons_self))
  | case7 c d t guard open_ ih =>
    rw [kept,if_neg guard,if_neg open_,ih]
    · exact fun c member => free c (List.mem_cons_of_mem _ member)
    · exact fun inside => apart (inside.trans ⟨[c],[],by simp⟩)

theorem escapedCons (c : CodePoint) (t : Text) :
    escaped (c :: t) = (if c = .char '"' then [.char '\\',.char '"'] else [c]) ++ escaped t := by
  have sign := fun t => Text.replaceSign (.char '"') "\\\"" t
  unfold escaped
  rw [show Text.ofString "\"" = [.char '"'] from rfl,sign,sign]
  rfl

theorem escapedFull (full : name ≠ []) : escaped name ≠ [] := by
  obtain ⟨c,t,rfl⟩ := List.exists_cons_of_ne_nil full
  rw [escapedCons]
  split <;> simp

theorem runGuarded (other : d ≠ .char '\n') : accessibleRun (.char '\\' :: d :: t) = .char '\\' :: d :: accessibleRun t := by
  simp [accessibleRun,other]

theorem runFeed : accessibleRun (.char '\\' :: .char '\n' :: t) = .char '\\' :: accessibleRun (.char '\n' :: t) := by
  simp [accessibleRun,isMark]

theorem runEnds (ends : isMark c || c == .char ']') : accessibleRun (c :: t) = [] := by
  have plain : c ≠ .char '\\' := by
    rintro rfl
    exact absurd ends (by decide)
  cases t with
  | nil => simp [accessibleRun,ends]
  | cons d t => simp [accessibleRun,plain,ends]

theorem runPlain (plain : c ≠ .char '\\') (other : (isMark c || c == .char ']') = false) :
    accessibleRun (c :: t) = c :: accessibleRun t := by
  cases t with
  | nil => simp [accessibleRun,other]
  | cons d t => simp [accessibleRun,plain,other]

theorem escapedPlain (other : c ≠ .char '"') (t : Text) : escaped (c :: t) = c :: escaped t := by
  rw [escapedCons,if_neg other,List.singleton_append]

theorem escapedMark (t : Text) : escaped (.char '"' :: t) = .char '\\' :: .char '"' :: escaped t := by
  rw [escapedCons,if_pos rfl]
  rfl

theorem markOrBracket (other : ¬ (c = .char '\'' ∨ c = .char ']')) (plain : c ≠ .char '"') :
    (isMark c || c == .char ']') = false := by
  obtain ⟨single,bracket⟩ := not_or.mp other
  simp [isMark,single,bracket,plain]

/- What is read of an escaped name is what is kept of the name, escaped, and maybe one more mark or backslash. -/
theorem runEscaped (name : Text) : ∃ extra, accessibleRun (escaped name ++ "\"]") = escaped (kept name) ++ extra ∧
    (∀ c ∈ extra, c.isAlnum = false) ∧ (kept name = [] → extra = []) := by
  have ended : ∀ {c t}, c = .char '\'' ∨ c = .char ']' → accessibleRun (escaped (c :: t) ++ "\"]") = [] := by
    intro c t ends
    rcases ends with rfl | rfl
    · rw [escapedPlain (by decide)]
      exact runEnds (by decide)
    · rw [escapedPlain (by decide)]
      exact runEnds (by decide)
  -- only a quotation mark is escaped, so reading ends at the apostrophe or the bracket at which the kept part does
  induction name using kept.induct with
  | case1 => exact ⟨[],rfl,nofun,fun _ => rfl⟩
  | case2 c ends => exact ⟨[],by rw [kept,if_pos ends,ended ends]; rfl,nofun,fun _ => rfl⟩
  | case3 c open_ =>
    rw [kept,if_neg open_]
    by_cases mark : c = .char '"'
    · exact ⟨[],by rw [mark]; decide,nofun,fun _ => rfl⟩
    by_cases guard : c = .char '\\'
    · exact ⟨[.char '"'],by rw [guard]; decide,by decide,by simp⟩
    · refine ⟨[],?_,nofun,fun _ => rfl⟩
      rw [escapedPlain mark,List.cons_append,runPlain guard (markOrBracket open_ mark)]
      rfl
  | case4 c t guard =>
    refine ⟨[.char '\\'],?_,by decide,by simp [kept,guard]⟩
    obtain ⟨rfl,_⟩ := guard
    rw [kept,if_pos ⟨rfl,by decide⟩,if_pos rfl,escapedPlain (by decide),escapedMark,List.cons_append,List.cons_append,
      runGuarded (by decide),List.cons_append,runEnds (by decide)]
    rfl
  | case5 c d t guard other ih =>
    obtain ⟨extra,read,plain,_⟩ := ih
    refine ⟨extra,?_,plain,by simp [kept,guard,other]⟩
    obtain ⟨rfl,line⟩ := guard
    rw [kept,if_pos ⟨rfl,line⟩,if_neg other,escapedPlain (by decide),escapedPlain other,escapedPlain (by decide),escapedPlain other,
      List.cons_append,List.cons_append,runGuarded line,read]
    rfl
  | case6 c d t free ends => exact ⟨[],by rw [kept,if_neg free,if_pos ends,ended ends]; rfl,nofun,fun _ => rfl⟩
  | case7 c d t free open_ ih =>
    obtain ⟨extra,read,plain,_⟩ := ih
    refine ⟨extra,?_,plain,by simp [kept,free,open_]⟩
    rw [kept,if_neg free,if_neg open_]
    by_cases mark : c = .char '"'
    · rw [mark,escapedMark,escapedMark,List.cons_append,List.cons_append,runGuarded (by decide),read]
      rfl
    rw [escapedPlain mark,escapedPlain mark,List.cons_append]
    by_cases guard : c = .char '\\'
    · -- a line feed is not guarded, so the backslash stands for itself
      have line : d = .char '\n' := Classical.not_not.mp fun other => free ⟨guard,other⟩
      rw [guard,line,escapedPlain (by decide),List.cons_append,runFeed,← List.cons_append,← escapedPlain (by decide),← line,read]
      rfl
    · rw [runPlain guard (markOrBracket open_ mark),read]
      rfl

theorem escapedWords (run name : Text) :
    Text.runs.go CodePoint.isAlnum run (escaped name) = Text.runs.go CodePoint.isAlnum run name := by
  induction name generalizing run with
  | nil => rfl
  | cons c name ih =>
    by_cases mark : c = .char '"'
    · have guard : CodePoint.isAlnum (.char '\\') = false := by decide
      have sign : CodePoint.isAlnum (.char '"') = false := by decide
      rw [mark,escapedMark]
      simp only [Text.runs.go,guard,sign,Bool.false_eq_true,if_false,List.isEmpty_nil,if_true,ih]
    · rw [escapedPlain mark]
      simp only [Text.runs.go,ih]

end kept

section roles
variable {role name : Text}

def roleNamed (role name : Text) : Text := "role=" ++ role ++ "[name=\"" ++ escaped name ++ "\"]"

theorem roleNameRead (full : role ≠ []) (signs : ∀ c ∈ role, c.isWord) : roleName? (roleNamed role name) =
    if kept name = [] then none else some (accessibleRun (escaped name ++ "\"]")) := by
  generalize read : accessibleRun (escaped name ++ "\"]") = found
  have shape : roleNamed role name = Text.ofString "role=" ++ (role ++ (.char '[' :: (Text.ofString "name" ++
      (.char '=' :: .char '"' :: (escaped name ++ Text.ofString "\"]"))))) := by
    simp [roleNamed,Text.ofString]
  have word : ∀ t : Text, (role ++ .char '[' :: t).takeWhile CodePoint.isWord = role := by
    intro t
    rw [List.takeWhile_append_of_pos signs,List.takeWhile_cons_of_neg (by decide),List.append_nil]
  have bracket : ∀ t : Text, Text.afterLead? (.char '[' :: t) "[" = some t := fun t => Text.afterLeadSelf "[" t
  have label : ∀ t : Text, Text.afterLead? (Text.dropBlank (Text.ofString "name" ++ t)) "name" = some t :=
    fun t => Text.afterLeadSelf "name" t
  have equals : ∀ t : Text, Text.afterLead? (Text.dropBlank (.char '=' :: t)) "=" = some t := fun t => Text.afterLeadSelf "=" t
  have mark : ∀ t : Text, dropMark (Text.dropBlank (.char '"' :: t)) = t := fun _ => rfl
  have blanks : ∀ t : Text, (.char '"' :: t : Text).takeWhile CodePoint.isBlank = [] := fun _ => rfl
  have worded : role.isEmpty = false := List.isEmpty_eq_false_iff.mpr full
  obtain ⟨extra,run,_,none⟩ := runEscaped name
  rw [roleName?,shape,Text.afterLeadSelf]
  simp only [Option.bind_eq_bind,Option.bind_some,word,List.drop_left,bracket,label,equals,mark,blanks,worded,read,
    Bool.false_eq_true,if_false]
  by_cases empty : kept name = []
  · have nothing : found = [] := by rw [← read,run,empty,none empty]; rfl
    rw [if_pos empty,nothing]
    rfl
  · have some : found ≠ [] := by
      rw [← read,run]
      exact List.append_ne_nil_of_left_ne_nil (escapedFull empty) extra
    rw [if_neg empty,if_pos (by simpa using some)]

theorem readableRole (full : role ≠ []) (signs : ∀ c ∈ role, c.isWord) (some : kept name ≠ []) :
    readable (roleNamed role name) = readable ("text=" ++ kept name) := by
  obtain ⟨extra,read,plain,_⟩ := runEscaped name
  have found : roleName? (roleNamed role name) = _ := roleNameRead full signs
  rw [if_neg some,read] at found
  have shown : escaped (kept name) ++ extra ≠ [] := List.append_ne_nil_of_left_ne_nil (escapedFull some) extra
  have past : ∀ lead : Text, Text.Apart "role=" lead → (roleNamed role name).afterLead? lead = none := by
    intro lead apart
    rw [roleNamed,List.append_assoc,List.append_assoc,List.append_assoc]
    exact Text.apartNone apart _
  -- the rules that come first look for other leads
  have text : Rule.extract? .text (roleNamed role name) = none := past "text=" (by decide)
  have placeholder : Rule.extract? .placeholder (roleNamed role name) = none := past "placeholder=" (by decide)
  have label : Rule.extract? .label (roleNamed role name) = none := past "label=" (by decide)
  have id : Rule.extract? .id (roleNamed role name) = none := by rw [Rule.extract?,past "#" (by decide)]; rfl
  have rule : Rule.extract? .role (roleNamed role name) = .some (escaped (kept name) ++ extra) := found
  have raw : rawName (roleNamed role name) = escaped (kept name) ++ extra := by
    rw [rawName,Rule.all,List.findSome?_cons,List.findSome?_cons,List.findSome?_cons,List.findSome?_cons,List.findSome?_cons,
      text,placeholder,label,id,rule,Option.filter_some,if_pos (by simpa using shown)]
    rfl
  refine readableCleaned ?_
  rw [raw,rawText some,cleanWords,cleanWords,alnumWords,alnumWords,Text.runs,Text.runs,Text.runsBlank plain,escapedWords]

end roles
end TestWeaver.Naming
