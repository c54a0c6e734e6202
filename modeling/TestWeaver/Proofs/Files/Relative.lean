import TestWeaver.Proofs.Naming.Files

/-! Paths put together. A directory whose normal form does not step up leads to the same place below
whatever it is joined to, and the path of a file as seen from such a directory leads to the file. -/
namespace TestWeaver.Path

abbrev up : Text := ".."

structure IsSegment (part : Text) : Prop where
  free : slash ∉ part
  full : part.isEmpty = false
  here : part ≠ "."

theorem upIsSegment : IsSegment up := ⟨by decide,rfl,by decide⟩

theorem segmentsOwn (path : Text) : ∀ part ∈ segments path, IsSegment part ∧ part ⊆ path := by
  intro part member
  obtain ⟨parted,kept⟩ := List.mem_filter.mp member
  obtain ⟨full,here⟩ := Bool.and_eq_true_iff.mp kept
  obtain ⟨free,inside⟩ := Text.splitWithin path slash part parted
  exact ⟨⟨free,by simpa using full,by simpa using here⟩,inside⟩

theorem segmentsSingle {part : Text} (own : IsSegment part) : segments part = [part] := by
  rw [segments,Text.splitFree own.free,List.filter_cons_of_pos]
  · rfl
  · simp [own.full,own.here]

theorem segmentsJoined {parts : List Text} (each : ∀ part ∈ parts, IsSegment part) :
    segments (Text.join "/" parts) = parts := by
  induction parts with
  | nil => rfl
  | cons part rest ih =>
    rw [List.forall_mem_cons] at each
    cases rest with
    | nil => rw [Text.joinSingle,segmentsSingle each.1]
    | cons next rest =>
      rw [Text.joinCons,List.append_assoc]
      have behind := segmentsBehind part (Text.join "/" (next :: rest))
      rw [segmentsSingle each.1,ih each.2] at behind
      exact behind

section settling
variable {place above parts found : List Text}

/- Where segments lead from a place that is below any other: to one that is below it as well, without a step up
beyond it. -/
structure Leads (place parts found : List Text) : Prop where
  within : ∀ part ∈ found, part ∈ place ++ parts ∧ part ≠ up
  steps : ∀ above, parts.foldl step (place ++ above) = found ++ above
  settles : ∀ absolute above, parts.foldl (settle absolute) (place ++ above) = found ++ above

theorem climbed (upward : place.getLast? = some up) (parts : List Text) :
    (parts.foldl (settle false) place).getLast? = some up := by
  induction parts generalizing place with
  | nil => exact upward
  | cons part rest ih =>
    refine ih ?_
    unfold settle
    cases place with
    | nil => cases upward
    | cons last place =>
      split
      · dsimp only
        split
        · exact upward
        · rename_i other
          cases place with
          | nil => exact absurd (Option.some.inj upward) other
          | cons next place => exact upward
      · exact upward

theorem leadsOrClimbs (bare : up ∉ place) (parts : List Text) :
    (∃ found, Leads place parts found) ∨ (parts.foldl (settle false) place).getLast? = some up := by
  induction parts generalizing place with
  | nil =>
    refine .inl ⟨place,fun part member => ⟨by simpa using member,?_⟩,fun _ => rfl,fun _ _ => rfl⟩
    rintro rfl
    exact bare member
  | cons part rest ih =>
    by_cases upward : part = up
    · subst upward
      cases place with
      -- nothing is left to take back, so the step up stays for good
      | nil => exact .inr (climbed rfl rest)
      | cons last place =>
        rw [List.mem_cons,not_or] at bare
        have other : last ≠ up := Ne.symm bare.1
        rcases ih bare.2 with ⟨found,leads⟩ | climbs
        · refine .inl ⟨found,fun part member => ?_,fun above => ?_,fun absolute above => ?_⟩
          · obtain ⟨inside,plain⟩ := leads.within part member
            refine ⟨?_,plain⟩
            simp only [List.mem_append,List.mem_cons] at inside ⊢
            tauto
          · simpa [step] using leads.steps above
          · simpa [settle,other] using leads.settles absolute above
        · exact .inr (by simpa [settle,other] using climbs)
    · have bare : up ∉ part :: place := by
        rw [List.mem_cons,not_or]
        exact ⟨Ne.symm upward,bare⟩
      rcases ih bare with ⟨found,leads⟩ | climbs
      · refine .inl ⟨found,fun part member => ?_,fun above => ?_,fun absolute above => ?_⟩
        · obtain ⟨inside,plain⟩ := leads.within part member
          refine ⟨?_,plain⟩
          simp only [List.mem_append,List.mem_cons] at inside ⊢
          tauto
        · simpa [step,upward] using leads.steps above
        · simpa [settle,upward] using leads.settles absolute above
      · exact .inr (by simpa [settle,upward] using climbs)

theorem settleBack (absolute : Bool) (bare : up ∉ place) (above : List Text) :
    (List.replicate place.length ([.char '.',.char '.'] : Text)).foldl (settle absolute) (place ++ above) = above := by
  induction place with
  | nil => rfl
  | cons last place ih =>
    rw [List.mem_cons,not_or] at bare
    have back : settle absolute (last :: place ++ above) [.char '.',.char '.'] = place ++ above := by
      have other : last ≠ up := Ne.symm bare.1
      exact (if_pos rfl).trans (if_neg other)
    rw [List.length_cons,List.replicate_succ,List.foldl_cons,back]
    exact ih bare.2

theorem settleDown (absolute : Bool) (bare : up ∉ parts) (above : List Text) :
    parts.foldl (settle absolute) above = parts.reverse ++ above := by
  induction parts generalizing above with
  | nil => rfl
  | cons part rest ih =>
    rw [List.mem_cons,not_or] at bare
    have down : settle absolute above part = part :: above := if_neg (Ne.symm bare.1)
    rw [List.foldl_cons,down,ih bare.2,List.reverse_cons,List.append_assoc,List.singleton_append]

end settling

section between
variable (start target : List Text)

theorem commonShared (shared : List Text) :
    commonLength (shared ++ start) (shared ++ target) = shared.length + commonLength start target := by
  induction shared with
  | nil => simp
  | cons part shared ih =>
    rw [List.cons_append,List.cons_append,commonLength,if_pos rfl,ih,List.length_cons]
    omega

theorem betweenShared (shared : List Text) : between (shared ++ start) (shared ++ target) = between start target := by
  rw [between,between,commonShared,List.length_append,Nat.add_sub_add_left,List.drop_append]
  simp

theorem betweenParts : ∃ shared s t, start = shared ++ s ∧ target = shared ++ t ∧
    between start target = List.replicate s.length up ++ t := by
  induction start generalizing target with
  | nil => exact ⟨[],[],target,rfl,rfl,by simp [between,commonLength]⟩
  | cons a start ih =>
    cases target with
    | nil => exact ⟨[],a :: start,[],rfl,rfl,by simp [between,commonLength]; rfl⟩
    | cons b target =>
      by_cases same : a = b
      · subst same
        obtain ⟨shared,s,t,left,right,parts⟩ := ih target
        have inner := betweenShared start target [a]
        refine ⟨a :: shared,s,t,?_,?_,inner.trans parts⟩
        · rw [left,List.cons_append]
        · rw [right,List.cons_append]
      · refine ⟨[],a :: start,b :: target,rfl,rfl,?_⟩
        rw [between,commonLength,if_neg same]
        rfl

end between

section normal
variable {path directory file : Text}

theorem leadBefore {lead : Text} (slashes : ∀ c ∈ lead, c = slash) (relative : isAbsolute path = false) (base : Text) :
    (base ++ path).startsWith lead = base.startsWith lead := by
  rw [Bool.eq_iff_iff,Text.startsWith,Text.startsWith,List.isPrefixOf_iff_prefix,List.isPrefixOf_iff_prefix]
  refine ⟨fun leads => ?_,fun leads => leads.trans (List.prefix_append base path)⟩
  rcases List.prefix_or_prefix_of_prefix leads (List.prefix_append base path) with inside | ⟨rest,rfl⟩
  · exact inside
  · cases rest with
    | nil => exact (List.append_nil base).symm ▸ List.prefix_rfl
    | cons c rest =>
      obtain ⟨tail,rfl⟩ := (List.prefix_append_right_inj base).mp leads
      obtain rfl := slashes c (by simp)
      cases relative

theorem leadJoin {lead : Text} (slashes : ∀ c ∈ lead, c = slash) (relative : isAbsolute path = false) (base : Text) :
    (join base path).startsWith lead = base.startsWith lead := by
  rw [join,relative,if_neg Bool.false_ne_true]
  split
  · exact leadBefore slashes relative base
  · rename_i unended
    rw [leadBefore slashes relative,Bool.eq_iff_iff,Text.startsWith,Text.startsWith,List.isPrefixOf_iff_prefix,
      List.isPrefixOf_iff_prefix]
    refine ⟨fun leads => ?_,fun leads => leads.trans (List.prefix_append base "/")⟩
    rcases List.prefix_concat_iff.mp leads with whole | inside
    · obtain ⟨full,last⟩ := not_or.mp fun ends => unended (Bool.or_eq_true_iff.mpr ends)
      refine absurd ?_ last
      obtain ⟨front,c,rfl⟩ := (List.eq_nil_or_concat base).resolve_left fun empty => full (List.isEmpty_iff.mpr empty)
      obtain rfl := slashes c (by rw [whole]; simp)
      exact List.isSuffixOf_iff_suffix.mpr ⟨front,(List.concat_eq_append).symm⟩
    · exact inside

theorem rootJoin (relative : isAbsolute path = false) (base : Text) :
    root (join base path) = root base ∧ isAbsolute (join base path) = isAbsolute base := by
  have one := @leadJoin path "/" (by decide) relative base
  have two := @leadJoin path "//" (by decide) relative base
  have three := @leadJoin path "///" (by decide) relative base
  exact ⟨by rw [root,root,isAbsolute,isAbsolute,one,two,three],one⟩

theorem resolveProper {name : Text} (proper : Proper name) (working : List Text) (base : Text) :
    resolve working (join base name) = resolve working base ++ [name] := by
  rw [resolve,resolve,(rootJoin (freeRelative proper.free) base).2,segmentsJoin proper,List.foldl_append,List.foldl_cons,
    List.foldl_nil,step,if_neg proper.up,List.reverse_cons]

theorem settleMembers (absolute : Bool) (place : List Text) (next : Text) :
    ∀ part ∈ settle absolute place next, part ∈ next :: place := by
  intro part member
  unfold settle at member
  split at member
  · split at member
    · split at member
      · cases member
      · exact List.mem_cons.mpr (.inl (List.mem_singleton.mp member))
    · split at member
      · exact member
      · exact List.mem_cons_of_mem _ (List.mem_cons_of_mem _ member)
  · exact member

theorem settledMembers (absolute : Bool) (parts place : List Text) :
    ∀ part ∈ parts.foldl (settle absolute) place, part ∈ place ++ parts := by
  induction parts generalizing place with
  | nil => simp
  | cons next rest ih =>
    intro part member
    rcases List.mem_append.mp (ih _ part member) with here | later
    · rcases List.mem_cons.mp (settleMembers absolute place next part here) with rfl | before
      · simp
      · exact List.mem_append_left _ before
    · exact List.mem_append_right _ (List.mem_cons_of_mem _ later)

/- A directory below whatever it is joined to: its path is no absolute one, and its normal form does not step up. -/
structure Inside (directory : Text) : Prop where
  relative : isAbsolute directory = false
  below : up ∉ segments (normal directory)

theorem insideIff : (isAbsolute directory || (segments (normal directory)).elem up) = false ↔ Inside directory := by
  rw [Bool.or_eq_false_iff,← Bool.not_eq_true (List.elem _ _),List.elem_iff]
  exact ⟨fun ⟨relative,below⟩ => ⟨relative,below⟩,fun inside => ⟨inside.relative,inside.below⟩⟩

instance (directory : Text) : Decidable (Inside directory) := decidable_of_iff _ insideIff

theorem segmentsNormal (relative : isAbsolute path = false) :
    segments (normal path) = ((segments path).foldl (settle false) []).reverse := by
  have parts : ∀ part ∈ ((segments path).foldl (settle false) []).reverse, IsSegment part := fun part member =>
    (segmentsOwn path part (settledMembers false (segments path) [] part (List.mem_reverse.mp member))).1
  have bare : root path = [] := by
    have same : join [] path = path := by
      rw [join,relative]
      rfl
    rw [← same,(rootJoin relative []).1]
    rfl
  rw [normal,relative,bare,List.nil_append]
  split
  · rename_i empty
    have joined := segmentsJoined parts
    rw [List.isEmpty_iff.mp empty] at joined
    exact joined
  · exact segmentsJoined parts

theorem insideLeads (inside : Inside directory) : ∃ found, Leads [] (segments directory) found := by
  rcases leadsOrClimbs (List.not_mem_nil (a := up)) (segments directory) with leads | climbs
  · exact leads
  · refine absurd ?_ inside.below
    rw [segmentsNormal inside.relative]
    exact List.mem_reverse.mpr (List.mem_of_getLast? climbs)

theorem normalSame {a b : Text} (roots : root a = root b) (absolute : isAbsolute a = isAbsolute b)
    (same : (segments a).foldl (settle (isAbsolute a)) [] = (segments b).foldl (settle (isAbsolute a)) []) :
    normal a = normal b := by
  rw [normal,normal,← roots,← absolute,same]

end normal

section relative
variable {start path file : Text} {found reached : List Text}

theorem normalNested (first : isAbsolute path = false) (second : isAbsolute file = false) (base : Text) :
    normal (join base (join path file)) = normal (join (join base path) file) := by
  obtain ⟨_,inner⟩ := rootJoin second path
  obtain ⟨nestedRoot,nestedAbsolute⟩ := rootJoin (inner.trans first) base
  obtain ⟨baseRoot,baseAbsolute⟩ := rootJoin first base
  obtain ⟨pathRoot,pathAbsolute⟩ := rootJoin second (join base path)
  have parts : segments (join base (join path file)) = segments (join (join base path) file) := by
    rw [segmentsRelative (inner.trans first),segmentsRelative second,segmentsRelative second,segmentsRelative first,
      List.append_assoc]
  exact normalSame (by rw [nestedRoot,pathRoot,baseRoot]) (by rw [nestedAbsolute,pathAbsolute,baseAbsolute]) (by rw [parts])

theorem leadsName (proper : Proper file) {parts : List Text} (leads : Leads [] parts found) :
    Leads [] (parts ++ [file]) (file :: found) := by
  refine ⟨fun part member => ?_,fun above => ?_,fun absolute above => ?_⟩
  · rcases List.mem_cons.mp member with rfl | member
    · exact ⟨by simp,proper.up⟩
    · obtain ⟨inside,plain⟩ := leads.within part member
      exact ⟨List.mem_append_left [file] inside,plain⟩
  · rw [List.foldl_append,leads.steps above,List.foldl_cons,List.foldl_nil,step,if_neg proper.up,List.cons_append]
  · have down : settle absolute (found ++ above) file = file :: (found ++ above) := if_neg proper.up
    rw [List.foldl_append,leads.settles absolute above,List.foldl_cons,List.foldl_nil,down,List.cons_append]

theorem resolveLeads (relative : isAbsolute path = false) (leads : Leads [] (segments path) found) (working : List Text) :
    resolve working path = working ++ found.reverse := by
  have steps := leads.steps working.reverse
  rw [List.nil_append] at steps
  rw [resolve,relative,if_neg Bool.false_ne_true,steps,List.reverse_append,List.reverse_reverse]

theorem joinedRelative {parts : List Text} (each : ∀ part ∈ parts, IsSegment part) :
    isAbsolute (Text.join "/" parts) = false := by
  cases parts with
  | nil => rfl
  | cons part rest =>
    have own := each part List.mem_cons_self
    obtain ⟨tail,same⟩ : ∃ tail, Text.join "/" (part :: rest) = part ++ tail := by
      cases rest with
      | nil => exact ⟨[],by rw [Text.joinSingle,List.append_nil]⟩
      | cons next rest => exact ⟨_,by rw [Text.joinCons,List.append_assoc]⟩
    have full : part ≠ [] := by simpa using own.full
    obtain ⟨c,part,rfl⟩ := List.exists_cons_of_ne_nil full
    have other : c ≠ slash := fun slashed => own.free (slashed ▸ List.mem_cons_self)
    rw [same]
    simpa [isAbsolute,Text.startsWith,Text.ofString,List.isPrefixOf,slash] using Ne.symm other

/- The path of a file as seen from a directory: steps up to what both share, then names down, with single slashes
between them. -/
structure Seen (found reached : List Text) (seen : Text) (shared left entered : List Text) : Prop where
  start : found.reverse = shared ++ left
  target : reached.reverse = shared ++ entered
  parts : segments seen = List.replicate left.length up ++ entered
  relative : isAbsolute seen = false
  joined : seen = "." ∨ seen = Text.join "/" (segments seen)

theorem relativeSeen (first : isAbsolute start = false) (second : isAbsolute path = false)
    (begins : Leads [] (segments start) found) (arrives : Leads [] (segments path) reached) (working : List Text) :
    ∃ shared left entered, Seen found reached (relative working path start) shared left entered := by
  obtain ⟨shared,left,entered,from_,to_,parts⟩ := betweenParts found.reverse reached.reverse
  have each : ∀ part ∈ List.replicate left.length up ++ entered, IsSegment part := by
    intro part member
    rcases List.mem_append.mp member with upward | inside
    · rw [List.eq_of_mem_replicate upward]
      exact upIsSegment
    · have reachedBy : part ∈ reached := List.mem_reverse.mp (to_ ▸ List.mem_append_right shared inside)
      exact (segmentsOwn path part (arrives.within part reachedBy).1).1
  refine ⟨shared,left,entered,?_⟩
  have placed : between (resolve working start) (resolve working path) = List.replicate left.length up ++ entered := by
    rw [resolveLeads first begins,resolveLeads second arrives,betweenShared,parts]
  rw [relative,placed]
  split
  · rename_i none
    exact ⟨from_,to_,none ▸ rfl,rfl,.inl rfl⟩
  · have same := segmentsJoined each
    exact ⟨from_,to_,same,joinedRelative each,.inr (by rw [same])⟩

theorem relativeLeads (first : isAbsolute start = false) (second : isAbsolute path = false)
    (begins : Leads [] (segments start) found) (arrives : Leads [] (segments path) reached) (base : Text)
    (working : List Text) : normal (join (join base start) (relative working path start)) = normal (join base path) := by
  obtain ⟨shared,left,entered,seen⟩ := relativeSeen first second begins arrives working
  obtain ⟨rootStart,absoluteStart⟩ := rootJoin first base
  obtain ⟨rootSeen,absoluteSeen⟩ := rootJoin seen.relative (join base start)
  obtain ⟨rootPath,absolutePath⟩ := rootJoin second base
  have bareLeft : up ∉ left := fun member =>
    (begins.within up (List.mem_reverse.mp (seen.start ▸ List.mem_append_right shared member))).2 rfl
  have bareEntered : up ∉ entered := fun member =>
    (arrives.within up (List.mem_reverse.mp (seen.target ▸ List.mem_append_right shared member))).2 rfl
  refine normalSame (by rw [rootSeen,rootStart,rootPath]) (by rw [absoluteSeen,absoluteStart,absolutePath]) ?_
  rw [absoluteSeen,absoluteStart,segmentsRelative seen.relative,segmentsRelative first,segmentsRelative second,seen.parts]
  generalize isAbsolute base = absolute
  have below : ∀ above, found ++ above = left.reverse ++ (shared.reverse ++ above) := by
    intro above
    rw [← List.append_assoc,← List.reverse_append,← seen.start,List.reverse_reverse]
  have reachedBelow : ∀ above, reached ++ above = entered.reverse ++ (shared.reverse ++ above) := by
    intro above
    rw [← List.append_assoc,← List.reverse_append,← seen.target,List.reverse_reverse]
  have back : ∀ above, (List.replicate left.length up).foldl (settle absolute) (left.reverse ++ above) = above := by
    intro above
    rw [← List.length_reverse]
    exact settleBack absolute (by rwa [List.mem_reverse]) above
  have started := begins.settles absolute
  have ended := arrives.settles absolute
  simp only [List.nil_append] at started ended
  rw [List.foldl_append,List.foldl_append,List.foldl_append,List.foldl_append,started,ended,below,back,
    settleDown absolute bareEntered,reachedBelow]

end relative
end TestWeaver.Path
