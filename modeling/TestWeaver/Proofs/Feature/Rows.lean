import TestWeaver.Proofs.Feature.Table

/-! The data row of a table as it is read. No part of a value looks like a bar or an escape once it is
escaped, so a row has the cells that it was made of, and a cell the value, with a line feed for every
line end. -/
namespace TestWeaver.Feature
open TestWeaver.Action Generation

def bar : CodePoint := .char '|'

def backslash : CodePoint := .char '\\'

def opened (signs : Text) : List Text → List Text
  | [] => [signs]
  | part :: parts => (signs ++ part) :: parts

/- The parts of a row between its bars. What stands behind a backslash ends no part. -/
def barParts : Text → List Text
  | [] => [[]]
  | .char '|' :: t => [] :: barParts t
  | .char '\\' :: c :: t => opened [backslash,c] (barParts t)
  | c :: t => opened [c] (barParts t)

def cellsOf (row : Text) : List Text := ((barParts row).drop 1).dropLast

def meant : CodePoint → Text
  | .char '\\' => [backslash]
  | .char '|' => [bar]
  | .char 'n' => [.char '\n']
  | c => [backslash,c]

def readCell : Text → Text
  | [] => []
  | .char '\\' :: c :: t => meant c ++ readCell t
  | c :: t => c :: readCell t

def padded (t : Text) : Text := " " ++ t ++ " "

def Examples.ofTable (table : List (Text × Text)) : Examples where
  columns := table.map (·.1)
  values := table.map fun entry => .text entry.2

section signs
variable {c : CodePoint} {t a b : Text}

theorem openedOpened (parts : List Text) : opened a (opened b parts) = opened (a ++ b) parts := by
  cases parts <;> simp [opened]

theorem escapePlain (backslash : c ≠ .char '\\') (bar : c ≠ .char '|') (feed : c ≠ .char '\n') : escapeCell c = [c] := by
  unfold escapeCell
  split <;> first | contradiction | rfl

theorem barPlain (backslash : c ≠ .char '\\') (bar : c ≠ .char '|') (t : Text) : barParts (c :: t) = opened [c] (barParts t) := by
  conv_lhs => unfold barParts
  split <;> simp_all

theorem readPlain (backslash : c ≠ .char '\\') (t : Text) : readCell (c :: t) = c :: readCell t := by
  conv_lhs => unfold readCell
  split <;> simp_all

theorem escapeRead (c : CodePoint) (t : Text) :
    barParts (escapeCell c ++ t) = opened (escapeCell c) (barParts t) ∧ readCell (escapeCell c ++ t) = c :: readCell t := by
  by_cases slash : c = .char '\\'
  · subst slash
    exact ⟨by simp [escapeCell,Text.ofString,barParts,backslash],by simp [escapeCell,Text.ofString,readCell,meant,backslash]⟩
  by_cases line : c = .char '|'
  · subst line
    exact ⟨by simp [escapeCell,Text.ofString,barParts,backslash],by simp [escapeCell,Text.ofString,readCell,meant,bar]⟩
  by_cases feed : c = .char '\n'
  · subst feed
    exact ⟨by simp [escapeCell,Text.ofString,barParts,backslash],by simp [escapeCell,Text.ofString,readCell,meant]⟩
  rw [escapePlain slash line feed]
  exact ⟨barPlain slash line t,readPlain slash t⟩

theorem barFull (t : Text) : barParts t ≠ [] := by
  have full : ∀ signs parts, opened signs parts ≠ [] := by
    intro signs parts
    cases parts <;> exact List.cons_ne_nil _ _
  fun_cases barParts t
  · exact List.cons_ne_nil _ _
  · exact List.cons_ne_nil _ _
  · exact full _ _
  · exact full _ _

theorem escapesRead (value : Text) : readCell (value.flatMap escapeCell ++ t) = value ++ readCell t := by
  induction value with
  | nil => rfl
  | cons c value ih => rw [List.flatMap_cons,List.append_assoc,(escapeRead c _).2,ih,List.cons_append]

end signs

section parts
variable {a b : Text} {cells : List Text}

def Closed (a : Text) : Prop := ∀ t, barParts (a ++ t) = opened a (barParts t)

theorem closedAppend (left : Closed a) (right : Closed b) : Closed (a ++ b) := by
  intro t
  rw [List.append_assoc,left,right,openedOpened]

theorem closedPlain (plain : ∀ c ∈ a, c ≠ .char '\\' ∧ c ≠ .char '|') : Closed a := by
  intro t
  induction a with
  | nil =>
    obtain ⟨part,parts,some⟩ := List.exists_cons_of_ne_nil (barFull t)
    rw [List.nil_append,some]
    rfl
  | cons c a ih =>
    obtain ⟨⟨slash,line⟩,later⟩ := List.forall_mem_cons.mp plain
    rw [List.cons_append,barPlain slash line,ih later,openedOpened,List.singleton_append]

theorem closedCell (value : Text) : Closed (cell value) := by
  unfold cell
  induction Text.withLineFeeds value with
  | nil => exact closedPlain (by simp)
  | cons c rest ih => exact closedAppend (fun t => (escapeRead c t).1) ih

theorem closedPadded (closed : Closed a) : Closed (padded a) := by
  have space : Closed " " := closedPlain (by decide)
  exact closedAppend (closedAppend space closed) space

theorem partEnds (closed : Closed a) (t : Text) : barParts (a ++ bar :: t) = a :: barParts t := by
  rw [closed]
  exact congrArg (fun part => part :: barParts t) (List.append_nil a)

theorem rowBars (a : Text) (cells : List Text) :
    row (a :: cells) = "      " ++ bar :: (a :: cells).flatMap fun c => padded c ++ [bar] := by
  have joined : ∀ a : Text, " " ++ Text.join " | " (a :: cells) ++ " |" = (a :: cells).flatMap fun c => padded c ++ [bar] := by
    induction cells with
    | nil =>
      intro a
      simp [Text.joinSingle,padded,bar,Text.ofString]
    | cons next rest ih =>
      intro a
      rw [List.flatMap_cons,← ih next,Text.joinCons]
      simp [padded,bar,Text.ofString]
  rw [← joined a]
  simp [row,bar,Text.ofString]

theorem barsParted (closed : ∀ c ∈ cells, Closed c) :
    barParts (cells.flatMap fun c => padded c ++ [bar]) = cells.map padded ++ [[]] := by
  induction cells with
  | nil => rfl
  | cons a cells ih =>
    obtain ⟨first,later⟩ := List.forall_mem_cons.mp closed
    rw [List.flatMap_cons,List.append_assoc,List.singleton_append,partEnds (closedPadded first),ih later]
    rfl

theorem rowParts (closed : ∀ c ∈ a :: cells, Closed c) :
    barParts (row (a :: cells)) = Text.ofString "      " :: ((a :: cells).map padded ++ [[]]) := by
  have front : Closed "      " := closedPlain (by decide)
  rw [rowBars,partEnds front,barsParted closed]

theorem rowCells (closed : ∀ c ∈ a :: cells, Closed c) : cellsOf (row (a :: cells)) = (a :: cells).map padded := by
  rw [cellsOf,rowParts closed,List.drop_one,List.tail_cons,List.dropLast_concat]

end parts

section cells
variable {c : CodePoint} {value : Text}

theorem cellRead (value : Text) : readCell (padded (cell value)) = padded (Text.withLineFeeds value) := by
  have front : ∀ t : Text, readCell (" " ++ t) = " " ++ readCell t := readPlain (by decide)
  rw [padded,List.append_assoc,front,cell,escapesRead,padded,List.append_assoc]
  rfl

theorem feedsFree (value : Text) : .char '\r' ∉ Text.withLineFeeds value := by
  fun_induction Text.withLineFeeds value with
  | case1 => simp
  | case2 t ih => simpa using ih
  | case3 t _ ih => simpa using ih
  | case4 c t _ other ih => simpa [Ne.symm (fun same => other same : c ≠ .char '\r')] using ih

theorem cellUnbroken (member : c ∈ cell value) : c ≠ .char '\n' ∧ c ≠ .char '\r' := by
  have fixed : ∀ pair ∈ [Text.ofString "\\\\","\\|","\\n"], ∀ c ∈ pair, c ≠ .char '\n' ∧ c ≠ .char '\r' := by decide
  obtain ⟨d,inside,escaped⟩ := List.mem_flatMap.mp member
  have back : d ≠ .char '\r' := fun same => feedsFree value (same ▸ inside)
  unfold escapeCell at escaped
  split at escaped
  · exact fixed _ (by simp) c escaped
  · exact fixed _ (by simp) c escaped
  · exact fixed _ (by simp) c escaped
  · rename_i feed
    obtain rfl := List.mem_singleton.mp escaped
    exact ⟨feed,back⟩

end cells

/- A cell by replacements. Each of them finds what the one before it has put, so their order counts. -/

section replacements
variable {a t : Text}

def escapeBar (c : CodePoint) : Text := if c = backslash then "\\\\" else if c = bar then "\\|" else [c]

theorem feedsBehind (free : .char '\r' ∉ a) (t : Text) : Text.withLineFeeds (a ++ t) = a ++ Text.withLineFeeds t := by
  induction a with
  | nil => rfl
  | cons c a ih =>
    obtain ⟨other,later⟩ := not_or.mp (List.mem_cons.not.mp free)
    rw [List.cons_append,Text.withLineFeeds,ih later]
    · rfl
    · rintro t rfl _
      exact other rfl
    · rintro rfl
      exact other rfl

theorem feedsReplaced (t : Text) : (t.replace "\r\n" "\n").replace "\r" "\n" = Text.withLineFeeds t := by
  have sign : Text.ofString "\r" = [.char '\r'] := rfl
  have pair : Text.ofString "\r\n" = [.char '\r',.char '\n'] := rfl
  have feed : Text.ofString "\n" = [.char '\n'] := rfl
  rw [sign,pair,feed,Text.replaceSign]
  unfold Text.replace
  fun_induction Text.withLineFeeds t with
  | case1 => rfl
  | case2 t ih => simpa [Text.replaceFrom,List.isPrefixOf] using ih
  | case3 t other ih =>
    have apart : List.isPrefixOf [.char '\n'] t = false := by
      cases t with
      | nil => rfl
      | cons d t =>
        have plain : CodePoint.char '\n' ≠ d := by
          rintro rfl
          exact other t rfl
        simp [List.isPrefixOf,plain]
    simpa [Text.replaceFrom,List.isPrefixOf,apart] using ih
  | case4 c t _ other ih =>
    have plain : c ≠ .char '\r' := fun same => other same
    simpa [Text.replaceFrom,List.isPrefixOf,plain,Ne.symm plain] using ih

theorem escapeFree {c : CodePoint} (other : c ≠ .char '\r') : .char '\r' ∉ escapeBar c := by
  unfold escapeBar
  split
  · decide
  · split
    · decide
    · simpa using Ne.symm other

theorem escapeHead {c : CodePoint} {u : Text} (feed : escapeBar c ++ t = .char '\n' :: u) : c = .char '\n' := by
  unfold escapeBar at feed
  split at feed
  · simp [Text.ofString] at feed
  · split at feed
    · simp [Text.ofString] at feed
    · exact (List.cons.inj feed).1

theorem feedsEscaped (t : Text) : Text.withLineFeeds (t.flatMap escapeBar) = (Text.withLineFeeds t).flatMap escapeBar := by
  have back : escapeBar (.char '\r') = [.char '\r'] := rfl
  have feed : escapeBar (.char '\n') = [.char '\n'] := rfl
  fun_induction Text.withLineFeeds t with
  | case1 => rfl
  | case2 t ih =>
    rw [List.flatMap_cons,List.flatMap_cons,List.flatMap_cons,back,feed,← ih]
    rfl
  | case3 t other ih =>
    rw [List.flatMap_cons,List.flatMap_cons,back,feed,← ih,List.singleton_append,Text.withLineFeeds]
    · rfl
    · intro u starts
      cases t with
      | nil => contradiction
      | cons d t => exact other t (by rw [escapeHead starts])
  | case4 c t _ other ih =>
    rw [List.flatMap_cons,List.flatMap_cons,← ih,feedsBehind (escapeFree fun same => other same)]

theorem cellReplaced (t : Text) : cell t = ((((t.replace "\\" "\\\\").replace "|" "\\|").replace "\r\n" "\n").replace "\r"
    "\n").replace "\n" "\\n" := by
  have slash : Text.ofString "\\" = [backslash] := rfl
  have line : Text.ofString "|" = [bar] := rfl
  have feed : Text.ofString "\n" = [.char '\n'] := rfl
  have bars : (t.replace "\\" "\\\\").replace "|" "\\|" = t.flatMap escapeBar := by
    rw [slash,line,Text.replaceSign,Text.replaceSign,List.flatMap_assoc]
    refine List.flatMap_congr fun c _ => ?_
    unfold escapeBar
    split
    · decide
    · exact List.flatMap_singleton _ _
  rw [bars,feedsReplaced,feedsEscaped,feed,Text.replaceSign,List.flatMap_assoc,cell]
  refine List.flatMap_congr fun c _ => ?_
  by_cases isSlash : c = backslash
  · rw [isSlash]
    decide
  by_cases isBar : c = bar
  · rw [isBar]
    decide
  by_cases isFeed : c = .char '\n'
  · rw [isFeed]
    decide
  · rw [escapePlain isSlash isBar isFeed,escapeBar,if_neg isSlash,if_neg isBar,List.flatMap_singleton,if_neg isFeed]

end replacements

/- A table as it is read from its data row: a cell for every column, and nothing but the indentation
beside them. -/
structure ReadsAs (table : List (Text × Text)) (line : Text) : Prop where
  whole : barParts line = Text.ofString "      " :: (cellsOf line ++ [[]])
  columns : (cellsOf line).length = (Examples.ofTable table).columns.length
  values : (cellsOf line).map readCell = table.map fun entry => padded (Text.withLineFeeds entry.2)
  unbroken : ∀ c ∈ cellsOf line, .char '\n' ∉ c ∧ .char '\r' ∉ c

section tables
variable {v : Text} {values : List Text}

theorem closedCells (v : Text) (values : List Text) : ∀ c ∈ cell v :: values.map cell, Closed c := by
  rw [← List.map_cons]
  intro c member
  obtain ⟨value,_,rfl⟩ := List.mem_map.mp member
  exact closedCell value

theorem valueCells (v : Text) (values : List Text) :
    cellsOf (row ((v :: values).map cell)) = (v :: values).map fun value => padded (cell value) := by
  rw [List.map_cons,rowCells (closedCells v values),← List.map_cons,List.map_map]
  rfl

theorem valuesRead (v : Text) (values : List Text) : (cellsOf (row ((v :: values).map cell))).map readCell =
    ((v :: values).map Text.withLineFeeds).map padded := by
  rw [valueCells,List.map_map,List.map_map]
  exact List.map_congr_left fun value _ => cellRead value

theorem tableRow (entry : Text × Text) (rest : List (Text × Text)) : (Examples.ofTable (entry :: rest)).lines.getLast? =
    some (row ((entry.2 :: rest.map (·.2)).map cell)) := by
  have values : ((Examples.ofTable (entry :: rest)).values.map fun v => cell v.shown) =
      (entry.2 :: rest.map (·.2)).map cell := by
    rw [← List.map_cons (f := fun entry : Text × Text => entry.2),List.map_map]
    exact (List.map_map ..).trans (List.map_congr_left fun _ _ => rfl)
  rw [← values]
  rfl

theorem tableReads (entry : Text × Text) (rest : List (Text × Text)) :
    ReadsAs (entry :: rest) (row ((entry.2 :: rest.map (·.2)).map cell)) := by
  have cells := valueCells entry.2 (rest.map (·.2))
  exact {
    whole := by
      have closed := closedCells entry.2 (rest.map (·.2))
      rw [List.map_cons,rowCells closed,rowParts closed]
    columns := by
      rw [cells]
      simp [Examples.ofTable]
    values := by
      rw [valuesRead,← List.map_cons (f := fun entry : Text × Text => entry.2),List.map_map,List.map_map]
      rfl
    unbroken := by
      intro c member
      rw [cells] at member
      obtain ⟨value,_,rfl⟩ := List.mem_map.mp member
      have free : ∀ c ∈ padded (cell value), c ≠ .char '\n' ∧ c ≠ .char '\r' := by
        have space : ∀ c ∈ Text.ofString " ", c ≠ .char '\n' ∧ c ≠ .char '\r' := by decide
        exact List.forall_mem_append.mpr ⟨List.forall_mem_append.mpr ⟨space,fun _ => cellUnbroken⟩,space⟩
      exact ⟨fun feed => (free _ feed).1 rfl,fun back => (free _ back).2 rfl⟩ }

theorem rowsAlike (v w : Text) (vs ws : List Text) : row ((v :: vs).map cell) = row ((w :: ws).map cell) ↔
    (v :: vs).map Text.withLineFeeds = (w :: ws).map Text.withLineFeeds := by
  constructor
  · intro same
    have read := congrArg (fun line => (cellsOf line).map readCell) same
    have apart : ∀ a b, padded a = padded b → a = b := fun a b same =>
      List.append_cancel_left (List.append_cancel_right same)
    simp only [valuesRead] at read
    exact (List.map_inj_right apart).mp read
  · intro same
    have cells : ∀ values : List Text, values.map cell = (values.map Text.withLineFeeds).map (·.flatMap escapeCell) := by
      intro values
      rw [List.map_map]
      rfl
    rw [cells,cells,same]

end tables

section recordings
variable {actions : List Action} {d : Documents} {c : Context} {b : Block} {owners : List Action}

theorem orderedTable (ordered : Ordered owners d b) (texts : ∀ a ∈ owners, a.value = .null ∨ ∃ t, a.value = .text t) :
    ∃ table, b.examples = Examples.ofTable table := by
  obtain ⟨entries,actions,columns,values,_,holds⟩ := ordered.table
  refine ⟨entries.map fun e => (e.column,e.value.shown),?_⟩
  have shown : ∀ e ∈ entries, Value.text e.value.shown = e.value := by
    intro e member
    have owner : e.action ∈ owners.filter (·.kind.isParameterized) := actions ▸ List.mem_map_of_mem member
    rw [(holds e member).2.2.2.1]
    rcases texts e.action (List.mem_filter.mp owner).1 with none | ⟨t,given⟩
    · rw [none]
      rfl
    · rw [given]
      rfl
  have rows : b.examples = ⟨entries.map (·.column),entries.map (·.value)⟩ := by rw [← columns,← values]
  rw [rows,Examples.ofTable,List.map_map,List.map_map]
  refine congrArg (Examples.mk _) (List.map_congr_left fun e member => (shown e member).symm)

end recordings

theorem rowsReadBack :
    (∀ entry rest, ∃ line, (Examples.ofTable (entry :: rest)).lines.getLast? = some line ∧ ReadsAs (entry :: rest) line) ∧
    (∀ v w vs ws, row ((v :: vs).map cell) = row ((w :: ws).map cell) ↔
      (v :: vs).map Text.withLineFeeds = (w :: ws).map Text.withLineFeeds) ∧
    (∀ value : Text, cell value = ((((value.replace "\\" "\\\\").replace "|" "\\|").replace "\r\n" "\n").replace "\r"
      "\n").replace "\n" "\\n") ∧
    ∀ (table : List Recording.Shape) (recording featureName : Text) (baseUrl storyKey pageUrl : Value) (l : Layout),
      (∃ f, Page.pathFor (Page.addressOf (sessionActions table recording) pageUrl) baseUrl = .error f ∧
        documentsOfActions (sessionActions table recording) baseUrl (Naming.className featureName) storyKey pageUrl l
          = .error f) ∨
      ∃ d c b entries, documentsOfActions (sessionActions table recording) baseUrl (Naming.className featureName) storyKey
          pageUrl l = .ok (d,c) ∧ d.specification.blocks = [b] ∧ b.examples = Examples.ofTable entries := by
  refine ⟨fun entry rest => ⟨_,tableRow entry rest,tableReads entry rest⟩,rowsAlike,cellReplaced,?_⟩
  intro table recording featureName baseUrl storyKey pageUrl l
  refine (documentsOfActionsEnd (sessionActions table recording) baseUrl (Naming.className featureName) storyKey
    pageUrl l).imp_right ?_
  rintro ⟨d,c,ok⟩
  obtain ⟨b,ordered⟩ := documentsOrdered Page.namedAll (Page.numberedResolve (Recording.numberedTranscript _))
    (fun a member => (sessionPlain a member).1) (fun a member => (sessionPlain a member).2)
    (Naming.classNameAlnum featureName) ok
  have among : ∀ a ∈ c.shown (inOrder (sessionActions table recording)), a ∈ sessionActions table recording :=
    fun a shown => memInOrder.mp (Context.memShown shown).1
  obtain ⟨entries,same⟩ := orderedTable ordered fun a shown => (sessionPlain a (among a shown)).2
  exact ⟨d,c,b,entries,ok,ordered.block,same⟩

end TestWeaver.Feature
