import TestWeaver.Proofs.Story.Criteria
import TestWeaver.Proofs.Tracker.Nodes

/-! Documents of lists in lists, as lines and as criteria. An item is a line with one mark, and the
criteria take this mark off again: they are the texts of the items, but below an item without a
text of its own, whose mark stands before that of the next line. -/
namespace TestWeaver.Tracker
open Markup (Listing)
open Text (IsLine ended)
open Criteria (Opens)

inductive Item where
  | item (text : Text) (lists : List (Listing × List Item))

def listKind : Listing → Text
  | .bullets => "bulletList"
  | .numbers => "orderedList"

mutual

def Item.Held (v : Value) : Item → Prop
  | .item text lists => ∃ p nodes, Node "listItem" (p :: nodes) v ∧ Paragraph p text ∧ ListsHeld nodes lists

def ListsHeld : List Value → List (Listing × List Item) → Prop
  | [],[] => True
  | v :: nodes,(l,items) :: lists => (∃ content, Node (listKind l) content v ∧ ItemsHeld content items) ∧ ListsHeld nodes lists
  | _,_ => False

def ItemsHeld : List Value → List Item → Prop
  | [],[] => True
  | v :: nodes,i :: items => i.Held v ∧ ItemsHeld nodes items
  | _,_ => False

end

def Outline (doc : Value) (lists : List (Listing × List Item)) : Prop := ∃ nodes, Node "doc" nodes doc ∧ ListsHeld nodes lists

mutual

def Item.texts : Item → List Text
  | .item text lists => text :: textsOfLists lists

def textsOfLists : List (Listing × List Item) → List Text
  | [] => []
  | (_,items) :: lists => textsOfItems items ++ textsOfLists lists

def textsOfItems : List Item → List Text
  | [] => []
  | i :: items => i.texts ++ textsOfItems items

end

def markFirst (mark : Text) : List Text → List Text
  | [] => []
  | line :: rest => (mark ++ line) :: rest

mutual

def Item.lines : Item → List Text
  | .item text lists => (if text.isEmpty then [] else [text]) ++ linesOfLists lists

def linesOfLists : List (Listing × List Item) → List Text
  | [] => []
  | (l,items) :: lists => linesOfItems l 1 items ++ linesOfLists lists

def linesOfItems (l : Listing) (n : Nat) : List Item → List Text
  | [] => []
  | i :: items => markFirst (l.mark n) i.lines ++ linesOfItems l (n + 1) items

end

mutual

/- What the lines tell behind their first marks. An item without a text of its own lends its mark
to the first line under it, which then tells its other mark too. -/
def Item.told : Item → List Text
  | .item text lists =>
    if text.isEmpty then (linesOfLists lists).take 1 ++ (toldOfLists lists).drop 1 else text :: toldOfLists lists

def toldOfLists : List (Listing × List Item) → List Text
  | [] => []
  | (_,items) :: lists => toldOfItems items ++ toldOfLists lists

def toldOfItems : List Item → List Text
  | [] => []
  | i :: items => i.told ++ toldOfItems items

end

mutual

def Item.Worded : Item → Prop
  | .item text lists => (text = [] → linesOfLists lists = []) ∧ ListsWorded lists

def ListsWorded : List (Listing × List Item) → Prop
  | [] => True
  | (_,items) :: lists => ItemsWorded items ∧ ListsWorded lists

def ItemsWorded : List Item → Prop
  | [] => True
  | i :: items => i.Worded ∧ ItemsWorded items

end

def Fits (t : Text) : Prop := t.trim = t ∧ .char '\n' ∉ t
instance (t : Text) : Decidable (Fits t) := by unfold Fits; infer_instance

theorem lineOfFits {t : Text} (fits : Fits t) (full : t ≠ []) : IsLine t := ⟨full,fits.2,Text.bareOfTrim fits.1⟩

theorem markFirstLines {ls : List Text} (l : Listing) (n : Nat) (each : ∀ line ∈ ls, IsLine line) :
    ∀ line ∈ markFirst (l.mark n) ls, IsLine line := by
  cases ls with
  | nil => exact each
  | cons first rest =>
    obtain ⟨here,later⟩ := List.forall_mem_cons.mp each
    exact List.forall_mem_cons.mpr ⟨Criteria.markedLine l n here,later⟩

theorem memTextsOfItems {i : Item} {items : List Item} {t : Text} (member : i ∈ items) (inside : t ∈ i.texts) :
    t ∈ textsOfItems items := by
  induction items with
  | nil => contradiction
  | cons first items ih =>
    rw [textsOfItems,List.mem_append]
    rcases List.mem_cons.mp member with rfl | later
    · exact .inl inside
    · exact .inr (ih later)

mutual

theorem itemLines : (i : Item) → (∀ t ∈ i.texts, Fits t) → ∀ line ∈ i.lines, IsLine line
  | .item text lists,fits => by
    obtain ⟨own,under⟩ := List.forall_mem_cons.mp fits
    have below := listsLines lists under
    rw [Item.lines]
    cases text with
    | nil => exact below
    | cons c text => exact List.forall_mem_cons.mpr ⟨lineOfFits own (by simp),below⟩

theorem listsLines : (lists : List (Listing × List Item)) → (∀ t ∈ textsOfLists lists, Fits t) →
    ∀ line ∈ linesOfLists lists, IsLine line
  | [],_ => by simp [linesOfLists]
  | (l,items) :: lists,fits => by
    obtain ⟨here,later⟩ := List.forall_mem_append.mp fits
    exact List.forall_mem_append.mpr ⟨itemsLines l 1 items here,listsLines lists later⟩

theorem itemsLines (l : Listing) (n : Nat) : (items : List Item) → (∀ t ∈ textsOfItems items, Fits t) →
    ∀ line ∈ linesOfItems l n items, IsLine line
  | [],_ => by simp [linesOfItems]
  | i :: items,fits => by
    obtain ⟨here,later⟩ := List.forall_mem_append.mp fits
    exact List.forall_mem_append.mpr ⟨markFirstLines l n (itemLines i here),itemsLines l (n + 1) items later⟩

end

theorem asLineUnlines {ls : List Text} (each : ∀ line ∈ ls, IsLine line) : asLine (Text.unlines ls) = ended ls := by
  cases ls with
  | nil => rfl
  | cons line rest =>
    have full : (Text.unlines (line :: rest)).isEmpty = false :=
      List.isEmpty_eq_false_iff.mpr (Text.unlinesFull (by simp) each)
    rw [asLine,full,← Text.unlinesEnded (by simp)]
    rfl

def shares (l : Listing) (n : Nat) : List Item → List (List Text)
  | [] => []
  | i :: items => if i.lines.isEmpty then shares l (n + 1) items else markFirst (l.mark n) i.lines :: shares l (n + 1) items

theorem sharesFlatten (l : Listing) (n : Nat) (items : List Item) : (shares l n items).flatten = linesOfItems l n items := by
  induction items generalizing n with
  | nil => rw [linesOfItems]; rfl
  | cons i items ih =>
    rw [shares,linesOfItems,← ih]
    cases i.lines <;> rfl

theorem sharesFull (l : Listing) (n : Nat) (items : List Item) : ∀ share ∈ shares l n items, share ≠ [] := by
  induction items generalizing n with
  | nil => simp [shares]
  | cons i items ih =>
    rw [shares]
    cases i.lines with
    | nil => exact ih (n + 1)
    | cons first rest => exact List.forall_mem_cons.mpr ⟨by simp [markFirst],ih (n + 1)⟩

theorem unlinesMarked (mark : Text) {ls : List Text} (full : ls ≠ []) :
    Text.unlines (markFirst mark ls) = mark ++ Text.unlines ls := by
  obtain ⟨first,rest,rfl⟩ := List.exists_cons_of_ne_nil full
  cases rest with
  | nil => rw [markFirst,Text.unlinesSingle,Text.unlinesSingle]
  | cons next rest => rw [markFirst,Text.unlinesCons,Text.unlinesCons,List.append_assoc]

theorem listShares (l : Listing) (n : Nat) {items : List Item} (each : ∀ i ∈ items, ∀ line ∈ i.lines, IsLine line) :
    ((items.map fun i => Text.unlines i.lines).zipIdx n).filterMap (fun (t,n) =>
      if t.isEmpty then none else some (l.mark n ++ t)) = (shares l n items).map Text.unlines := by
  induction items generalizing n with
  | nil => rfl
  | cons i items ih =>
    obtain ⟨here,later⟩ := List.forall_mem_cons.mp each
    rw [List.map_cons,List.zipIdx_cons,List.filterMap_cons,ih (n + 1) later,shares]
    cases lines : i.lines with
    | nil => rfl
    | cons first rest =>
      rw [lines] at here
      have full : (Text.unlines (first :: rest)).isEmpty = false :=
        List.isEmpty_eq_false_iff.mpr (Text.unlinesFull (by simp) here)
      simp only [full,List.isEmpty_cons,Bool.false_eq_true,if_false,List.map_cons,unlinesMarked _ (List.cons_ne_nil first rest)]

theorem linesOfListing (l : Listing) {items : List Item} (each : ∀ i ∈ items, ∀ line ∈ i.lines, IsLine line) :
    Text.unlines (l.lines (items.map fun i => Text.unlines i.lines)) = Text.unlines (linesOfItems l 1 items) := by
  rw [Listing.lines,listShares l 1 each,Text.unlinesFlatten (sharesFull l 1 items),sharesFlatten]

mutual

theorem itemShows : (i : Item) → {v : Value} → i.Held v → (∀ t ∈ i.texts, Fits t) → Shows v (ended i.lines)
  | .item text lists,v,held,fits => by
    obtain ⟨p,nodes,node,paragraph,below⟩ := held
    obtain ⟨own,under⟩ := List.forall_mem_cons.mp fits
    obtain ⟨parts,each,whole⟩ := listsShow lists below under
    have shows := otherShows node (by decide) (.cons (paragraphShows paragraph) each)
    rw [List.flatten_cons,whole] at shows
    rw [Item.lines,Text.endedAppend]
    cases text with
    | nil => exact shows
    | cons c text => simpa [ended,asLine,Text.ofString] using shows

theorem listsShow : (lists : List (Listing × List Item)) → {nodes : List Value} → ListsHeld nodes lists →
    (∀ t ∈ textsOfLists lists, Fits t) → ∃ parts, List.Forall₂ Shows nodes parts ∧ parts.flatten = ended (linesOfLists lists)
  | [],[],_,_ => ⟨[],.nil,by rw [linesOfLists]; rfl⟩
  | (l,items) :: lists,v :: nodes,held,fits => by
    obtain ⟨⟨content,node,inside⟩,later⟩ := held
    obtain ⟨here,rest⟩ := List.forall_mem_append.mp fits
    obtain ⟨parts,each,whole⟩ := listsShow lists later rest
    have shown := itemsShow items inside here
    have lines := itemsLines l 1 items here
    have sort : Block.ofValue (.text (listKind l)) = .list l := by cases l <;> decide
    have shows := listShows node sort shown
    refine ⟨_,.cons shows each,?_⟩
    have each : ∀ i ∈ items, ∀ line ∈ i.lines, IsLine line := fun i member =>
      itemLines i fun t inside => here t (memTextsOfItems member inside)
    have trimmed : (items.map fun i => ended i.lines).map Text.trim = items.map fun i => Text.unlines i.lines := by
      rw [List.map_map]
      exact List.map_congr_left fun i member => Text.trimEnded (each i member)
    rw [List.flatten_cons,whole,trimmed,linesOfListing l each,asLineUnlines lines,linesOfLists,Text.endedAppend]

theorem itemsShow : (items : List Item) → {nodes : List Value} → ItemsHeld nodes items →
    (∀ t ∈ textsOfItems items, Fits t) → List.Forall₂ Shows nodes (items.map fun i => ended i.lines)
  | [],[],_,_ => .nil
  | i :: items,v :: nodes,held,fits => by
    obtain ⟨here,later⟩ := List.forall_mem_append.mp fits
    exact .cons (itemShows i held.1 here) (itemsShow items held.2 later)

end

mutual

theorem itemOpens (l : Listing) (n : Nat) : (i : Item) → (∀ t ∈ i.texts, Fits t) →
    List.Forall₂ Opens (markFirst (l.mark n) i.lines) i.told
  | .item text lists,fits => by
    obtain ⟨own,under⟩ := List.forall_mem_cons.mp fits
    have opened := listsOpen lists under
    have lines := listsLines lists under
    rw [Item.lines,Item.told]
    cases text with
    | cons c text => exact .cons (Criteria.markOpens l n (lineOfFits own (by simp))) opened
    | nil =>
      -- the mark of the item stands before the first line under it, whose own mark stays
      cases below : linesOfLists lists with
      | nil =>
        rw [below] at opened
        rw [List.forall₂_nil_left_iff.mp opened]
        exact .nil
      | cons first rest =>
        rw [below] at opened lines
        obtain ⟨o,others,_,later,told⟩ := List.forall₂_cons_left_iff.mp opened
        rw [told]
        exact .cons (Criteria.markOpens l n (lines first List.mem_cons_self)) later

theorem listsOpen : (lists : List (Listing × List Item)) → (∀ t ∈ textsOfLists lists, Fits t) →
    List.Forall₂ Opens (linesOfLists lists) (toldOfLists lists)
  | [],_ => .nil
  | (l,items) :: lists,fits => by
    obtain ⟨here,later⟩ := List.forall_mem_append.mp fits
    exact List.rel_append (itemsOpen l 1 items here) (listsOpen lists later)

theorem itemsOpen (l : Listing) (n : Nat) : (items : List Item) → (∀ t ∈ textsOfItems items, Fits t) →
    List.Forall₂ Opens (linesOfItems l n items) (toldOfItems items)
  | [],_ => .nil
  | i :: items,fits => by
    obtain ⟨here,later⟩ := List.forall_mem_append.mp fits
    exact List.rel_append (itemOpens l n i here) (itemsOpen l (n + 1) items later)

end

mutual

theorem itemTold : (i : Item) → (∀ t ∈ i.texts, Fits t) → i.Worded →
    i.told = i.texts.filter fun t => !t.isEmpty
  | .item text lists,fits,worded => by
    obtain ⟨_,under⟩ := List.forall_mem_cons.mp fits
    have told := listsTold lists under worded.2
    rw [Item.told,Item.texts]
    cases text with
    | cons c text => rw [told]; rfl
    | nil =>
      have bare := worded.1 rfl
      have opened := listsOpen lists under
      rw [bare] at opened ⊢
      rw [List.forall₂_nil_left_iff.mp opened] at told ⊢
      exact told

theorem listsTold : (lists : List (Listing × List Item)) → (∀ t ∈ textsOfLists lists, Fits t) → ListsWorded lists →
    toldOfLists lists = (textsOfLists lists).filter fun t => !t.isEmpty
  | [],_,_ => rfl
  | (_,items) :: lists,fits,worded => by
    obtain ⟨here,later⟩ := List.forall_mem_append.mp fits
    rw [toldOfLists,textsOfLists,List.filter_append,itemsTold items here worded.1,listsTold lists later worded.2]

theorem itemsTold : (items : List Item) → (∀ t ∈ textsOfItems items, Fits t) → ItemsWorded items →
    toldOfItems items = (textsOfItems items).filter fun t => !t.isEmpty
  | [],_,_ => rfl
  | i :: items,fits,worded => by
    obtain ⟨here,later⟩ := List.forall_mem_append.mp fits
    rw [toldOfItems,textsOfItems,List.filter_append,itemTold i here worded.1,itemsTold items later worded.2]

end

def longEnough (texts : List Text) : List Text := texts.filter fun t => Criteria.minimalLength ≤ t.length

theorem longOfShown (texts : List Text) : longEnough (texts.filter fun t => !t.isEmpty) = longEnough texts := by
  rw [longEnough,List.filter_filter]
  refine List.filter_congr fun t _ => ?_
  cases t with
  | nil => rfl
  | cons c t => simp

theorem outlineText {doc : Value} {lists : List (Listing × List Item)} (outline : Outline doc lists)
    (fits : ∀ t ∈ textsOfLists lists, Fits t) : plainText doc = .ok (Text.unlines (linesOfLists lists)) := by
  obtain ⟨nodes,node,held⟩ := outline
  obtain ⟨parts,each,whole⟩ := listsShow lists held fits
  have text := plainShows node (otherShows node (by decide) each)
  rwa [whole,Text.trimEnded (listsLines lists fits)] at text

theorem outlineCriteria {lists : List (Listing × List Item)} (fits : ∀ t ∈ textsOfLists lists, Fits t) :
    Criteria.ofText (Text.unlines (linesOfLists lists)) = longEnough (toldOfLists lists) := by
  rw [Criteria.ofTextLines (listsLines lists fits),Criteria.groupOpened (listsOpen lists fits),Criteria.closedEach]
  rfl

theorem outlineRead {doc : Value} {lists : List (Listing × List Item)} (outline : Outline doc lists)
    (fits : ∀ t ∈ textsOfLists lists, Fits t) : ∃ t, plainText doc = .ok t ∧
      Criteria.ofText t = longEnough (toldOfLists lists) ∧
      (ListsWorded lists → Criteria.ofText t = longEnough (textsOfLists lists)) := by
  refine ⟨_,outlineText outline fits,outlineCriteria fits,fun worded => ?_⟩
  rw [outlineCriteria fits,listsTold lists fits worded,longOfShown]

def markedDocument : Value := block "doc" [block "bulletList" [
  block "listItem" [block "paragraph" [run "AC 1: the total is shown"],
    block "orderedList" [block "listItem" [block "paragraph" [run "2. When it is empty"]],
      block "listItem" [block "paragraph" [run "Fast"]]]],
  block "listItem" [block "paragraph" [run "- [x] done by Monday"]]]]

def markedLists : List (Listing × List Item) := [(.bullets,[
  .item "AC 1: the total is shown" [(.numbers,[.item "2. When it is empty" [],.item "Fast" []])],
  .item "- [x] done by Monday" []])]

theorem markedOutline : Outline markedDocument markedLists :=
  ⟨_,blockNode _ _,⟨_,blockNode _ _,
    ⟨_,_,blockNode _ _,paragraphOf _,⟨_,blockNode _ _,⟨_,_,blockNode _ _,paragraphOf _,trivial⟩,
      ⟨_,_,blockNode _ _,paragraphOf _,trivial⟩,trivial⟩,trivial⟩,
    ⟨_,_,blockNode _ _,paragraphOf _,trivial⟩,trivial⟩,trivial⟩

theorem markedWorded : ListsWorded markedLists := by
  have full : ∀ {t : Text} {P : Prop}, t ≠ [] → (t = [] → P) := fun full empty => absurd empty full
  exact ⟨⟨⟨full (by decide),⟨⟨full (by decide),trivial⟩,⟨full (by decide),trivial⟩,trivial⟩,trivial⟩,
    ⟨full (by decide),trivial⟩,trivial⟩,trivial⟩

theorem markedItemsRead : ∃ t, plainText markedDocument = .ok t ∧
    Criteria.ofText t = (["AC 1: the total is shown","2. When it is empty","- [x] done by Monday"] : List Text) := by
  have fits : ∀ t ∈ textsOfLists markedLists, Fits t := by decide +kernel
  obtain ⟨t,text,_,read⟩ := outlineRead markedOutline fits
  exact ⟨t,text,(read markedWorded).trans (by decide +kernel)⟩

def unwordedDocument : Value := block "doc" [block "bulletList" [
  block "listItem" [block "paragraph" [],
    block "bulletList" [block "listItem" [block "paragraph" [run "User can sign in with a password"]]]]]]

def unwordedLists : List (Listing × List Item) :=
  [(.bullets,[.item [] [(.bullets,[.item "User can sign in with a password" []])]])]

theorem unwordedOutline : Outline unwordedDocument unwordedLists :=
  ⟨_,blockNode _ _,⟨_,blockNode _ _,⟨_,_,blockNode _ _,emptyParagraph,
    ⟨_,blockNode _ _,⟨_,_,blockNode _ _,paragraphOf _,trivial⟩,trivial⟩,trivial⟩,trivial⟩,trivial⟩

theorem unwordedItemMarked : Outline unwordedDocument unwordedLists ∧ (∀ t ∈ textsOfLists unwordedLists, Fits t) ∧
    ∃ t, plainText unwordedDocument = .ok t ∧ Criteria.ofText t = (["• User can sign in with a password"] : List Text) ∧
      longEnough (textsOfLists unwordedLists) = (["User can sign in with a password"] : List Text) := by
  have fits : ∀ t ∈ textsOfLists unwordedLists, Fits t := by decide +kernel
  refine ⟨unwordedOutline,fits,_,outlineText unwordedOutline fits,?_,by decide +kernel⟩
  rw [outlineCriteria fits]
  decide +kernel

end TestWeaver.Tracker
