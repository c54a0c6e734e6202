import TestWeaver.Markup.Tree

/-!
Marked-up texts as plain text: a line for each piece of text, and a marked line for each item of a list.
-/
namespace TestWeaver.Markup

mutual

def pieces : Node → List Text
  | .text t => [t]
  | .element _ children => piecesIn children

def piecesIn : List Node → List Text
  | [] => []
  | n :: ns => pieces n ++ piecesIn ns

end

inductive Listing where
  | bullets
  | numbers
  deriving DecidableEq, Repr

def Listing.ofName? (name : Text) : Option Listing :=
  if name = "ul" then some .bullets else if name = "ol" then some .numbers else none

def Listing.mark (l : Listing) (n : Nat) : Text :=
  match l with
  | bullets => "• "
  | numbers => Text.ofNat n ++ ". "

def items (children : List Node) : List Text :=
  children.filterMap fun
    | .element name inner => if name = "li" then some (Text.squeeze (Text.join " " (piecesIn inner))) else none
    | .text _ => none

def Listing.lines (l : Listing) (items : List Text) : List Text :=
  (items.zipIdx 1).filterMap fun (item, n) => if item.isEmpty then none else some (l.mark n ++ item)

mutual

def shown : Node → List Text
  | .text t => [t]
  | .element name children =>
    let lines := ((Listing.ofName? name).map fun l => l.lines (items children)).getD []
    if lines.isEmpty then shownIn children else [Text.unlines lines]

def shownIn : List Node → List Text
  | [] => []
  | n :: ns => shown n ++ shownIn ns

end

def tidy (t : Text) : Text :=
  Text.unlines (((Text.splitOn t (.char '\n')).map Text.trim).filter fun line => !line.isEmpty)

def plainText (t : Text) : Except MarkupError Text :=
  (tokens t).map fun tokens => tidy (Text.unlines (shownIn (nodes tokens)))

end TestWeaver.Markup
