import TestWeaver.Text.Basic

/-!
Blank code points, line breaks, and the two ways to take a text apart with them: words and lines.
-/
namespace TestWeaver

namespace CodePoint

def isBlank : CodePoint → Bool
  | .half _ => false
  | .char c =>
    let n := c.toNat
    9 ≤ n && n ≤ 13 || 28 ≤ n && n ≤ 32 || n == 0x85 || n == 0xA0 || n == 0x1680
      || 0x2000 ≤ n && n ≤ 0x200A || n == 0x2028 || n == 0x2029 || n == 0x202F || n == 0x205F || n == 0x3000

/-- A code point that ends a line. A carriage return and a line feed after it end one line together. -/
def isBreak : CodePoint → Bool
  | .half _ => false
  | .char c =>
    let n := c.toNat
    10 ≤ n && n ≤ 13 || 28 ≤ n && n ≤ 30 || n == 0x85 || n == 0x2028 || n == 0x2029

end CodePoint

namespace Text

def dropBlank (t : Text) : Text := t.dropWhile CodePoint.isBlank

def trim (t : Text) : Text := dropBoth CodePoint.isBlank t

def isBlank (t : Text) : Bool := t.all CodePoint.isBlank

def words (t : Text) : List Text := runs (fun c => !c.isBlank) t

def squeeze (t : Text) : Text := join " " (words t)

def lines (t : Text) : List Text := go [] t
where
  go (line : Text) : Text → List Text
    | [] => if line.isEmpty then [] else [line.reverse]
    | .char '\r' :: .char '\n' :: t => line.reverse :: go [] t
    | c :: t => if c.isBreak then line.reverse :: go [] t else go (c :: line) t

def withLineFeeds : Text → Text
  | [] => []
  | .char '\r' :: .char '\n' :: t => .char '\n' :: withLineFeeds t
  | .char '\r' :: t => .char '\n' :: withLineFeeds t
  | c :: t => c :: withLineFeeds t

end Text

end TestWeaver
