import TestWeaver.Text.Stream
import TestWeaver.Yaml.Cursor

/-!
The text of a YAML file. It is read block by block, and only as far as it is looked at; where a block cannot be read, or
holds what no YAML text may hold, the text breaks off.
-/
namespace TestWeaver.Yaml

def isPrintable (c : CodePoint) : Bool :=
  let n := c.value
  n == 9 || n == 10 || n == 13 || 0x20 ≤ n && n ≤ 0x7E || n == 0x85 || 0xA0 ≤ n && n ≤ 0xD7FF
    || 0xE000 ≤ n && n ≤ 0xFFFD || 0x10000 ≤ n

structure Source where
  text : Text
  broken : Option Failure := none
  deriving Repr

namespace Source

def ofText (t : Text) : Source := if t.all isPrintable then { text := t } else { text := [], broken := some .malformedYaml }

def blockLength : Nat := 4096

def blocksFrom : (fuel : Nat) → (found : List Text) → Stream → Source
  | 0, found, _ => { text := found.reverse.flatten }
  | fuel + 1, found, s =>
    match s.read blockLength with
    | .error e => { text := found.reverse.flatten, broken := some (.undecodable e) }
    | .ok (t, s) =>
      if t.isEmpty then { text := found.reverse.flatten }
      else if t.all isPrintable then blocksFrom fuel (t :: found) s
      else { text := found.reverse.flatten, broken := some .malformedYaml }

def firstBlocks (bytes : Bytes) : Except Utf8.DecodeError (Text × Text × Stream) := do
  let (first, s) ← (Stream.ofBytes bytes).read blockLength
  if first.isEmpty then return (first, [], s)
  let (second, s) ← s.read blockLength
  return (first, second, s)

def ofBytes (bytes : Bytes) : Source :=
  -- two blocks are read before anything is looked at
  match firstBlocks bytes with
  | .error e => { text := [], broken := some (.undecodable e) }
  | .ok (first, second, s) =>
    if !(first ++ second).all isPrintable then { text := [], broken := some .malformedYaml }
    else if second.isEmpty then { text := first }
    else blocksFrom (bytes.length + 1) [second, first] s

end Source

end TestWeaver.Yaml
