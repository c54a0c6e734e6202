import TestWeaver.Number.Binary64
import TestWeaver.Text.Blank
import TestWeaver.Text.Utf8

/-!
Texts read from their bytes chunk by chunk, with line feeds for all line ends. A code point or a line end that a chunk
cuts in two is completed by the next one; a fault in the bytes shows when its chunk is read, and is placed in it.
-/
namespace TestWeaver

structure Stream where
  bytes : Bytes
  /-- The first bytes of a code point that goes on in the next chunk. -/
  cut : Bytes := []
  waits : Bool := false
  ready : Text := []
  ratio : Binary64 := .zero false
  deriving Repr

namespace Stream

def ofBytes (bytes : Bytes) : Stream := { bytes }

def chunkLength : Nat := 8192

def lengthFor (s : Stream) (wanted : Nat) : Nat :=
  max chunkLength (max wanted (s.ratio.mul (.ofInt wanted)).whole)

def decoded (bytes : Bytes) : Except Utf8.DecodeError (Text × Bytes) :=
  match Utf8.decode bytes with
  | .ok t => .ok (t, [])
  | .error e =>
    if e.reason = .truncated then (Utf8.decode (bytes.take e.position)).map fun t => (t, bytes.drop e.position)
    else .error e

def withReturns (waits : Bool) (t : Text) : Text × Bool :=
  let t := if waits && !t.isEmpty then .char '\r' :: t else t
  if t.getLast? == some (.char '\r') then (t.dropLast, true) else (t, waits && t.isEmpty)

def readChunk (s : Stream) (wanted : Nat) : Except Utf8.DecodeError Stream := do
  let chunk := s.bytes.take (s.lengthFor wanted)
  let (t, cut) ← decoded (s.cut ++ chunk)
  let (t, waits) := withReturns s.waits t
  let t := t.withLineFeeds
  return { bytes := s.bytes.drop chunk.length, cut, waits, ready := s.ready ++ t
           ratio := if t.isEmpty then .zero false else .ofRatio false chunk.length t.length }

def finish (s : Stream) : Except Utf8.DecodeError Stream := do
  let t ← Utf8.decode s.cut
  return { s with cut := [], waits := false, ready := if s.waits then t ++ "\n" else t }

def readOn : (fuel : Nat) → Stream → Nat → Except Utf8.DecodeError (Text × Stream)
  | 0, s, _ => .ok ([], s)
  | fuel + 1, s, wanted => do
    let t := s.ready.take wanted
    let s := { s with ready := s.ready.drop wanted }
    let wanted := wanted - t.length
    if wanted = 0 then return (t, s)
    else if s.bytes.isEmpty then return (t, ← s.finish)
    else
      let (more, s) ← readOn fuel (← s.readChunk wanted) wanted
      return (t ++ more, s)

def read (s : Stream) (wanted : Nat) : Except Utf8.DecodeError (Text × Stream) := readOn (s.bytes.length + 1) s wanted

end Stream

end TestWeaver
