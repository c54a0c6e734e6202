import TestWeaver.Text.Quoted

/-!
Texts and their UTF-8 bytes. A text without halves has bytes; bytes that are no text are refused at the first
place where they go wrong, with the reason.
-/
namespace TestWeaver

abbrev Bytes := List UInt8

namespace Bytes

def lower (b : Bytes) : Bytes := b.map fun x => if 0x41 ≤ x && x ≤ 0x5A then x + 0x20 else x

def isBlank (b : Bytes) : Bool := b.all fun x => 9 ≤ x && x ≤ 13 || x == 0x20

end Bytes

namespace Utf8

inductive Reason where
  | start
  | continuation
  | truncated
  deriving DecidableEq, Repr

def Reason.message : Reason → Text
  | .start => "invalid start byte"
  | .continuation => "invalid continuation byte"
  | .truncated => "unexpected end of data"

structure DecodeError where
  byte : UInt8
  position : Nat
  length : Nat
  reason : Reason
  deriving DecidableEq, Repr

def DecodeError.message (e : DecodeError) : Text :=
  (if e.length ≤ 1 then
    "'utf-8' codec can't decode byte 0x" ++ Text.hexadecimal 2 e.byte.toNat ++ " in position "
      ++ Text.ofNat e.position
  else
    "'utf-8' codec can't decode bytes in position " ++ Text.ofNat e.position ++ "-"
      ++ Text.ofNat (e.position + e.length - 1))
    ++ ": " ++ e.reason.message

structure EncodeError where
  half : CodePoint
  position : Nat
  length : Nat
  deriving DecidableEq, Repr

def EncodeError.message (e : EncodeError) : Text :=
  (if e.length ≤ 1 then
    "'utf-8' codec can't encode character '" ++ e.half.numericEscape ++ "' in position " ++ Text.ofNat e.position
  else
    "'utf-8' codec can't encode characters in position " ++ Text.ofNat e.position ++ "-"
      ++ Text.ofNat (e.position + e.length - 1))
    ++ ": surrogates not allowed"

def bytesOfChar (c : Char) : Bytes :=
  let n := c.toNat
  if n < 0x80 then [n.toUInt8]
  else if n < 0x800 then [(0xC0 + n / 0x40).toUInt8, (0x80 + n % 0x40).toUInt8]
  else if n < 0x10000 then
    [(0xE0 + n / 0x1000).toUInt8, (0x80 + n / 0x40 % 0x40).toUInt8, (0x80 + n % 0x40).toUInt8]
  else
    [(0xF0 + n / 0x40000).toUInt8, (0x80 + n / 0x1000 % 0x40).toUInt8, (0x80 + n / 0x40 % 0x40).toUInt8,
      (0x80 + n % 0x40).toUInt8]

def isHalf : CodePoint → Bool
  | .half _ => true
  | .char _ => false

def encodeAt (position : Nat) : Text → Except EncodeError Bytes
  | [] => .ok []
  | .char c :: t => (encodeAt (position + 1) t).map (bytesOfChar c ++ ·)
  | .half u :: t => .error ⟨.half u, position, 1 + (t.takeWhile isHalf).length⟩

def encode (t : Text) : Except EncodeError Bytes := encodeAt 0 t

def isContinuation (b : UInt8) : Bool := 0x80 ≤ b && b < 0xC0

/-- How the second byte is confined by the first: no overlong form, no half, nothing past the last plane. -/
def confines (first second : UInt8) : Bool :=
  isContinuation second
    && !(first == 0xE0 && second < 0xA0) && !(first == 0xED && second ≥ 0xA0)
    && !(first == 0xF0 && second < 0x90) && !(first == 0xF4 && second ≥ 0x90)

def announced (b : UInt8) : Nat :=
  if b < 0x80 then 1 else if 0xC2 ≤ b && b < 0xE0 then 2 else if 0xE0 ≤ b && b < 0xF0 then 3
  else if 0xF0 ≤ b && b < 0xF5 then 4 else 0

def scalar (first : UInt8) (tail : Bytes) : Nat :=
  let lead := if tail.length = 1 then first.toNat % 0x20 else if tail.length = 2 then first.toNat % 0x10
    else first.toNat % 8
  tail.foldl (fun n b => n * 0x40 + b.toNat % 0x40) lead

def readTail (first : UInt8) (rest : Bytes) : Except (Reason × Nat) (Char × Nat) :=
  match announced first with
  | 2 => match rest with
    | [] => .error (.truncated, 1)
    | b :: _ => if confines first b then .ok (Char.ofNat (scalar first [b]), 1) else .error (.continuation, 1)
  | 3 => match rest with
    | [] => .error (.truncated, 1)
    | [b] => if confines first b then .error (.truncated, 2) else .error (.continuation, 1)
    | b :: c :: _ =>
      if !confines first b then .error (.continuation, 1)
      else if !isContinuation c then .error (.continuation, 2)
      else .ok (Char.ofNat (scalar first [b, c]), 2)
  | 4 => match rest with
    | [] => .error (.truncated, 1)
    | [b] => if confines first b then .error (.truncated, 2) else .error (.continuation, 1)
    | [b, c] =>
      if !confines first b then .error (.continuation, 1)
      else if !isContinuation c then .error (.continuation, 2)
      else .error (.truncated, 3)
    | b :: c :: d :: _ =>
      if !confines first b then .error (.continuation, 1)
      else if !isContinuation c then .error (.continuation, 2)
      else if !isContinuation d then .error (.continuation, 3)
      else .ok (Char.ofNat (scalar first [b, c, d]), 3)
  | _ => .error (.start, 1)

def decodeAt (position covered : Nat) : Bytes → Except DecodeError Text
  | [] => .ok []
  | b :: rest =>
    match covered with
    | n + 1 => decodeAt (position + 1) n rest
    | 0 =>
      if b < 0x80 then (decodeAt (position + 1) 0 rest).map (.char (Char.ofNat b.toNat) :: ·)
      else match readTail b rest with
        | .ok (c, n) => (decodeAt (position + 1) n rest).map (.char c :: ·)
        | .error (reason, length) => .error ⟨b, position, length, reason⟩

def decode (bytes : Bytes) : Except DecodeError Text := decodeAt 0 0 bytes

end Utf8

end TestWeaver
