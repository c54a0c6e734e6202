import TestWeaver.Text.Utf8

/-!
Bytes as base64 text: four signs for three bytes, with equality signs where bytes are missing at the end.
-/
namespace TestWeaver.Base64

def alphabet : List Char := "ABCDEFGHIJKLMNOPQRSTUVWXYZabcdefghijklmnopqrstuvwxyz0123456789+/".toList

def sign (n : Nat) : CodePoint := .char (alphabet.getD n 'A')

def encode : Bytes → Text
  | [] => []
  | [a] => [sign (a.toNat / 4), sign (a.toNat % 4 * 16), .char '=', .char '=']
  | [a, b] => [sign (a.toNat / 4), sign (a.toNat % 4 * 16 + b.toNat / 16), sign (b.toNat % 16 * 4), .char '=']
  | a :: b :: c :: rest =>
    sign (a.toNat / 4) :: sign (a.toNat % 4 * 16 + b.toNat / 16) :: sign (b.toNat % 16 * 4 + c.toNat / 64)
      :: sign (c.toNat % 64) :: encode rest

def signValue? : CodePoint → Option Nat
  | .char c => alphabet.idxOf? c
  | .half _ => none

def bytesOf : List Nat → Bytes
  | a :: b :: c :: d :: rest =>
    (a * 4 + b / 16).toUInt8 :: (b % 16 * 16 + c / 4).toUInt8 :: (c % 4 * 64 + d).toUInt8 :: bytesOf rest
  | [a, b, c] => [(a * 4 + b / 16).toUInt8, (b % 16 * 16 + c / 4).toUInt8]
  | [a, b] => [(a * 4 + b / 16).toUInt8]
  | _ => []

def decode (t : Text) : Bytes := bytesOf (t.filterMap signValue?)

end TestWeaver.Base64
