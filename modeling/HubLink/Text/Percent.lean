import HubLink.Text.Hex
import HubLink.Text.Utf8

/-! # Percent encoding

Octets that are not passed on as they are become `%` and two upper-case hexadecimal digits.
Decoding is lenient: a `%` without two digits after it stays. -/

namespace HubLink.Text.Percent

/-- `%` and the two digits of an octet. -/
def escape (b : UInt8) : List Char := ['%', hexUpper (b.toNat / 16), hexUpper (b.toNat % 16)]

/-- Write octets, passing those on that satisfy `keep`. -/
def encodeBytes (keep : UInt8 → Bool) (bytes : List UInt8) : List Char :=
  bytes.flatMap fun b => if keep b then [Char.ofNat b.toNat] else escape b

/-- Write a text by its UTF-8 octets, passing those on that satisfy `keep`. -/
def encode (keep : UInt8 → Bool) (text : List Char) : List Char :=
  encodeBytes keep (Utf8.encode text)

/-- Replace every escape by its octet. -/
def decodeBytes : List UInt8 → List UInt8
  | [] => []
  | [a] => [a]
  | [a, b] => [a, b]
  | a :: b :: c :: rest =>
    if a = 0x25 then
      match hexOctet? b, hexOctet? c with
      | some high, some low => UInt8.ofNat (high * 16 + low) :: decodeBytes rest
      | _, _ => a :: decodeBytes (b :: c :: rest)
    else a :: decodeBytes (b :: c :: rest)

/-- Whether an octet is an ASCII letter or digit. -/
def isAlphanumeric (b : UInt8) : Bool :=
  (0x30 ≤ b && b ≤ 0x39) || (0x41 ≤ b && b ≤ 0x5a) || (0x61 ≤ b && b ≤ 0x7a)

/-- Whether an octet is one of the given ASCII characters. -/
def isOneOf (chars : String) (b : UInt8) : Bool := (Utf8.ofString chars).contains b

end HubLink.Text.Percent
