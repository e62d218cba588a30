import HubLink.Text.Percent
import HubLink.Text.Split

/-! # Form encoding

The `application/x-www-form-urlencoded` format: pairs joined by `&`, key and value joined by `=`,
a space written as `+`, other octets outside a small safe set escaped. Reading is lenient: empty
pairs are skipped and a pair without `=` has an empty value. -/

namespace HubLink.Text.Form

/-- The octets written as they are. -/
def isSafe (b : UInt8) : Bool := Percent.isAlphanumeric b || Percent.isOneOf "*-._" b

/-- Write octets, a space as `+`. -/
def encodeBytes (bytes : List UInt8) : List Char :=
  bytes.flatMap fun b =>
    if b = 0x20 then ['+'] else if isSafe b then [Char.ofNat b.toNat] else Percent.escape b

/-- Write a text. -/
def encode (text : List Char) : List Char := encodeBytes (Utf8.encode text)

/-- Write one pair. -/
def encodePair (pair : String × String) : List Char :=
  encode pair.1.toList ++ '=' :: encode pair.2.toList

/-- Write pairs in the given order. -/
def encodePairs (pairs : List (String × String)) : List Char :=
  ['&'].intercalate (pairs.map encodePair)

/-- Read a key or a value. -/
def decode (bytes : List UInt8) : String :=
  Utf8.lenientString (Percent.decodeBytes (bytes.map fun b => if b = 0x2b then 0x20 else b))

/-- Read one pair. -/
def decodePair (bytes : List UInt8) : String × String :=
  match cut 0x3d bytes with
  | some (key, value) => (decode key, decode value)
  | none => (decode bytes, "")

/-- Read the pairs of a text, in order. -/
def decodePairs (text : List Char) : List (String × String) :=
  ((pieces 0x26 (Utf8.encode text)).filter (!·.isEmpty)).map decodePair

end HubLink.Text.Form
