import HubLink.Collection.SortedMap
import HubLink.Json.Tree

/-! # JSON values

What a JSON tree stands for. Strings have to be well-formed UTF-8 with paired surrogate escapes,
numbers have to be in range, and containers may be nested 127 deep. Of members with one key the
last one counts, and members are listed by key. -/

namespace HubLink.Json

/-- A JSON value. -/
inductive Value where
  /-- The value `null`. -/
  | null
  /-- A truth value. -/
  | bool (b : Bool)
  /-- A number. -/
  | number (n : Number)
  /-- A string. -/
  | string (s : String)
  /-- An array. -/
  | array (items : List Value)
  /-- An object. -/
  | object (members : List (String × Value))
  deriving Repr

/-- The number written by four hexadecimal digits. -/
def hexQuad? (a b c d : UInt8) : Option Nat := do
  let a ← Text.hexOctet? a
  let b ← Text.hexOctet? b
  let c ← Text.hexOctet? c
  let d ← Text.hexOctet? d
  return ((a * 16 + b) * 16 + c) * 16 + d

/-- The octet that a one-letter escape stands for. -/
def escapeOctet (b : UInt8) : UInt8 :=
  match b with
  | 0x62 => 0x08
  | 0x66 => 0x0c
  | 0x6e => 0x0a
  | 0x72 => 0x0d
  | 0x74 => 0x09
  | b => b

/-- Whether a number is the first half of a surrogate pair. -/
def isHighSurrogate (n : Nat) : Bool := 0xd800 ≤ n && n < 0xdc00

/-- Whether a number is the second half of a surrogate pair. -/
def isLowSurrogate (n : Nat) : Bool := 0xdc00 ≤ n && n < 0xe000

/-- Replace the escapes of a string by what they stand for; `high` is the first half of a surrogate
pair whose second half has to follow. -/
def unescapeFrom : Option Nat → List UInt8 → Option (List UInt8)
  | none, [] => some []
  | some _, [] => none
  | high, 0x5c :: 0x75 :: a :: b :: c :: d :: rest => do
    let n ← hexQuad? a b c d
    match high with
    | some h =>
      if isLowSurrogate n then
        let code := 0x10000 + (h - 0xd800) * 0x400 + (n - 0xdc00)
        return String.utf8EncodeChar (Char.ofNat code) ++ (← unescapeFrom none rest)
      else none
    | none =>
      if isHighSurrogate n then unescapeFrom (some n) rest
      else if isLowSurrogate n then none
      else return String.utf8EncodeChar (Char.ofNat n) ++ (← unescapeFrom none rest)
  | some _, _ => none
  | none, 0x5c :: b :: rest => (unescapeFrom none rest).map (escapeOctet b :: ·)
  | none, b :: rest => (unescapeFrom none rest).map (b :: ·)

/-- The string that stands between two quotes. -/
def string? (text : List UInt8) : Option String := (unescapeFrom none text).bind Text.Utf8.string?

/-- The members by key, the last one of each. -/
def lastMembers (members : List (String × Value)) : List (String × Value) :=
  (SortedMap.ofList members).entries

/-- The value of a tree nested at most `depth` deep. -/
def Tree.valueWithin? : Nat → Tree → Option Value
  | _, .null => some .null
  | _, .bool b => some (.bool b)
  | _, .number n => n.number?.map .number
  | _, .string s => (string? s).map .string
  | depth + 1, .array items => (items.mapM (valueWithin? depth)).map .array
  | depth + 1, .object members => do
    let members ← members.mapM fun member => do
      return (← string? member.1, ← valueWithin? depth member.2)
    return .object (lastMembers members)
  | 0, _ => none

/-- How deep containers may be nested. -/
def maxDepth : Nat := 127

/-- The value of a tree. -/
def Tree.value? (t : Tree) : Option Value := t.valueWithin? maxDepth

/-- The value of a JSON text. -/
def Value.parse? (text : List UInt8) : Option Value := (Tree.parse? text).bind Tree.value?

end HubLink.Json
