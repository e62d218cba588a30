import HubLink.Json.Numeral
import HubLink.Text.Hex
import HubLink.Text.Percent

/-! # JSON tokens

The tokens of a JSON text, read one octet at a time. A string token keeps its escapes, since what
they stand for matters only where the string is used. -/

namespace HubLink.Json

/-- A token of a JSON text. -/
inductive Token where
  /-- An opening bracket. -/
  | openArray
  /-- A closing bracket. -/
  | closeArray
  /-- An opening brace. -/
  | openObject
  /-- A closing brace. -/
  | closeObject
  /-- A colon. -/
  | colon
  /-- A comma. -/
  | comma
  /-- The word `null`. -/
  | null
  /-- The word `true` or `false`. -/
  | bool (b : Bool)
  /-- A numeral. -/
  | number (n : Numeral)
  /-- The octets between two quotes, escapes unread. -/
  | string (text : List UInt8)
  deriving DecidableEq, Repr

/-- What the reader is in the middle of; octets seen are listed latest first. -/
inductive Scan where
  /-- Between tokens. -/
  | between
  /-- In a word. -/
  | word (seen : List UInt8)
  /-- In a numeral. -/
  | number (seen : List UInt8)
  /-- Between quotes. -/
  | string (seen : List UInt8)
  /-- Right after a backslash. -/
  | escape (seen : List UInt8)
  /-- In an escape by number, with so many hexadecimal digits owed. -/
  | hex (seen : List UInt8) (owed : Nat)
  deriving DecidableEq, Repr

/-- The token of a word. -/
def Token.ofWord? (word : List UInt8) : Option Token :=
  if word = Text.Utf8.ofString "null" then some .null
  else if word = Text.Utf8.ofString "true" then some (.bool true)
  else if word = Text.Utf8.ofString "false" then some (.bool false)
  else none

/-- The tokens read so far, latest first, and what the reader is in the middle of. -/
structure Scanner where
  /-- The complete tokens, latest first. -/
  tokens : List Token := []
  /-- What is not complete. -/
  scan : Scan := .between
  deriving DecidableEq, Repr

namespace Scanner

/-- Add a complete token. -/
def push (s : Scanner) (t : Token) : Scanner := ⟨t :: s.tokens, .between⟩

/-- Complete the word or numeral that ends here. -/
def flush? (s : Scanner) : Option Scanner :=
  match s.scan with
  | .between => some s
  | .word seen => (Token.ofWord? seen.reverse).map s.push
  | .number seen => (Numeral.read? seen.reverse).map fun n => s.push (.number n)
  | _ => none

/-- Whether an octet may stand in a numeral. -/
def isNumeralOctet (b : UInt8) : Bool :=
  (0x30 ≤ b && b ≤ 0x39) || Text.Percent.isOneOf "+-.eE" b

/-- Whether an octet is a small letter. -/
def isLetter (b : UInt8) : Bool := 0x61 ≤ b && b ≤ 0x7a

/-- Read an octet that begins something. -/
def begin? (s : Scanner) (b : UInt8) : Option Scanner :=
  match b with
  | 0x5b => some (s.push .openArray)
  | 0x5d => some (s.push .closeArray)
  | 0x7b => some (s.push .openObject)
  | 0x7d => some (s.push .closeObject)
  | 0x3a => some (s.push .colon)
  | 0x2c => some (s.push .comma)
  | 0x22 => some { s with scan := .string [] }
  | 0x2d => some { s with scan := .number [b] }
  | _ =>
    if b = 0x20 ∨ b = 0x09 ∨ b = 0x0a ∨ b = 0x0d then some { s with scan := .between }
    else if 0x30 ≤ b ∧ b ≤ 0x39 then some { s with scan := .number [b] }
    else if isLetter b then some { s with scan := .word [b] }
    else none

/-- Read the next octet. -/
def step? (s : Scanner) (b : UInt8) : Option Scanner :=
  match s.scan with
  | .between => s.begin? b
  | .word seen =>
    if isLetter b then some { s with scan := .word (b :: seen) }
    else s.flush?.bind (·.begin? b)
  | .number seen =>
    if isNumeralOctet b then some { s with scan := .number (b :: seen) }
    else s.flush?.bind (·.begin? b)
  | .string seen =>
    if b = 0x22 then some (s.push (.string seen.reverse))
    else if b = 0x5c then some { s with scan := .escape (b :: seen) }
    else if b < 0x20 then none
    else some { s with scan := .string (b :: seen) }
  | .escape seen =>
    if b = 0x75 then some { s with scan := .hex (b :: seen) 4 }
    else if Text.Percent.isOneOf "\"\\/bfnrt" b then some { s with scan := .string (b :: seen) }
    else none
  | .hex seen owed =>
    if (Text.hexOctet? b).isSome then
      some { s with scan := if owed ≤ 1 then .string (b :: seen) else .hex (b :: seen) (owed - 1) }
    else none

end Scanner

/-- The tokens of a text, in order. -/
def tokens? (text : List UInt8) : Option (List Token) := do
  let s ← text.foldlM Scanner.step? {}
  let s ← s.flush?
  return s.tokens.reverse

end HubLink.Json
