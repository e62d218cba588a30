/-! # UTF-8

Encoding texts as octets, and the machine that decodes octets one at a time. The strict reading
refuses ill-formed input; the lenient one puts U+FFFD for every maximal part of a character that
cannot be completed. -/

namespace HubLink.Text.Utf8

/-- The octets of a text. -/
def encode (text : List Char) : List UInt8 := text.flatMap String.utf8EncodeChar

/-- The octets of a string. -/
def ofString (s : String) : List UInt8 := encode s.toList

/-- A character begun but not complete. -/
structure Partial where
  /-- How many octets are still owed after the next one. -/
  owed : Nat
  /-- The least octet that may come next. -/
  low : UInt8
  /-- The greatest octet that may come next. -/
  high : UInt8
  /-- The bits read so far. -/
  code : Nat
  deriving DecidableEq, Repr

/-- What an octet says at the start of a character. -/
inductive Start where
  /-- It is a character by itself. -/
  | whole (c : Char)
  /-- It begins a longer character. -/
  | open (p : Partial)
  /-- No character starts with it. -/
  | refused
  deriving DecidableEq, Repr

/-- Read the first octet of a character. -/
def start (b : UInt8) : Start :=
  if b < 0x80 then .whole (Char.ofNat b.toNat)
  else if b < 0xc2 then .refused
  else if b < 0xe0 then .open ⟨0, 0x80, 0xbf, b.toNat - 0xc0⟩
  else if b < 0xf0 then
    .open ⟨1, if b = 0xe0 then 0xa0 else 0x80, if b = 0xed then 0x9f else 0xbf, b.toNat - 0xe0⟩
  else if b < 0xf5 then
    .open ⟨2, if b = 0xf0 then 0x90 else 0x80, if b = 0xf4 then 0x8f else 0xbf, b.toNat - 0xf0⟩
  else .refused

/-- Whether `b` continues the character. -/
def Partial.admits (p : Partial) (b : UInt8) : Bool := p.low ≤ b && b ≤ p.high

/-- The bits of the character once `b` is added. -/
def Partial.push (p : Partial) (b : UInt8) : Nat := p.code * 64 + (b.toNat - 0x80)

/-- The character after one more octet: complete, or owing one octet less. -/
def Partial.step (p : Partial) (b : UInt8) : Char ⊕ Partial :=
  match p.owed with
  | 0 => .inl (Char.ofNat (p.push b))
  | n + 1 => .inr ⟨n, 0x80, 0xbf, p.push b⟩

/-- Read on after `p`, refusing ill-formed octets. -/
def decodeFrom : Option Partial → List UInt8 → Option (List Char)
  | none, [] => some []
  | some _, [] => none
  | none, b :: rest =>
    match start b with
    | .whole c => (decodeFrom none rest).map (c :: ·)
    | .open p => decodeFrom (some p) rest
    | .refused => none
  | some p, b :: rest =>
    if p.admits b then
      match p.step b with
      | .inl c => (decodeFrom none rest).map (c :: ·)
      | .inr p => decodeFrom (some p) rest
    else none

/-- The text of well-formed octets. -/
def decode? (bytes : List UInt8) : Option (List Char) := decodeFrom none bytes

/-- What stands for octets that are no character. -/
def replacement : Char := '\ufffd'

/-- Read on after `p`, replacing what is ill-formed. -/
def lenientFrom : Option Partial → List UInt8 → List Char
  | none, [] => []
  | some _, [] => [replacement]
  | none, b :: rest =>
    match start b with
    | .whole c => c :: lenientFrom none rest
    | .open p => lenientFrom (some p) rest
    | .refused => replacement :: lenientFrom none rest
  | some p, b :: rest =>
    if p.admits b then
      match p.step b with
      | .inl c => c :: lenientFrom none rest
      | .inr p => lenientFrom (some p) rest
    else
      match start b with
      | .whole c => replacement :: c :: lenientFrom none rest
      | .open p => replacement :: lenientFrom (some p) rest
      | .refused => replacement :: replacement :: lenientFrom none rest

/-- The text of any octets, ill-formed parts replaced. -/
def decodeLenient (bytes : List UInt8) : List Char := lenientFrom none bytes

/-- The string of any octets, ill-formed parts replaced. -/
def lenientString (bytes : List UInt8) : String := String.ofList (decodeLenient bytes)

/-- The string of well-formed octets. -/
def string? (bytes : List UInt8) : Option String := (decode? bytes).map String.ofList

end HubLink.Text.Utf8
