import HubLink.Json.Value
import HubLink.Text.Decimal

/-! # Writing JSON

The compact text of a value: no blanks, members in the order they are listed, and only quotes,
backslashes and control characters escaped. A double is written exactly, as an integer and a power
of ten. -/

namespace HubLink.Json

open Text

/-- A character between quotes. -/
def renderChar (c : Char) : List Char :=
  if c = '"' then ['\\', '"']
  else if c = '\\' then ['\\', '\\']
  else if c.toNat = 0x08 then ['\\', 'b']
  else if c.toNat = 0x09 then ['\\', 't']
  else if c.toNat = 0x0a then ['\\', 'n']
  else if c.toNat = 0x0c then ['\\', 'f']
  else if c.toNat = 0x0d then ['\\', 'r']
  else if c.toNat < 0x20 then
    ['\\', 'u', '0', '0', hexLower (c.toNat / 16), hexLower (c.toNat % 16)]
  else [c]

/-- A string between quotes. -/
def renderString (s : String) : List Char := '"' :: s.toList.flatMap renderChar ++ ['"']

/-- A finite double, exactly: its significand times a power of two is an integer times a power of
ten. -/
def renderFloat (x : Float) : List Char :=
  let bits := x.toBits.toNat
  let sign := if bits >>> 63 = 1 then ['-'] else []
  let exponent := (bits >>> 52) % 2048
  let fraction := bits % (1 <<< 52)
  let significand := if exponent = 0 then fraction else fraction + (1 <<< 52)
  let power : Int := (if exponent = 0 then 1 else exponent : Nat) - 1075
  match power with
  | .ofNat k => sign ++ decimal (significand <<< k) ++ ['e', '0']
  | .negSucc k =>
    sign ++ decimal (significand * Nat.pow 5 (k + 1)) ++ 'e' :: '-' :: decimal (k + 1)

/-- A number. -/
def Number.render : Number → List Char
  | .natural n => decimal n
  | .negative n => '-' :: decimal n
  | .real x => renderFloat x

mutual

/-- The text of a value. -/
def Value.chars : Value → List Char
  | .null => ['n', 'u', 'l', 'l']
  | .bool true => ['t', 'r', 'u', 'e']
  | .bool false => ['f', 'a', 'l', 's', 'e']
  | .number n => n.render
  | .string s => renderString s
  | .array items => '[' :: itemChars items ++ [']']
  | .object members => '\x7b' :: memberChars members ++ ['\x7d']

/-- The texts of values, commas between them. -/
def itemChars : List Value → List Char
  | [] => []
  | [v] => v.chars
  | v :: w :: rest => v.chars ++ ',' :: itemChars (w :: rest)

/-- The texts of members, commas between them. -/
def memberChars : List (String × Value) → List Char
  | [] => []
  | [(key, v)] => renderString key ++ ':' :: v.chars
  | (key, v) :: m :: rest => renderString key ++ ':' :: v.chars ++ ',' :: memberChars (m :: rest)

end

/-- The compact text of a value. -/
def Value.render (v : Value) : String := String.ofList v.chars

end HubLink.Json
