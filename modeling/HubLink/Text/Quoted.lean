import HubLink.Text.Hex
import HubLink.Text.Unprintable

/-! # Quoted texts

A text between double quotes in which quotes, backslashes, control characters and characters
without a shape of their own are escaped, so that a message shows exactly which characters it is
about. -/

namespace HubLink.Text

/-- Whether a character stands for itself between quotes. -/
def showsItself (c : Char) : Bool :=
  if c.toNat < 0x20 then false
  else if c.toNat < 0x7f then true
  else if c.toNat = 0x7f then false
  else !isUnprintable c

/-- A character as it stands between quotes. -/
def quoteChar (c : Char) : List Char :=
  if c = Char.ofNat 0 then ['\\', '0']
  else if c = '\t' then ['\\', 't']
  else if c = '\r' then ['\\', 'r']
  else if c = '\n' then ['\\', 'n']
  else if c = '"' then ['\\', '"']
  else if c = '\\' then ['\\', '\\']
  else if showsItself c then [c]
  else ['\\', 'u', '\x7b'] ++ hexDigits c.toNat ++ ['\x7d']

/-- A text between quotes. -/
def quoted (text : List Char) : List Char := '"' :: text.flatMap quoteChar ++ ['"']

/-- A string between quotes. -/
def quotedString (s : String) : String := String.ofList (quoted s.toList)

end HubLink.Text
