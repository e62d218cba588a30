import HubLink.Text.Split

/-! # Digital twin model identifiers

A model identifier is `dtmi:`, a path of segments joined by colons, a semicolon and a version. A
segment starts with a letter, goes on with letters, digits and underscores, and does not end in an
underscore. A version has one to nine digits, the first of them not zero. -/

namespace HubLink

namespace Dtmi

/-- Whether a character is an ASCII letter. -/
def isLetter (c : Char) : Bool := ('a' ≤ c && c ≤ 'z') || ('A' ≤ c && c ≤ 'Z')

/-- Whether a character is an ASCII digit. -/
def isDigit (c : Char) : Bool := '0' ≤ c && c ≤ '9'

/-- Whether a text is a segment of a path. -/
def isSegment (text : List Char) : Bool :=
  text.head?.any isLetter && text.getLast? != some '_' &&
    text.all fun c => isLetter c || isDigit c || c == '_'

/-- Whether a text is a version. -/
def isVersion (text : List Char) : Bool :=
  1 ≤ text.length && text.length ≤ 9 && text.head? != some '0' && text.all isDigit

/-- Whether a text is a model identifier. -/
def isValid (text : List Char) : Bool :=
  match (Text.afterLead "dtmi:".toList text).bind (Text.cut ';') with
  | some (path, version) => (Text.pieces ':' path).all isSegment && isVersion version
  | none => false

end Dtmi

/-- A model identifier. -/
structure Dtmi where
  /-- The identifier as it is announced to the hub. -/
  text : String
  /-- It has the form of an identifier. -/
  valid : Dtmi.isValid text.toList = true
  deriving DecidableEq

namespace Dtmi

/-- The identifier written by a string. -/
def parse? (s : String) : Option Dtmi :=
  if h : isValid s.toList = true then some ⟨s, h⟩ else none

/-- What is said of a string that is no identifier. -/
def refusal (s : String) : String := "'" ++ s ++ "' is not a valid DTMI"

/-- Read an identifier, or say what is wrong with the string. -/
def parse (s : String) : Except String Dtmi :=
  match parse? s with
  | some d => .ok d
  | none => .error (refusal s)

theorem parse_of_isValid {s : String} (h : isValid s.toList = true) : parse s = .ok ⟨s, h⟩ := by
  rw [parse, parse?, dif_pos h]

theorem parse_of_not_isValid {s : String} (h : ¬isValid s.toList = true) :
    parse s = .error (refusal s) := by
  rw [parse, parse?, dif_neg h]

end Dtmi

end HubLink
