import HubLink.Json.Token

/-! # JSON trees

The nesting of a JSON text, with strings and numerals left as they are written. A tree is built
token by token; the containers that are still open wait in a list, innermost first. -/

namespace HubLink.Json

/-- The structure of a JSON text. -/
inductive Tree where
  /-- The word `null`. -/
  | null
  /-- A truth value. -/
  | bool (b : Bool)
  /-- A numeral. -/
  | number (n : Numeral)
  /-- A string, escapes unread. -/
  | string (text : List UInt8)
  /-- An array. -/
  | array (items : List Tree)
  /-- An object, its members as written. -/
  | object (members : List (List UInt8 × Tree))
  deriving Repr

/-- A container that is still open; what it holds is listed latest first. -/
inductive Frame where
  /-- An array. -/
  | array (items : List Tree)
  /-- An object between members. -/
  | object (members : List (List UInt8 × Tree))
  /-- An object in the middle of the member `key`. -/
  | member (members : List (List UInt8 × Tree)) (key : List UInt8)

/-- What has to come next. -/
inductive Want where
  /-- A value. -/
  | value
  /-- A value, or the end of the array just opened. -/
  | valueOrClose
  /-- A key. -/
  | key
  /-- A key, or the end of the object just opened. -/
  | keyOrClose
  /-- The colon after a key. -/
  | colon
  /-- A comma or the end of the innermost container. -/
  | separator
  /-- Nothing: the text is complete. -/
  | nothing
  deriving DecidableEq, Repr

/-- A tree under construction. -/
structure Builder where
  /-- The open containers, innermost first. -/
  frames : List Frame := []
  /-- What has to come next. -/
  want : Want := .value
  /-- The finished tree. -/
  tree : Option Tree := none

namespace Builder

/-- Put a complete value where it belongs. -/
def give? (frames : List Frame) (t : Tree) : Option Builder :=
  match frames with
  | [] => some ⟨[], .nothing, some t⟩
  | .array items :: rest => some ⟨.array (t :: items) :: rest, .separator, none⟩
  | .member members key :: rest => some ⟨.object ((key, t) :: members) :: rest, .separator, none⟩
  | .object _ :: _ => none

/-- Read a token where a value has to come. -/
def value? (frames : List Frame) : Token → Option Builder
  | .null => give? frames .null
  | .bool b => give? frames (.bool b)
  | .number n => give? frames (.number n)
  | .string s => give? frames (.string s)
  | .openArray => some ⟨.array [] :: frames, .valueOrClose, none⟩
  | .openObject => some ⟨.object [] :: frames, .keyOrClose, none⟩
  | _ => none

/-- Read a token where a key has to come. -/
def key? (frames : List Frame) (t : Token) : Option Builder :=
  match frames, t with
  | .object members :: rest, .string key => some ⟨.member members key :: rest, .colon, none⟩
  | _, _ => none

/-- Close the innermost container. -/
def close? (frames : List Frame) (t : Token) : Option Builder :=
  match frames, t with
  | .array items :: rest, .closeArray => give? rest (.array items.reverse)
  | .object members :: rest, .closeObject => give? rest (.object members.reverse)
  | _, _ => none

/-- Read the next token. -/
def step? (b : Builder) (t : Token) : Option Builder :=
  match b.want with
  | .value => value? b.frames t
  | .valueOrClose => if t = .closeArray then close? b.frames t else value? b.frames t
  | .key => key? b.frames t
  | .keyOrClose => if t = .closeObject then close? b.frames t else key? b.frames t
  | .colon => if t = .colon then some { b with want := .value } else none
  | .separator =>
    if t = .comma then
      match b.frames with
      | .array _ :: _ => some { b with want := .value }
      | _ => some { b with want := .key }
    else close? b.frames t
  | .nothing => none

end Builder

/-- The tree of a JSON text. -/
def Tree.parse? (text : List UInt8) : Option Tree := do
  let b ← (← tokens? text).foldlM Builder.step? {}
  b.tree

end HubLink.Json
