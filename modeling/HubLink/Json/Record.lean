import HubLink.Json.Value

/-! # Reading records

Reading a JSON tree as a record with named fields: an object, whose unknown members are skipped
and whose known ones may appear once, or an array of the fields in order. Reading a field says what
kind of value it takes. -/

namespace HubLink.Json

namespace Tree

/-- The string of a tree. -/
def string? : Tree → Option String
  | .string s => Json.string? s
  | _ => none

/-- The truth value of a tree. -/
def bool? : Tree → Option Bool
  | .bool b => some b
  | _ => none

/-- The natural number below `bound` of a tree. -/
def natBelow? (bound : Nat) : Tree → Option Nat
  | .number n =>
    match n.number? with
    | some (.natural k) => if k < bound then some k else none
    | _ => none
  | _ => none

/-- The integer of a tree that lies from `-bound` to `bound - 1`. -/
def intWithin? (bound : Nat) : Tree → Option Int
  | .number n =>
    match n.number? with
    | some (.natural k) => if k < bound then some k else none
    | some (.negative k) => if k ≤ bound then some (-k) else none
    | _ => none
  | _ => none

/-- The number of a tree as a double. -/
def real? : Tree → Option Float
  | .number n => n.number?.map fun
    | .natural k => Float.ofNat k
    | .negative k => -Float.ofNat k
    | .real x => x
  | _ => none

/-- Read a tree that may be `null`. -/
def nullable? {α : Type} (read : Tree → Option α) : Tree → Option (Option α)
  | .null => some none
  | t => (read t).map some

end Tree

/-- The fields that a tree gives to a record. -/
abbrev Record := SortedMap String Tree

/-- The fields of an object among `names`. -/
def Record.ofMembers? (names : List String) :
    Record → List (List UInt8 × Tree) → Option Record
  | r, [] => some r
  | r, (key, t) :: rest => do
    let key ← Json.string? key
    if names.contains key then
      if r.contains key then none else ofMembers? names (r.insert key t) rest
    else ofMembers? names r rest

/-- The fields that a tree gives to a record whose fields are `names`, in order. -/
def Tree.record? (names : List String) : Tree → Option Record
  | .object members => Record.ofMembers? names .empty members
  | .array items =>
    if items.length ≤ names.length then some (.ofList (names.zip items)) else none
  | _ => none

/-- Read a field that has to be there. -/
def Record.required? {α : Type} (r : Record) (name : String) (read : Tree → Option α) :
    Option α :=
  (r.get? name).bind read

/-- Read a field that may be missing. -/
def Record.withDefault? {α : Type} (r : Record) (name : String) (default : α)
    (read : Tree → Option α) : Option α :=
  match r.get? name with
  | some t => read t
  | none => some default

end HubLink.Json
