import HubLink.Text.Decimal

/-! # JSON numerals

The text of a JSON number in its parts, and the numbers it may stand for. An integer of at most 64
bits is taken as it is; any other numeral is a double, made from its leading digits and a power of
ten. A numeral whose double would be infinite stands for no number. -/

namespace HubLink.Json

/-- The parts of a numeral. -/
structure Numeral where
  /-- Whether it starts with a minus. -/
  negative : Bool
  /-- The digits before the point. -/
  whole : List Nat
  /-- The digits after the point. -/
  fraction : List Nat
  /-- The sign and the digits of the exponent. -/
  exponent : Option (Bool × List Nat)
  /-- Whether there is neither a point nor an exponent. -/
  isInteger : Bool
  deriving DecidableEq, Repr

/-- The value of a digit given as an octet. -/
def digitOctet? (b : UInt8) : Option Nat :=
  if 0x30 ≤ b ∧ b ≤ 0x39 then some (b.toNat - 0x30) else none

/-- The digits a text starts with, and what follows them. -/
def leadingDigits : List UInt8 → List Nat × List UInt8
  | [] => ([], [])
  | b :: rest =>
    match digitOctet? b with
    | some d => let (ds, more) := leadingDigits rest; (d :: ds, more)
    | none => ([], b :: rest)

/-- The exponent in a text that is empty or starts with `e` or `E`. -/
def readExponent? : List UInt8 → Option (Option (Bool × List Nat))
  | [] => some none
  | b :: rest =>
    if b = 0x65 ∨ b = 0x45 then
      let (negative, digits) :=
        match rest with
        | 0x2b :: digits => (false, digits)
        | 0x2d :: digits => (true, digits)
        | digits => (false, digits)
      match leadingDigits digits with
      | ([], _) => none
      | (ds, []) => some (some (negative, ds))
      | _ => none
    else none

/-- The parts of a text that is a numeral: no leading zeros, a digit on both sides of the point and
in the exponent. -/
def Numeral.read? (text : List UInt8) : Option Numeral := do
  let (negative, text) :=
    match text with
    | 0x2d :: rest => (true, rest)
    | text => (false, text)
  let (whole, rest) := leadingDigits text
  if whole = [] ∨ (whole.length > 1 ∧ whole.head? = some 0) then none
  else
    match rest with
    | 0x2e :: rest =>
      let (fraction, rest) := leadingDigits rest
      if fraction = [] then none
      else return ⟨negative, whole, fraction, ← readExponent? rest, false⟩
    | rest =>
      let exponent ← readExponent? rest
      return ⟨negative, whole, [], exponent, exponent.isNone⟩

/-- A number of a JSON text. -/
inductive Number where
  /-- A natural number of at most 64 bits. -/
  | natural (n : Nat)
  /-- The negative of a positive number of at most 63 bits and one. -/
  | negative (n : Nat)
  /-- Any other number. -/
  | real (x : Float)
  deriving Repr, BEq

/-- Append digits to `value` as long as the result has at most 64 bits; also what is left over. -/
def appendDigits (value : Nat) : List Nat → Nat × List Nat
  | [] => (value, [])
  | d :: ds =>
    if value * 10 + d < Text.bound64 then appendDigits (value * 10 + d) ds else (value, d :: ds)

/-- A power of ten as a double. -/
def tenPower (n : Nat) : Float := Float.ofScientific 1 false n

/-- Divide by ten to the power `308 * steps + rest`, one factor after the other. -/
def divideByTen (x : Float) (rest : Nat) : Nat → Float
  | 0 => x / tenPower rest
  | steps + 1 => if x == 0.0 then x else divideByTen (x / tenPower 308) rest steps

/-- `digits` times ten to a power as a double; nothing when it is out of range. -/
def scale? (digits : Nat) (power : Int) : Option Float :=
  let x := Float.ofNat digits
  match power with
  | .ofNat n =>
    if n ≤ 308 then
      let y := x * tenPower n
      if y.isInf then none else some y
    else if digits = 0 then some x
    else none
  | .negSucc n => some (divideByTen x ((n + 1) - 308 * (n / 308)) (n / 308))

/-- The value of the digits of an exponent; nothing when it has more than 31 bits. -/
def exponentValue? (digits : List Nat) : Option Nat :=
  digits.foldl (fun value d => value.bind fun v =>
    if v * 10 + d < Text.bound31 then some (v * 10 + d) else none) (some 0)

/-- The double of a numeral without its sign. -/
def Numeral.magnitude? (n : Numeral) : Option Float :=
  let (digits, dropped) := appendDigits 0 n.whole
  let (digits', unread) := appendDigits digits n.fraction
  let power : Int := dropped.length - (n.fraction.length - unread.length : Nat)
  match n.exponent with
  | none => scale? digits' power
  | some (negative, ds) =>
    match exponentValue? ds with
    | some e => scale? digits' (if negative then power - e else power + e)
    | none => if digits' ≠ 0 ∧ negative = false then none else some 0.0

/-- The number a numeral stands for. -/
def Numeral.number? (n : Numeral) : Option Number :=
  let digits := appendDigits 0 n.whole
  if n.isInteger ∧ digits.2 = [] ∧ n.negative = false then some (.natural digits.1)
  else if n.isInteger ∧ digits.2 = [] ∧ 0 < digits.1 ∧ digits.1 ≤ Text.bound63 then
    some (.negative digits.1)
  else n.magnitude?.map fun x => .real (if n.negative then -x else x)

end HubLink.Json
