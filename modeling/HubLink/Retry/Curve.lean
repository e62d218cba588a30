import HubLink.Fault

/-! # Backoff curves

How long to wait before trying again, and when to stop. The delay doubles with every attempt up to
a cap, is spread by a jitter, and trying ends once the capped delays, the spread left aside, add up
to more than a budget. The curve is defined over any numbers that can be added, multiplied and
compared: doubles when it runs, rationals when it is reasoned about. -/

namespace HubLink

/-- Numbers that delays are computed with. -/
class DelayNumber (α : Type) extends Add α, Mul α, LT α where
  /-- A natural number among them. -/
  ofNat : Nat → α
  /-- A third. -/
  third : α
  /-- The whole part of a number, zero for a negative one. -/
  whole : α → Nat
  /-- Comparing is decidable. -/
  decideLt : DecidableLT α

attribute [reducible, instance] DelayNumber.decideLt

instance : DelayNumber Float where
  ofNat := Float.ofNat
  third := 1.0 / 3.0
  whole x := x.toUInt64.toNat
  decideLt := inferInstance

/-- A backoff curve, in milliseconds. -/
structure Curve (α : Type) where
  /-- The first delay. -/
  base : α
  /-- No delay is longer. -/
  cap : α
  /-- How much the capped delays may add up to. -/
  budget : α
  /-- The greatest share by which a delay is shortened or lengthened. -/
  jitter : α

/-- What to do after a failure. -/
inductive Decision where
  /-- Do not try again. -/
  | giveUp
  /-- Try again after a while. -/
  | retry (after : Nat)
  deriving DecidableEq, Repr

/-- Whether it is over. -/
def Decision.isFinal : Decision → Bool
  | .giveUp => true
  | .retry _ => false

/-- The time to wait, none when it is over. -/
def Decision.delay : Decision → Nat
  | .giveUp => 0
  | .retry after => after

namespace Curve

variable {α : Type} [DelayNumber α]

/-- `x` if it lies between zero and a third, else the nearer of the two. -/
def clampJitter (x : α) : α :=
  if x < DelayNumber.ofNat 0 then DelayNumber.ofNat 0
  else if DelayNumber.third < x then DelayNumber.third
  else x

/-- The curve with these settings: the base is at least a millisecond, the cap at least the base,
and the jitter at most a third, which keeps the delays from decreasing. -/
def make (base cap budget : Nat) (jitter : α) : Curve α where
  base := DelayNumber.ofNat (max base 1)
  cap := DelayNumber.ofNat (max cap (max base 1))
  budget := DelayNumber.ofNat budget
  jitter := clampJitter jitter

/-- The doublings stop after this attempt. -/
def lastDoubling : Nat := 64

/-- The delay of attempt `n + 1`, given that of attempt `n`. -/
def double (n : Nat) (delay : α) : α := if n < lastDoubling then delay + delay else delay

/-- The delay of an attempt before it is capped and spread. -/
def exponential (c : Curve α) (n : Nat) : α :=
  (List.range (min n lastDoubling)).foldl (fun delay k => double k delay) c.base

/-- The smaller of a delay and the cap. -/
def capped (c : Curve α) (x : α) : α := if x < c.cap then x else c.cap

/-- The milliseconds to wait before an attempt, spread by a number between minus one and one. -/
def backoff (c : Curve α) (spread : α) (n : Nat) : Nat :=
  DelayNumber.whole
    (c.capped (c.exponential n * (DelayNumber.ofNat 1 + spread * c.jitter)))

/-- Whether adding the capped delays of the attempts from `n` on, `delay` being the next one, to
what was `spent` before exceeds the budget within `left` attempts. -/
def exceedsWithin (c : Curve α) : (left n : Nat) → (delay spent : α) → Bool
  | 0, _, _, _ => false
  | left + 1, n, delay, spent =>
    if c.budget < spent + c.capped delay then true
    else exceedsWithin c left (n + 1) (double n delay) (spent + c.capped delay)

/-- Whether the delays up to and with that of an attempt exceed the budget. -/
def isExhausted (c : Curve α) (n : Nat) : Bool :=
  c.exceedsWithin (n + 1) 0 c.base (DelayNumber.ofNat 0)

/-- Whether to make the attempt after a failure, and when. A busy service that says when to come
back is believed; other delays follow the curve. -/
def decide (c : Curve α) (spread : Nat → α) (kind : FailureKind) (n : Nat) : Decision :=
  if !kind.isTransient || c.isExhausted n then .giveUp
  else
    match kind with
    | .throttled (some after) => .retry after
    | _ => .retry (Duration.ofMillis (c.backoff (spread n) n))

end Curve

end HubLink
