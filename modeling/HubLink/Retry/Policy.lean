import HubLink.Random.Spread
import HubLink.Retry.Curve

/-! # Retry policies

A backoff curve over doubles whose spread is drawn from a seed and the number of the attempt, so
that the same failure at the same attempt is always answered alike. -/

namespace HubLink

/-- Settings of a retry policy. -/
structure RetryOptions where
  /-- The first delay, in milliseconds. -/
  baseDelay : Nat := 100
  /-- The longest delay, in milliseconds. -/
  maxDelay : Nat := 10000
  /-- How much the delays may add up to, in milliseconds. -/
  maxDuration : Nat := 240000
  /-- The share by which delays are spread. -/
  jitter : Float := 0.2
  /-- The seed of the spread. -/
  seed : Nat := 0

/-- Decides after each failure whether and when to try again. -/
structure RetryPolicy where
  /-- The delays. -/
  curve : Curve Float
  /-- The seed of the spread. -/
  seed : UInt64

namespace RetryPolicy

/-- The policy with these settings. -/
def ofOptions (o : RetryOptions) : RetryPolicy where
  curve := .make o.baseDelay o.maxDelay o.maxDuration o.jitter
  seed := o.seed.toUInt64

/-- The seed that is used for an attempt. -/
def attemptSeed (p : RetryPolicy) (n : Nat) : UInt64 :=
  p.seed ^^^ (n.toUInt64 * 0x9E3779B97F4A7C15)

/-- Whether to make attempt `n`, counted from zero, after a failure, and when. -/
def decide (p : RetryPolicy) (kind : FailureKind) (n : Nat) : Decision :=
  p.curve.decide (fun n => Random.spread (p.attemptSeed n)) kind n

end RetryPolicy

end HubLink
