/-! # Instants and durations

Both are natural numbers of nanoseconds, an instant counted from the start of the clock. Deadlines
are never placed more than a year ahead, so no wait asked for, however long, runs past the end of
the clock (`deadlineAfter_le`, `after?_min_year`). -/

namespace HubLink

namespace Duration

/-- Nanoseconds in a millisecond. -/
def perMilli : Nat := 1000000

/-- Nanoseconds in a second. -/
def perSecond : Nat := 1000000000

/-- So many milliseconds. -/
def ofMillis (n : Nat) : Nat := n * perMilli

/-- So many seconds. -/
def ofSeconds (n : Nat) : Nat := n * perSecond

/-- The whole seconds. -/
def seconds (d : Nat) : Nat := d / perSecond

/-- The nanoseconds beside the whole seconds. -/
def subsecond (d : Nat) : Nat := d % perSecond

/-- The greatest duration there is: 64 bits of seconds, and all but one nanosecond of another. -/
def greatest : Nat := ofSeconds 18446744073709551616 - 1

/-- A year of 365 days. -/
def year : Nat := ofSeconds (365 * 86400)

end Duration

namespace Instant

/-- The last instant the clock can show: 63 bits of seconds. -/
def last : Nat := Duration.ofSeconds 9223372036854775808 - 1

/-- The instant a duration after `start`, unless that is past the end of the clock. -/
def after? (start : Nat) (d : Nat) : Option Nat :=
  if start + d ≤ last then some (start + d) else none

theorem after?_eq_some_iff {start d t : Nat} :
    after? start d = some t ↔ t = start + d ∧ t ≤ last := by
  rw [after?]
  split
  · rename_i h
    rw [Option.some.injEq, eq_comm]
    exact ⟨fun heq => ⟨heq, heq ▸ h⟩, And.left⟩
  · rename_i h
    exact ⟨fun hnone => (nomatch hnone), fun ⟨heq, hle⟩ => absurd (heq ▸ hle) h⟩

theorem after?_eq_none_iff {start d : Nat} : after? start d = none ↔ last < start + d := by
  rw [after?]
  split <;> simp_all

end Instant

/-- The instant `timeout` after `start`, but at most a year after it. -/
def deadlineAfter (start : Nat) (timeout : Nat) : Nat :=
  start + min timeout Duration.year

theorem le_deadlineAfter (start : Nat) (timeout : Nat) :
    start ≤ deadlineAfter start timeout :=
  Nat.le_add_right _ _

/-- A deadline is at most a year ahead. -/
theorem deadlineAfter_le (start : Nat) (timeout : Nat) :
    deadlineAfter start timeout ≤ start + Duration.year :=
  Nat.add_le_add_left (Nat.min_le_right _ _) _

/-- A longer timeout gives no earlier deadline. -/
theorem deadlineAfter_mono (start : Nat) {a b : Nat} (h : a ≤ b) :
    deadlineAfter start a ≤ deadlineAfter start b := by
  simp only [deadlineAfter]
  omega

/-- **A deadline is shown by the clock**, however long the timeout, while there is a year left. -/
theorem after?_min_year {start : Nat} (room : start + Duration.year ≤ Instant.last)
    (timeout : Nat) :
    Instant.after? start (min timeout Duration.year) = some (deadlineAfter start timeout) :=
  Instant.after?_eq_some_iff.2 ⟨rfl, Nat.le_trans (deadlineAfter_le start timeout) room⟩

/-- The earlier of two instants that may be missing. -/
def earliest : Option Nat → Option Nat → Option Nat
  | some a, some b => some (min a b)
  | some a, none => some a
  | none, b => b

/-- The earliest of a list of instants. -/
def earliestOf (instants : List Nat) : Option Nat :=
  instants.foldl (fun e t => earliest e (some t)) none

/-- Whether an instant is set and not after `now`. -/
def isDue (due : Option Nat) (now : Nat) : Bool :=
  match due with
  | some t => t ≤ now
  | none => false

end HubLink
