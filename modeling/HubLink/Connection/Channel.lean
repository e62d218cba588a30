import HubLink.Connection.Worker

/-! # Event channels

The bounded channel through which a worker tells the application its news. The worker never waits:
what finds the channel full, or its reader gone, is lost. -/

namespace HubLink

/-- A bounded channel of events. -/
structure EventChannel where
  /-- How many events may wait. -/
  capacity : Nat
  /-- The waiting events, oldest first. -/
  waiting : List ClientEvent := []
  /-- Whether the reading end is there. -/
  isOpen : Bool := true

namespace EventChannel

/-- The most events any channel has room for. -/
def maxCapacity : Nat := 2305843009213693951

/-- Whether there can be a channel of a capacity. -/
def isCapacity (n : Nat) : Bool := 0 < n && n ≤ maxCapacity

/-- Put an event into the channel if there is room and a reader. -/
def push (c : EventChannel) (e : ClientEvent) : EventChannel :=
  if c.isOpen ∧ c.waiting.length < c.capacity then { c with waiting := c.waiting ++ [e] } else c

/-- Read everything that waits. -/
def drain (c : EventChannel) : EventChannel × List ClientEvent :=
  ({ c with waiting := [] }, c.waiting)

/-- Give up the reading end. -/
def shut (c : EventChannel) : EventChannel := { c with waiting := [], isOpen := false }

end EventChannel

end HubLink
