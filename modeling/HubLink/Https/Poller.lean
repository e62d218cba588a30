import HubLink.Message

/-! # Pollers

Fetching messages to the device again and again in the background. A poller opens a connection of
its own when it has none, and polls over it at every tick of a clock; after a message it polls again
at once, since there may be more. A failure that may pass costs the connection; any other failure of
a poll is reported and ends the polling. -/

namespace HubLink.Https

/-- How a round of a poller ended. -/
inductive PollOutcome where
  /-- No connection could be opened. -/
  | unopened (fault : Fault)
  /-- It polled, opening a connection first if it had none. -/
  | polled (result : Except Fault (Option Notification))

/-- What the hub has in store for a round of a poller. -/
structure PollRound where
  /-- What comes of opening a connection. -/
  opening : Except Fault Unit
  /-- What comes of polling over it. -/
  polling : Except Fault (Option Notification)

/-- What a poller does in a round, with what comes of it. -/
inductive PollAct where
  /-- It waits for its clock to tick. -/
  | await
  /-- It opens a connection. -/
  | open (result : Except Fault Unit)
  /-- It polls. -/
  | poll (result : Except Fault (Option Notification))
  /-- It reports an event. -/
  | report (event : LinkEvent)

/-- The poll, if any, that a round ended with. -/
def PollOutcome.polls : PollOutcome → List PollAct
  | .unopened _ => []
  | .polled result => [.poll result]

/-- A poller between two rounds. -/
structure Poller where
  /-- Whether it has a connection. -/
  isConnected : Bool := false
  /-- Whether the next round starts at once. -/
  isEager : Bool := false
  /-- Whether it has ended. -/
  isStopped : Bool := false
  deriving DecidableEq, Repr

namespace Poller

/-- When the clock of a poller that starts at an instant ticks first; it aborts if it should tick
all the time, or past the end of the clock. -/
def firstTick? (start interval : Nat) : Option Nat :=
  if interval = 0 then none else Instant.after? start interval

/-- The poller after a round, and what it reports. -/
def step (p : Poller) (outcome : PollOutcome) : Poller × List LinkEvent :=
  if p.isStopped then (p, [])
  else
    match outcome with
    | .unopened _ => ({ p with isEager := false }, [])
    | .polled (.ok (some n)) => ({ p with isConnected := true, isEager := true }, [.notification n])
    | .polled (.ok none) => ({ p with isConnected := true, isEager := false }, [])
    | .polled (.error fault) =>
      if fault.isTransient then ({ p with isConnected := false, isEager := false }, [])
      else ({ p with isStopped := true }, [.disconnected fault])

/-- The poller after some rounds, and all that it reports. -/
def run (p : Poller) : List PollOutcome → Poller × List LinkEvent
  | [] => (p, [])
  | outcome :: rest =>
    let (p, events) := p.step outcome
    let (p, more) := run p rest
    (p, events ++ more)

/-- How a round ends. -/
def outcome (p : Poller) (round : PollRound) : PollOutcome :=
  if p.isConnected then .polled round.polling
  else
    match round.opening with
    | .ok () => .polled round.polling
    | .error fault => .unopened fault

/-- What a poller does before it polls: it waits unless it is to start at once, and opens a
connection unless it has one. -/
def approach (p : Poller) (round : PollRound) : List PollAct :=
  (if p.isEager then [] else [.await]) ++ if p.isConnected then [] else [.open round.opening]

/-- What a poller does in a round. -/
def acts (p : Poller) (round : PollRound) : List PollAct :=
  if p.isStopped then []
  else
    p.approach round ++ (p.outcome round).polls ++ (p.step (p.outcome round)).2.map .report

/-- The poller after a round. -/
def next (p : Poller) (round : PollRound) : Poller := (p.step (p.outcome round)).1

end Poller

end HubLink.Https
