import HubLink.Message

/-! # Scripted links

A link for trying out workers and receivers: what its calls lead to, and how long they take, is set
beforehand, and every call is recorded when it starts. Results are used up in order; without one a
call succeeds, unless the link cannot reach its hub at all. Events injected while nobody listens
wait. -/

namespace HubLink.Bench

/-- A recorded call. -/
inductive LinkCall where
  /-- Connect. -/
  | connect
  /-- Hand over a message. -/
  | send (message : Outbound)
  /-- Settle an inbound message. -/
  | settle (tag : DeliveryTag) (disposition : Disposition)
  /-- Close. -/
  | close
  deriving DecidableEq

/-- What is set beforehand. -/
structure Script where
  /-- Results of connecting. -/
  connects : List (Except Fault Unit) := []
  /-- Results of handing over. -/
  sends : List (Except Fault SendOutcome) := []
  /-- Results of settling. -/
  settles : List (Except Fault Unit) := []
  /-- Results of closing. -/
  closes : List (Except Fault Unit) := []
  /-- A new time for connecting. -/
  connectDelay : Option Nat := none
  /-- A new time for handing over. -/
  sendDelay : Option Nat := none
  /-- Whether messages are confirmed at once from now on. -/
  autoAck : Option Bool := none

/-- A scripted link. -/
structure ScriptedLink where
  /-- Results still to come of connecting. -/
  connects : List (Except Fault Unit) := []
  /-- Results still to come of handing over. -/
  sends : List (Except Fault SendOutcome) := []
  /-- Results still to come of settling. -/
  settles : List (Except Fault Unit) := []
  /-- Results still to come of closing. -/
  closes : List (Except Fault Unit) := []
  /-- How long connecting takes. -/
  connectDelay : Nat := 0
  /-- How long handing over takes. -/
  sendDelay : Nat := 0
  /-- What connecting leads to when no result is set. -/
  reach : Except Fault Unit := .ok ()
  /-- Whether messages are confirmed at once when no result is set. -/
  autoAck : Bool := false
  /-- Events that were not picked up yet. -/
  events : List (Except Fault LinkEvent) := []
  /-- The calls and when they started. -/
  calls : List (Nat × LinkCall) := []

namespace ScriptedLink

/-- Follow a script from now on. -/
def follow (l : ScriptedLink) (s : Script) : ScriptedLink :=
  { l with
    connects := l.connects ++ s.connects
    sends := l.sends ++ s.sends
    settles := l.settles ++ s.settles
    closes := l.closes ++ s.closes
    connectDelay := s.connectDelay.getD l.connectDelay
    sendDelay := s.sendDelay.getD l.sendDelay
    autoAck := s.autoAck.getD l.autoAck }

/-- Record a call. -/
def record (l : ScriptedLink) (now : Nat) (call : LinkCall) : ScriptedLink :=
  { l with calls := l.calls ++ [(now, call)] }

/-- The next result and those after it. -/
def pop {α : Type} (otherwise : Except Fault α) (results : List (Except Fault α)) :
    Except Fault α × List (Except Fault α) :=
  (results.headD otherwise, results.tail)

/-- Finish connecting. -/
def connected (l : ScriptedLink) : ScriptedLink × Except Fault Unit :=
  let (result, connects) := pop l.reach l.connects
  ({ l with connects }, result)

/-- Finish handing over. -/
def sent (l : ScriptedLink) : ScriptedLink × Except Fault SendOutcome :=
  let (result, sends) := pop (.ok (if l.autoAck then .acknowledged none else .awaiting)) l.sends
  ({ l with sends }, result)

/-- Settle an inbound message. -/
def settle (l : ScriptedLink) (now : Nat) (tag : DeliveryTag) (disposition : Disposition) :
    ScriptedLink × Except Fault Unit :=
  let (result, settles) := pop (.ok ()) l.settles
  ({ l with settles }.record now (.settle tag disposition), result)

/-- Close. -/
def close (l : ScriptedLink) (now : Nat) : ScriptedLink × Except Fault Unit :=
  let (result, closes) := pop (.ok ()) l.closes
  ({ l with closes }.record now .close, result)

/-- Let events happen. -/
def inject (l : ScriptedLink) (events : List (Except Fault LinkEvent)) : ScriptedLink :=
  { l with events := l.events ++ events }

/-- Pick up the next event. -/
def event? (l : ScriptedLink) : Option (ScriptedLink × Except Fault LinkEvent) :=
  match l.events with
  | [] => none
  | e :: events => some ({ l with events }, e)

/-- Hand out the recorded calls. -/
def takeCalls (l : ScriptedLink) : ScriptedLink × List (Nat × LinkCall) :=
  ({ l with calls := [] }, l.calls)

end ScriptedLink

end HubLink.Bench
