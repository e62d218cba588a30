import HubLink.Correlation.Registry
import HubLink.Retry.Policy

/-! # Delivery tracker

The messages that are on their way to the hub, by correlation id, beside the registry of those who
wait for them. Ids grow with submission, so walking the messages goes in the order of submission.
A message is kept until the hub confirms it, it fails for good, its deadline passes or it is
cancelled; delivery is at least once, since one whose confirmation was lost is sent again. -/

namespace HubLink

/-- A message on its way. -/
structure Tracked where
  /-- The message. -/
  message : Outbound
  /-- When it was last handed to a link. -/
  sentAt : Option Nat := none
  /-- When to send it again after a failure. -/
  retryAt : Option Nat := none
  deriving DecidableEq

namespace Tracked

/-- When to send the message again: at the time set by a failure, else when its confirmation is
overdue. One that was not sent yet is not sent again. -/
def resendAt (t : Tracked) (ackTimeout : Nat) : Option Nat :=
  if t.message.state = .sent then
    t.retryAt <|> t.sentAt.map (deadlineAfter · ackTimeout)
  else none

/-- The message when it is handed to a link. -/
def handOver (t : Tracked) (now : Nat) : Tracked where
  message := t.message.handOver
  sentAt := some now

end Tracked

/-- The messages on their way and those who wait for them. -/
structure DeliveryTracker where
  /-- The messages. -/
  messages : SortedMap Nat Tracked := .empty
  /-- Those who wait. -/
  registry : CorrelationRegistry := .empty

namespace DeliveryTracker

/-- The tracker without messages. -/
def empty : DeliveryTracker := {}

/-- The ids of the messages, in the order of submission. -/
def outstanding (t : DeliveryTracker) : List Nat := t.messages.keys

/-- Number of messages. -/
def size (t : DeliveryTracker) : Nat := t.messages.size

/-- Whether there is no message. -/
def isEmpty (t : DeliveryTracker) : Bool := t.messages.isEmpty

/-- How far the message of an id has come. -/
def state? (t : DeliveryTracker) (id : Nat) : Option DeliveryState :=
  (t.messages.get? id).map (·.message.state)

/-- The earliest deadline. -/
def nextDeadline (t : DeliveryTracker) : Option Nat := t.registry.nextDeadline

/-- The messages to be sent again by now. -/
def dueForResend (t : DeliveryTracker) (now ackTimeout : Nat) : List Nat :=
  (t.messages.filter fun _ m => isDue (m.resendAt ackTimeout) now).keys

/-- When the first message is to be sent again. -/
def nextResend (t : DeliveryTracker) (ackTimeout : Nat) : Option Nat :=
  earliestOf (t.messages.values.filterMap (·.resendAt ackTimeout))

/-- Take on a message whose completion is resolved by its deadline at the latest. -/
def submit (t : DeliveryTracker) (message : Outbound) (completion deadline : Nat) :
    Change DeliveryTracker (Except Fault Unit) :=
  let change := t.registry.register message.id completion deadline
  { state :=
      { registry := change.state
        messages :=
          match change.value with
          | .ok () => t.messages.insert message.id { message }
          | .error _ => t.messages }
    value := change.value
    resolved := change.resolved }

/-- Note that a message is handed to a link; gives the message to hand over. -/
def markSent (t : DeliveryTracker) (id now : Nat) : DeliveryTracker × Option Outbound :=
  match t.messages.get? id with
  | some m =>
    let m := m.handOver now
    ({ t with messages := t.messages.insert id m }, some m.message)
  | none => (t, none)

/-- End the message of an id; tells whether there was one. -/
def finish (t : DeliveryTracker) (id : Nat) (outcome : Except Fault (Option Response)) :
    Change DeliveryTracker Bool :=
  match t.messages.get? id with
  | some _ =>
    let change := t.registry.resolve id outcome
    { state := { messages := t.messages.erase id, registry := change.state }
      value := change.value
      resolved := change.resolved }
  | none => { state := t, value := false }

/-- The hub confirmed a message. -/
def acknowledge (t : DeliveryTracker) (id : Nat) (response : Option Response) :
    Change DeliveryTracker Bool :=
  t.finish id (.ok response)

/-- A message failed for good. -/
def fail (t : DeliveryTracker) (id : Nat) (fault : Fault) : Change DeliveryTracker Bool :=
  t.finish id (.error fault)

/-- The caller gave a message up. -/
def cancel (t : DeliveryTracker) (id : Nat) : Change DeliveryTracker Bool := t.fail id .cancelled

/-- Sending a message failed. It stays, to be sent again when the policy says so, or fails for
good; tells which. -/
def sendFailed (t : DeliveryTracker) (policy : RetryPolicy) (id : Nat) (fault : Fault)
    (now : Nat) : Change DeliveryTracker (Option DeliveryState) :=
  match t.messages.get? id with
  | some m =>
    match policy.decide fault.kind m.message.retryCount with
    | .giveUp =>
      let change := t.fail id fault
      { state := change.state, value := some .failed, resolved := change.resolved }
    | .retry after =>
      let m := { m with retryAt := some (deadlineAfter now after) }
      { state := { t with messages := t.messages.insert id m }, value := some .sent }
  | none => { state := t, value := none }

/-- End the messages whose deadline has passed; tells their ids. -/
def expire (t : DeliveryTracker) (now : Nat) : Change DeliveryTracker (List Nat) :=
  let change := t.registry.sweep now
  { state :=
      { messages := t.messages.filter fun id _ => !change.value.contains id
        registry := change.state }
    value := change.value
    resolved := change.resolved }

/-- End all messages with a fault; tells how many waited. -/
def failAll (t : DeliveryTracker) (fault : Fault) : Change DeliveryTracker Nat :=
  let change := t.registry.drain fault
  { state := { registry := change.state }, value := change.value, resolved := change.resolved }

end DeliveryTracker

end HubLink
