import HubLink.Connection.Identity
import HubLink.Delivery.Tracker
import HubLink.Options.Basic

/-! # Connection workers

A worker keeps one link of a device to its hub and everything that is under way on it. It is told
what happens, one thing after another, and answers with what is to be done: calls to the link, ends
of operations, answers to requests and news for the application. While the link is connecting or
sending, the worker goes on taking commands, and what it was about to do afterwards is kept as a
list of tasks. -/

namespace HubLink

/-- Where a connection stands. -/
inductive ConnectionState where
  /-- Not connected and not trying to be. -/
  | closed
  /-- Connecting for the first time. -/
  | opening
  /-- Connected. -/
  | open
  /-- Waiting for another attempt to connect, or making one. -/
  | reconnecting
  deriving DecidableEq, Repr

/-- Why a connection changed its state. -/
inductive StatusReason where
  /-- Connecting succeeded. -/
  | connected
  /-- The link was lost. -/
  | connectionLost
  /-- It was tried often enough. -/
  | retryExpired
  /-- The hub refused the credentials. -/
  | badCredential
  /-- A failure that trying again does not cure, or the first failure to connect. -/
  | communicationError
  /-- The caller opened the connection. -/
  | clientOpen
  /-- The caller closed the connection. -/
  | clientClose
  /-- A fresh token is to be presented. -/
  | tokenRenewal
  deriving DecidableEq, Repr

/-- News for the application. -/
inductive ClientEvent where
  /-- The connection changed its state. -/
  | status (state : ConnectionState) (reason : StatusReason)
  /-- The hub pushed a message. -/
  | notification (n : Notification)
  deriving DecidableEq

/-- A request to settle an inbound message. -/
structure SettleRequest where
  /-- The message. -/
  tag : DeliveryTag
  /-- How to settle it. -/
  disposition : Disposition
  /-- Who waits for the answer. -/
  reply : Nat
  deriving DecidableEq, Repr

/-- What a worker is asked to do. -/
inductive Command where
  /-- Connect. -/
  | open (reply : Nat)
  /-- Disconnect. -/
  | close (reply : Nat)
  /-- Deliver a message by a deadline. -/
  | submit (message : Outbound) (completion deadline : Nat)
  /-- Give a message up. -/
  | cancel (id : Nat)
  /-- Settle an inbound message. -/
  | settle (request : SettleRequest)
  deriving DecidableEq

/-- What happens to a worker. -/
inductive Input where
  /-- A command arrives. -/
  | command (c : Command)
  /-- Nobody is left who could send a command. -/
  | abandoned
  /-- The link reports an event, or that it is unusable. -/
  | event (e : Except Fault LinkEvent)
  /-- The time at which the worker wants to be woken is reached. -/
  | timer
  /-- Connecting ended. -/
  | connected (result : Except Fault Unit)
  /-- Handing over a message ended. -/
  | sent (result : Except Fault SendOutcome)
  /-- Connecting or handing over has taken as long as it may. -/
  | overtime

/-- What a worker wants to be done. -/
inductive Effect where
  /-- Start connecting the link. -/
  | connect
  /-- Start handing a message to the link. -/
  | send (message : Outbound)
  /-- Settle an inbound message over the link and answer with the result. -/
  | settle (request : SettleRequest)
  /-- Close the link, abandoning what it is doing. -/
  | release
  /-- Answer a request. -/
  | reply (token : Nat) (result : Except Fault Unit)
  /-- End an operation. -/
  | complete (r : Resolution)
  /-- Tell the application. -/
  | tell (e : ClientEvent)

/-- Something left to do. -/
inductive Task where
  /-- Hand the queued messages to the link. -/
  | flush
  /-- Settle an inbound message. -/
  | settle (request : SettleRequest)
  /-- Connect again if that was due at an instant. -/
  | reconnect (due : Nat)
  /-- Renew the token if that was due at an instant. -/
  | renew (due : Nat)
  deriving DecidableEq

/-- What the link is busy with. -/
inductive Job where
  /-- Connecting; success is reported with the reason. -/
  | connecting (reason : StatusReason)
  /-- Handing over the message of an id. -/
  | sending (id : Nat)
  deriving DecidableEq, Repr

/-- The state of a worker whose link is busy. -/
structure Busy where
  /-- What the link does. -/
  job : Job
  /-- When it has taken too long. -/
  limit : Nat
  /-- Requests to settle that came meanwhile. -/
  deferred : List SettleRequest := []
  /-- What is left to do afterwards. -/
  next : List Task
  deriving DecidableEq

/-- What does not change about a worker. -/
structure Terms where
  /-- Whom it connects. -/
  identity : Identity
  /-- How long connecting or handing over may take. -/
  operationLimit : Nat
  /-- How long a message may stay unconfirmed. -/
  ackTimeout : Nat
  /-- How long after connecting the token is renewed, if it can be. -/
  renewal : Option Nat
  /-- When to try again. -/
  policy : RetryPolicy

/-- The terms of a client with these options. -/
def Terms.ofOptions (identity : Identity) (o : ClientOptions) (renewable : Bool) : Terms where
  identity
  operationLimit := o.connectTime
  ackTimeout := o.ackTime
  renewal := if renewable then some o.renewalTime else none
  policy := .ofOptions o.retry

/-- A worker. -/
structure Worker where
  /-- What does not change. -/
  terms : Terms
  /-- Where the connection stands. -/
  state : ConnectionState := .closed
  /-- How many attempts to connect have failed in a row. A policy that gives up at an attempt of 32
  bits keeps the count within them; under any other it leaves them after `2 ^ 32` failures in a row,
  which is not followed here. -/
  attempt : Nat := 0
  /-- The messages on their way. -/
  tracker : DeliveryTracker := .empty
  /-- Who waits for the connection to open. -/
  waiters : List Nat := []
  /-- Ids of the messages to be handed over, in order. -/
  queue : List Nat := []
  /-- When to connect again. -/
  reconnectAt : Option Nat := none
  /-- When to renew the token. -/
  renewAt : Option Nat := none
  /-- What the link is busy with. -/
  busy : Option Busy := none
  /-- Whether the work is over. -/
  stopped : Bool := false

namespace Worker

/-- A worker that has done nothing yet. -/
def new (terms : Terms) : Worker := { terms }

/-- When a worker whose link is not busy wants to be woken. -/
def restWake (w : Worker) : Option Nat :=
  match w.state with
  | .open =>
    earliest w.tracker.nextDeadline
      (earliest (w.tracker.nextResend w.terms.ackTimeout) w.renewAt)
  | .reconnecting => earliest w.tracker.nextDeadline w.reconnectAt
  | .closed | .opening => w.tracker.nextDeadline

/-- When a worker wants to be woken. While the link is busy only deadlines count. -/
def nextWake (w : Worker) : Option Nat :=
  match w.busy with
  | some _ => w.tracker.nextDeadline
  | none => w.restWake

/-- Whether a worker listens to its link. -/
def isListening (w : Worker) : Bool := w.state = .open && w.busy.isNone && !w.stopped

end Worker

end HubLink
