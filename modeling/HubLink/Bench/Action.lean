import HubLink.Bench.Basic

/-! # Actions on the bench

What the application and the one who holds the clock may do, and what is reported after each
action. Actions of one batch are taken without anything happening between them. -/

namespace HubLink.Bench

/-- Something done through a handle. -/
inductive Deed where
  /-- Make a request. One that is not made in the background reports its id. -/
  | request (r : Request) (inBackground : Bool)
  /-- Deliver telemetry and wait for the end. -/
  | deliverNow (message : Message)
  /-- Give a message up. -/
  | cancel (id : Nat)
  /-- Give the message of a request up. -/
  | cancelRequest (number : Nat)
  /-- Stop waiting for the answer to a request. -/
  | forget (number : Nat)
  /-- Copy the handle. -/
  | clone
  /-- Drop the handle. -/
  | drop
  /-- Take the reading end of the channel for events, and let go of it. -/
  | takeEvents
  /-- Give up reading the events. -/
  | dropEvents

/-- Something done to the bench. -/
inductive Action where
  /-- Set what the link does. -/
  | script (s : Script)
  /-- Let the link report events. -/
  | inject (events : List (Except Fault LinkEvent))
  /-- Move the clock on. -/
  | advance (time : Nat)
  /-- Do something through a handle. -/
  | through (handle : Nat) (d : Deed)
  /-- Do several things at once. -/
  | batch (actions : List Action)

/-- What the one who acts is told. -/
inductive Told where
  /-- Nothing. -/
  | nothing
  /-- Nothing, and nothing is reported of it in a batch. -/
  | silence
  /-- The handle is gone. -/
  | noClient
  /-- The number of a request and the id of its message. -/
  | request (number : Nat) (id : Option Nat)
  /-- The number of a handle. -/
  | handle (n : Nat)
  /-- Whether it succeeded. -/
  | flag (b : Bool)
  /-- The answer to a request. -/
  | result (r : Except Fault Answer)
  /-- What was told of the actions of a batch. -/
  | list (items : List Told)

namespace ClientBench

/-- Whether a handle is held. -/
def isHeld (b : ClientBench) (handle : Nat) : Bool := b.handles[handle]?.getD false

/-- Make a request. Deliveries that are not made in the background are under way at once; all other
requests hold the client until they are answered. -/
def ask (b : ClientBench) (number : Option Nat) (r : Request) (inBackground : Bool) :
    ClientBench × Option Nat :=
  let token := b.tokens
  let p : Pending := {
    token, number, request := r
    stage := if inBackground then .made else .waiting
    holdsClient := inBackground }
  let b := { b with tokens := token + 1, pending := b.pending ++ [p] }
  if inBackground then (b.rouse (.request token), none) else b.sendCommand token r

/-- Deliver a message and wait for the end of it. -/
def deliverNow (b : ClientBench) (message : Message) : ClientBench × Told :=
  let (b, _) := b.ask none (.telemetry message) false
  let b := b.settle
  let (mine, others) := b.finished.partition (·.number.isNone)
  ({ b with finished := others },
    match mine with
    | f :: _ => .result f.result
    | [] => .nothing)

/-- Stop waiting for the answer to a request. It lets go of the client at its next turn. -/
def forget (b : ClientBench) (number : Nat) : ClientBench :=
  match b.pending.find? fun p => p.number = some number with
  | some p => (b.setStage p.token .forgotten).rouse (.request p.token)
  | none => b

/-- Do something through a handle that is held. -/
def deed (b : ClientBench) (handle : Nat) : Deed → ClientBench × Told
  | .request r inBackground =>
    let number := b.requests
    let (b, id) := { b with requests := number + 1 }.ask (some number) r inBackground
    ({ b with submitted := b.submitted ++ (id.map (number, ·)).toList }, .request number id)
  | .deliverNow message => b.deliverNow message
  | .cancel id => (b.order (.cancel id), .nothing)
  | .cancelRequest number =>
    match b.submitted.find? fun e => e.1 = number with
    | some (_, id) => (b.order (.cancel id), .nothing)
    | none => (b, .nothing)
  | .forget number => (b.forget number, .nothing)
  | .clone => ({ b with handles := b.handles ++ [true] }, .handle b.handles.length)
  | .drop => ({ b with handles := b.handles.set handle false }.noticeAbandoned, .nothing)
  | .takeEvents =>
    if b.isTaken then (b, .flag false)
    else ({ b with isTaken := true, channel := b.channel.shut }, .flag true)
  | .dropEvents => (if b.isRead then { b with channel := b.channel.shut } else b, .nothing)

/-- Let the link report events; a worker that listens is roused by them. -/
def inject (b : ClientBench) (events : List (Except Fault LinkEvent)) : ClientBench :=
  let b := { b with link := b.link.inject events }
  if b.worker.isListening then b.rouse .worker else b

/-- Take an action, without anything happening afterwards unless time passes. -/
def act (b : ClientBench) : Action → ClientBench × Told
  | .script s => ({ b with link := b.link.follow s }, .silence)
  | .inject events => (b.inject events, .silence)
  | .advance time => (b.advance time, .nothing)
  | .through handle d => if b.isHeld handle then b.deed handle d else (b, .noClient)
  | .batch actions =>
    let (b, told) := actAll b actions
    (b, .list told)
where
  /-- Take actions one after the other, and collect what is told of them. -/
  actAll (b : ClientBench) : List Action → ClientBench × List Told
    | [] => (b, [])
    | a :: rest =>
      let (b, told) := act b a
      let (b, more) := actAll b rest
      match told with
      | .silence => (b, more)
      | told => (b, told :: more)

/-- Take an action and let everything happen that follows at the current time. -/
def take (b : ClientBench) (a : Action) : ClientBench × Told :=
  let (b, told) := b.act a
  (b.settle, told)

/-! ## Reports -/

/-- What is seen of the bench after an action. -/
structure Report where
  /-- The clock. -/
  now : Nat
  /-- The state, if a handle is held to look at it. -/
  state : Option ConnectionState
  /-- Events read since the last report. -/
  events : List ClientEvent
  /-- Requests answered since the last report, by number. -/
  finished : List Finished
  /-- Calls to the link since the last report. -/
  calls : List (Nat × LinkCall)

/-- Report on the bench, reading the events unless they are to be left. -/
def report (b : ClientBench) (leaveEvents : Bool) : ClientBench × Report :=
  let (channel, events) :=
    if leaveEvents || !b.isRead then (b.channel, []) else b.channel.drain
  let (link, calls) := b.link.takeCalls
  ({ b with channel, link, finished := [] },
    { now := b.now
      state := if b.handles.contains true then some b.worker.state else none
      events, calls
      finished := b.finished.mergeSort fun f g => f.number.getD 0 ≤ g.number.getD 0 })

end ClientBench

end HubLink.Bench
