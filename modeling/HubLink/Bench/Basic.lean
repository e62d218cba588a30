import HubLink.Bench.Link
import HubLink.Client.Request
import HubLink.Connection.Channel
import HubLink.Connection.Step

/-! # The bench

A client on a scripted link and a clock that is moved by hand. Actions of the application are taken
one at a time; then everything that can happen at the current time happens, until only time can
bring something new. The worker and the requests take turns in the order in which they were roused.
The worker's turn lasts until nothing is left for it, so a request goes on only after the worker has
dealt with all that was there. A request that is pending holds the client. -/

namespace HubLink.Bench

/-- Who takes turns. -/
inductive Actor where
  /-- The worker. -/
  | worker
  /-- The request of a token. -/
  | request (token : Nat)
  deriving DecidableEq, Repr

/-- How far a request is. -/
inductive Stage where
  /-- It was made and has done nothing yet. -/
  | made
  /-- It waits for its answer. -/
  | waiting
  /-- It was answered. -/
  | answered (result : Except Fault Answer)
  /-- Nobody waits for its answer any more. -/
  | forgotten

/-- A request that is under way. -/
structure Pending where
  /-- The token under which it is answered. -/
  token : Nat
  /-- Its number, if it is reported by number. -/
  number : Option Nat
  /-- What is asked. -/
  request : Request
  /-- How far it is. -/
  stage : Stage
  /-- Whether it holds the client. -/
  holdsClient : Bool

/-- An answered request. -/
structure Finished where
  /-- The number of the request, if it is reported by number. -/
  number : Option Nat
  /-- What was asked. -/
  request : Request
  /-- The answer. -/
  result : Except Fault Answer
  /-- When it was answered. -/
  time : Nat

/-- The bench. -/
structure ClientBench where
  /-- The clock. -/
  now : Nat := 0
  /-- The worker. -/
  worker : Worker
  /-- What the handles share. -/
  client : Client
  /-- The link. -/
  link : ScriptedLink := {}
  /-- When the link ends what it is busy with. -/
  operation : Option Nat := none
  /-- Commands on the way to the worker. -/
  inbox : List Command := []
  /-- The handles, and whether each is still held. -/
  handles : List Bool := [true]
  /-- Number of requests so far. -/
  requests : Nat := 0
  /-- Number of tokens given out so far. -/
  tokens : Nat := 0
  /-- The ids of the messages that requests submitted, by the number of the request. -/
  submitted : List (Nat × Nat) := []
  /-- Requests that are under way. -/
  pending : List Pending := []
  /-- Who has a turn, in order. -/
  roused : List Actor := []
  /-- Answered requests that were not reported yet. -/
  finished : List Finished := []
  /-- The channel for events. -/
  channel : EventChannel
  /-- Whether someone reads the events. -/
  isRead : Bool := true
  /-- Whether someone took the reading end of the channel. -/
  isTaken : Bool := true
  /-- Whether the state has ever changed. -/
  hasChanged : Bool := false
  /-- What is said of a document that cannot be read, which depends on what it was read for. -/
  complaint : Reading → List UInt8 → String

namespace ClientBench

/-- A bench with a client that was just launched, whose event channel has a capacity. -/
def new (client : Client) (worker : Worker) (capacity : Nat) (isRead : Bool)
    (complaint : Reading → List UInt8 → String) : ClientBench where
  worker
  client
  complaint
  channel := { capacity }
  isRead
  isTaken := isRead

/-- Whether nobody is left to send a command. -/
def isAbandoned (b : ClientBench) : Bool :=
  b.inbox.isEmpty && !b.handles.contains true && !b.pending.any (·.holdsClient)

/-- Give a turn to someone who has none yet. -/
def rouse (b : ClientBench) (a : Actor) : ClientBench :=
  if a ∈ b.roused then b else { b with roused := b.roused ++ [a] }

/-- Put a command on the way to the worker. -/
def order (b : ClientBench) (c : Command) : ClientBench :=
  { b with inbox := b.inbox ++ [c] }.rouse .worker

/-- Let the worker notice it when nobody is left. -/
def noticeAbandoned (b : ClientBench) : ClientBench :=
  if b.isAbandoned then b.rouse .worker else b

/-! ## Requests -/

/-- The request of a token. -/
def pending? (b : ClientBench) (token : Nat) : Option Pending :=
  b.pending.find? (·.token = token)

/-- Take the request of a token to a stage. -/
def setStage (b : ClientBench) (token : Nat) (stage : Stage) : ClientBench :=
  { b with
    pending := b.pending.map fun p => if p.token = token then { p with stage } else p }

/-- Answer the request of a token. -/
def answer (b : ClientBench) (token : Nat) (result : Request → Except Fault Answer) :
    ClientBench :=
  match b.pending? token with
  | some { stage := .waiting, request, .. } =>
    (b.setStage token (.answered (result request))).rouse (.request token)
  | _ => b

/-- Answer a request that was done or not. -/
def reply (b : ClientBench) (token : Nat) (result : Except Fault Unit) : ClientBench :=
  b.answer token fun _ => result.map fun () => .done

/-- Answer a request with the end of a delivery. -/
def complete (b : ClientBench) (r : Resolution) : ClientBench :=
  b.answer r.completion fun request =>
    match request with
    | .deliver _ _ _ reading => r.result.bind (reading.answer (b.complaint reading))
    | _ => r.result.map .delivered

/-- The requests that wait for a change of state. -/
def watching (b : ClientBench) : List Nat :=
  (b.pending.filter fun p => match p.request with | .watch => true | _ => false).map (·.token)

/-- A request is over and lets go of the client. -/
def leave (b : ClientBench) (token : Nat) : ClientBench :=
  { b with pending := b.pending.filter (·.token ≠ token) }.noticeAbandoned

/-- A request is over with a result that is to be reported. -/
def finish (b : ClientBench) (p : Pending) (result : Except Fault Answer) : ClientBench :=
  let f : Finished := { number := p.number, request := p.request, result, time := b.now }
  { b with finished := b.finished ++ [f] }.leave p.token

/-- Send the command of a request. -/
def sendCommand (b : ClientBench) (token : Nat) (r : Request) : ClientBench × Option Nat :=
  let (client, command) := b.client.command b.now token r
  match command with
  | some (c, id) => ({ b with client }.order c, id)
  | none => ({ b with client }, none)

/-- A turn of a request: it sends its command, or it takes its answer. Who waits for a change of
state takes the state of the moment, if it has ever changed. -/
def requestTurn (b : ClientBench) (p : Pending) : ClientBench :=
  match p.stage, p.request with
  | .forgotten, _ => b.leave p.token
  | .answered result, _ => b.finish p result
  | .made, .watch | .waiting, .watch =>
    if b.hasChanged then b.finish p (.ok (.state b.worker.state))
    else b.setStage p.token .waiting
  | .made, request => ((b.setStage p.token .waiting).sendCommand p.token request).1
  | .waiting, _ => b

/-! ## Worker and link -/

/-- Do what the worker wants to be done. -/
def perform (b : ClientBench) : Effect → ClientBench
  | .connect =>
    { b with
      link := b.link.record b.now .connect
      operation := some (b.now + b.link.connectDelay) }
  | .send message =>
    { b with
      link := b.link.record b.now (.send message)
      operation := some (b.now + b.link.sendDelay) }
  | .settle request =>
    let (link, result) := b.link.settle b.now request.tag request.disposition
    { b with link }.reply request.reply result
  | .release =>
    let (link, _) := b.link.close b.now
    { b with link, operation := none }
  | .reply token result => b.reply token result
  | .complete r => b.complete r
  | .tell e =>
    let b := { b with channel := b.channel.push e }
    match e with
    | .status .. => b.watching.foldl (·.rouse <| .request ·) { b with hasChanged := true }
    | .notification _ => b

/-- Let the worker take an input. -/
def feed (b : ClientBench) (input : Input) : ClientBench :=
  let t := b.worker.step b.now input
  t.effects.foldl perform { b with worker := t.worker }

/-- The end of what the link is busy with. -/
def operationEnd (b : ClientBench) : ClientBench × Input :=
  match b.worker.busy with
  | some { job := .sending _, .. } =>
    let (link, result) := b.link.sent
    ({ b with link, operation := none }, .sent result)
  | _ =>
    let (link, result) := b.link.connected
    ({ b with link, operation := none }, .connected result)

/-- The next event for a worker that listens. -/
def event? (b : ClientBench) : Option (ClientBench × Input) :=
  if b.worker.isListening then
    b.link.event?.map fun (link, e) => ({ b with link }, .event e)
  else none

/-- What the clock brings to the worker. -/
def timer? (b : ClientBench) : Option Input :=
  if isDue (b.worker.busy.map (·.limit)) b.now then some .overtime
  else if isDue b.worker.nextWake b.now then some .timer
  else none

/-- What happens next to the worker at the current time. -/
def input? (b : ClientBench) : Option (ClientBench × Input) :=
  if b.worker.stopped then none
  else if isDue b.operation b.now then some b.operationEnd
  else
    match b.inbox with
    | c :: inbox => some ({ b with inbox }, .command c)
    | [] =>
      if b.isAbandoned then some (b, .abandoned)
      else b.event? <|> b.timer?.map (b, ·)

/-- A turn of the worker, in at most so many steps. -/
def workWithin : Nat → ClientBench → ClientBench
  | 0, b => b
  | steps + 1, b =>
    match b.input? with
    | some (b, input) => workWithin steps (b.feed input)
    | none => b

/-- More steps than anything takes. -/
def manySteps : Nat := 1000000000000000000

/-- A turn of someone. -/
def turn (b : ClientBench) : Actor → ClientBench
  | .worker => workWithin manySteps b
  | .request token =>
    match b.pending? token with
    | some p => b.requestTurn p
    | none => b

/-- Let everyone who was roused take turns, in at most so many of them. -/
def settleWithin : Nat → ClientBench → ClientBench
  | 0, b => b
  | turns + 1, b =>
    match b.roused with
    | [] => b
    | a :: roused => settleWithin turns ({ b with roused }.turn a)

/-- Let everything happen that can happen at the current time. -/
def settle (b : ClientBench) : ClientBench := b.settleWithin manySteps

/-- Move the clock to an instant and let everything happen that it brings. -/
def reach (b : ClientBench) (instant : Nat) : ClientBench :=
  ({ b with now := max b.now instant }.rouse .worker).settle

/-- When the clock brings something next. -/
def nextTime (b : ClientBench) : Option Nat :=
  if b.worker.stopped then none
  else earliest b.operation (earliest (b.worker.busy.map (·.limit)) b.worker.nextWake)

/-- Move the clock to an instant, stopping on the way at every time that brings something. -/
def advanceWithin (target : Nat) : Nat → ClientBench → ClientBench
  | 0, b => b
  | steps + 1, b =>
    match b.nextTime with
    | some t =>
      if t ≤ target then advanceWithin target steps (b.reach t)
      else { b with now := target }
    | none => { b with now := target }

/-- Move the clock on. -/
def advance (b : ClientBench) (time : Nat) : ClientBench := b.advanceWithin (b.now + time) manySteps

end ClientBench

end HubLink.Bench
