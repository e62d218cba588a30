import HubLink.Bench.Action
import HubLink.Client.Build

/-! # Waiting on the bench

A client whose hub cannot be reached, driven by someone who waits a while for every answer and
every event before going on. While one waits the clock runs through everything that happens; when
it is set forward instead, what was due on the way happens at the end. -/

namespace HubLink.Bench

/-- How long one waits. -/
def patience : Nat := Duration.ofSeconds 2

namespace ClientBench

/-- A bench with a client whose hub cannot be reached for a reason. -/
def unreachable (plan : ClientPlan) (client : Client) (worker : Worker) (fault : Fault)
    (complaint : Reading → List UInt8 → String) : ClientBench where
  worker
  client
  complaint
  link := { reach := plan.unreached 0 fault }
  channel := { capacity := plan.options.eventCapacity }

/-- Let time pass until an instant or until something is reached, in at most so many steps. -/
def waitWithin (goal : ClientBench → Bool) (target : Nat) : Nat → ClientBench → ClientBench
  | 0, b => b
  | steps + 1, b =>
    if goal b then b
    else
      match b.nextTime with
      | some t =>
        if t ≤ target then waitWithin goal target steps (b.reach t)
        else { b with now := target }
      | none => { b with now := target }

/-- Wait until something is reached, as long as patience lasts. -/
def waitFor (b : ClientBench) (goal : ClientBench → Bool) : ClientBench :=
  b.settle.waitWithin goal (b.now + patience) manySteps

/-- Set the clock forward. -/
def jump (b : ClientBench) (time : Nat) : ClientBench := b.reach (b.now + time)

/-- Make a request and wait for its answer. -/
def askAndWait (b : ClientBench) (r : Request) : ClientBench × Option (Except Fault Answer) :=
  let token := b.tokens
  let (b, _) := b.ask none r true
  let b := b.waitFor fun b => b.finished.any (·.number.isNone)
  let (mine, others) := b.finished.partition (·.number.isNone)
  ({ b with finished := others, pending := b.pending.filter (·.token ≠ token) },
    mine.head?.map (·.result))

/-- Submit a message; gives its id. -/
def submit (b : ClientBench) (kind : MessageKind) (message : Message) : ClientBench × Option Nat :=
  let number := b.requests
  let request := Request.deliver kind message none .delivered
  let (b, id) := { b with requests := number + 1 }.ask (some number) request false
  (b.settle, id)

/-- Wait for the end of a submitted message. -/
def awaitDelivery (b : ClientBench) (number : Nat) : ClientBench × Option (Except Fault Answer) :=
  let b := b.waitFor fun b => b.finished.any (·.number = some number)
  (b, (b.finished.find? (·.number = some number)).map (·.result))

/-- Read the next event, waiting for it. -/
def nextEvent (b : ClientBench) : ClientBench × Option ClientEvent :=
  let b := if b.channel.waiting.isEmpty then b.waitFor fun b => !b.channel.waiting.isEmpty else b
  match b.channel.waiting with
  | e :: waiting => ({ b with channel := { b.channel with waiting } }, some e)
  | [] => (b, none)

/-- Read so many events, stopping at the first that does not come. -/
def nextEvents (b : ClientBench) : Nat → ClientBench × List ClientEvent
  | 0 => (b, [])
  | count + 1 =>
    match b.nextEvent with
    | (b, some e) =>
      let (b, more) := nextEvents b count
      (b, e :: more)
    | (b, none) => (b, [])

/-- How often the link started connecting since that was last counted. -/
def countConnects (b : ClientBench) : ClientBench × Nat :=
  let (link, calls) := b.link.takeCalls
  ({ b with link }, (calls.filter fun c => c.2 = .connect).length)

end ClientBench

end HubLink.Bench
