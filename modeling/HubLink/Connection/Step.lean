import HubLink.Connection.Worker

/-! # Steps of a worker

How a worker answers what happens to it. `Worker.step` takes one input at an instant and gives the
worker afterwards and the effects in their order. Every step ends with the link busy or with the
worker at rest; inputs that do not fit, such as the end of a connect that is not under way, change
nothing. -/

namespace HubLink

/-- A worker after doing something, and what it wants to be done. -/
structure Turn where
  /-- The worker. -/
  worker : Worker
  /-- What is to be done, in order. -/
  effects : List Effect := []

namespace Turn

/-- Go on with the worker of a turn. -/
def andThen (t : Turn) (f : Worker → Turn) : Turn :=
  let u := f t.worker
  { worker := u.worker, effects := t.effects ++ u.effects }

end Turn

namespace Worker

/-! ## Changes of state -/

/-- Move to a state, telling the application if it is a new one. -/
def enter (w : Worker) (state : ConnectionState) (reason : StatusReason) : Turn :=
  if w.state = state then { worker := w }
  else { worker := { w with state }, effects := [.tell (.status state reason)] }

/-- Let the tracker change, ending the operations that ended. -/
def track {α : Type} (w : Worker) (change : Change DeliveryTracker α) : Turn where
  worker := { w with tracker := change.state }
  effects := change.resolved.map .complete

/-- Answer everyone who waits for the connection to open. -/
def answerWaiters (w : Worker) (result : Except Fault Unit) : Turn where
  worker := { w with waiters := [] }
  effects := w.waiters.map (.reply · result)

/-- Close the link. -/
def release (w : Worker) : Turn where
  worker := w
  effects := [.release]

/-- Forget the queue and the times at which to connect again or to renew the token. -/
def forgetPlans (w : Worker) : Worker :=
  { w with reconnectAt := none, renewAt := none, queue := [] }

/-- Close the connection for a reason, ending everything under way with a fault. -/
def shut (w : Worker) (reason : StatusReason) (fault : Fault) : Turn :=
  ((w.enter .closed reason).andThen fun w => w.track (w.tracker.failAll fault)).andThen fun w =>
    w.answerWaiters (.error fault)

/-- Close the connection for the caller. -/
def close (w : Worker) : Turn :=
  let w := w.forgetPlans
  (if w.state = .closed then { worker := w } else w.release).andThen
    (·.shut .clientClose .cancelled)

/-- The reason given when a fault ends a connection. -/
def finalReason (fault : Fault) : StatusReason :=
  if fault.kind = .unauthorized then .badCredential
  else if fault.isTransient then .retryExpired
  else .communicationError

/-- Close the connection because of a fault. -/
def giveUp (w : Worker) (fault : Fault) : Turn :=
  w.forgetPlans.release.andThen (·.shut (finalReason fault) fault)

/-- Plan to connect again after a fault, or close the connection. -/
def planReconnect (w : Worker) (now : Nat) (fault : Fault) : Turn :=
  match w.terms.policy.decide fault.kind w.attempt with
  | .giveUp => w.giveUp fault
  | .retry after =>
    { worker :=
        { w with attempt := w.attempt + 1, reconnectAt := some (deadlineAfter now after) } }

/-- Connecting failed. -/
def connectFailed (w : Worker) (now : Nat) (fault : Fault) : Turn :=
  (w.release.andThen fun w =>
    if w.state = .opening ∧ fault.isTransient then w.enter .reconnecting .communicationError
    else { worker := w }).andThen (·.planReconnect now fault)

/-- The link was lost. -/
def linkLost (w : Worker) (now : Nat) (fault : Fault) : Turn :=
  if w.state = .open then
    (w.release.andThen fun w =>
      { w with renewAt := none, queue := [] }.enter .reconnecting .connectionLost).andThen
        (·.planReconnect now fault)
  else { worker := w }

/-- Connecting succeeded: everything under way is to be handed over again. -/
def connectionUp (w : Worker) (now : Nat) (reason : StatusReason) : Turn :=
  let w :=
    { w with
      attempt := 0, reconnectAt := none, renewAt := w.terms.renewal.map (deadlineAfter now) }
  ((w.enter .open reason).andThen (·.answerWaiters (.ok ()))).andThen fun w =>
    { worker := { w with queue := w.tracker.outstanding } }

/-! ## Tasks -/

/-- Settle an inbound message if the connection is open. -/
def settle (w : Worker) (request : SettleRequest) : Turn where
  worker := w
  effects :=
    if w.state = .open then [.settle request] else [.reply request.reply (.error .closed)]

/-- Let the link do a job, with something left to do afterwards. -/
def start (w : Worker) (now : Nat) (job : Job) (effect : Effect) (next : List Task) : Turn where
  worker := { w with busy := some { job, limit := now + w.terms.operationLimit, next } }
  effects := [effect]

/-- Start connecting. -/
def connect (w : Worker) (now : Nat) (reason : StatusReason) (next : List Task) : Turn :=
  w.start now (.connecting reason) .connect next

/-- Take the first queued id that is still under way off a queue, with its message. -/
def nextToSend (tracker : DeliveryTracker) (now : Nat) :
    List Nat → Option (Nat × Outbound × DeliveryTracker × List Nat)
  | [] => none
  | id :: queue =>
    match tracker.markSent id now with
    | (tracker, some message) => some (id, message, tracker, queue)
    | (tracker, none) => nextToSend tracker now queue

/-- Do what is left to do until the link is busy or nothing is left. -/
def run (now : Nat) : List Task → Worker → Turn
  | [], w => { worker := w }
  | .settle request :: next, w => (w.settle request).andThen (run now next)
  | .flush :: next, w =>
    if w.state = .open then
      match nextToSend w.tracker now w.queue with
      | some (id, message, tracker, queue) =>
        { w with tracker, queue }.start now (.sending id) (.send message) (.flush :: next)
      | none => run now next { w with queue := [] }
    else run now next w
  | .reconnect due :: next, w =>
    if w.state = .reconnecting ∧ isDue w.reconnectAt due then
      { w with reconnectAt := none }.connect now .connected next
    else run now next w
  | .renew due :: next, w =>
    if w.state = .open ∧ isDue w.renewAt due then
      (({ w with renewAt := none }.release).andThen (·.enter .reconnecting .tokenRenewal)).andThen
        (·.connect now .tokenRenewal next)
    else run now next w

/-! ## The link at work -/

/-- What is left to do when the link's work is over. -/
def afterwards (b : Busy) : List Task := b.deferred.map .settle ++ b.next

/-- Connecting ended. -/
def connectEnded (w : Worker) (now : Nat) (b : Busy) (reason : StatusReason)
    (result : Except Fault Unit) : Turn :=
  match result with
  | .ok () => (w.connectionUp now reason).andThen (run now (.flush :: afterwards b))
  | .error fault => (w.connectFailed now fault).andThen (run now (afterwards b))

/-- Handing over the message of an id ended. -/
def sendEnded (w : Worker) (now : Nat) (b : Busy) (id : Nat)
    (result : Except Fault SendOutcome) : Turn :=
  let t : Turn :=
    match result with
    | .ok (.acknowledged response) => w.track (w.tracker.acknowledge id response)
    | .ok .awaiting => { worker := w }
    | .error fault =>
      (w.track (w.tracker.sendFailed w.terms.policy id fault now)).andThen fun w =>
        if fault.breaksLink then w.linkLost now fault else { worker := w }
  t.andThen (run now (afterwards b))

/-- The link's work is abandoned because the connection is closed. -/
def interrupted (w : Worker) (now : Nat) (b : Busy) (reply : Option Nat) : Turn :=
  (w.close.andThen fun w =>
    match reply with
    | some reply => { worker := w, effects := [.reply reply (.ok ())] }
    | none => { worker := { w with stopped := true } }).andThen (run now (afterwards b))

/-- Take a command while the link is busy. -/
def commandWhileBusy (w : Worker) (now : Nat) (b : Busy) : Command → Turn
  | .open reply =>
    match b.job with
    | .sending _ => { worker := w, effects := [.reply reply (.ok ())] }
    | .connecting _ => { worker := { w with waiters := w.waiters ++ [reply] } }
  | .close reply => { w with busy := none }.interrupted now b (some reply)
  | .submit message completion deadline =>
    let change := w.tracker.submit message completion deadline
    (w.track change).andThen fun w =>
      match change.value, b.job with
      | .ok (), .sending _ => { worker := { w with queue := w.queue ++ [message.id] } }
      | _, _ => { worker := w }
  | .cancel id => w.track (w.tracker.cancel id)
  | .settle request =>
    { worker := { w with busy := some { b with deferred := b.deferred ++ [request] } } }

/-- Take an input while the link is busy. -/
def stepBusy (w : Worker) (now : Nat) (b : Busy) : Input → Turn
  | .command c => w.commandWhileBusy now b c
  | .abandoned => { w with busy := none }.interrupted now b none
  | .timer => w.track (w.tracker.expire now)
  | .connected result =>
    match b.job with
    | .connecting reason => { w with busy := none }.connectEnded now b reason result
    | .sending _ => { worker := w }
  | .sent result =>
    match b.job with
    | .sending id => { w with busy := none }.sendEnded now b id result
    | .connecting _ => { worker := w }
  | .overtime =>
    match b.job with
    | .connecting reason =>
      { w with busy := none }.connectEnded now b reason (.error .slowLink)
    | .sending id => { w with busy := none }.sendEnded now b id (.error .slowLink)
  | .event _ => { worker := w }

/-! ## The link at rest -/

/-- Queue an id unless it is queued. -/
def enqueue (w : Worker) (id : Nat) : Worker :=
  if id ∈ w.queue then w else { w with queue := w.queue ++ [id] }

/-- Take a command. -/
def commandAtRest (w : Worker) (now : Nat) : Command → Turn
  | .open reply =>
    match w.state with
    | .open => { worker := w, effects := [.reply reply (.ok ())] }
    | .opening | .reconnecting => { worker := { w with waiters := w.waiters ++ [reply] } }
    | .closed =>
      match w.terms.identity.validate with
      | .error fault => { worker := w, effects := [.reply reply (.error fault)] }
      | .ok () =>
        let w := { w with waiters := w.waiters ++ [reply], attempt := 0 }
        (w.enter .opening .clientOpen).andThen (·.connect now .connected [])
  | .close reply =>
    w.close.andThen fun w => { worker := w, effects := [.reply reply (.ok ())] }
  | .submit message completion deadline =>
    if w.state = .closed then
      { worker := w, effects := [.complete ⟨completion, .error .closed⟩] }
    else
      let change := w.tracker.submit message completion deadline
      (w.track change).andThen fun w =>
        match change.value with
        | .ok () =>
          if w.state = .open then run now [.flush] (w.enqueue message.id) else { worker := w }
        | .error _ => { worker := w }
  | .cancel id => w.track (w.tracker.cancel id)
  | .settle request => w.settle request

/-- Take an event of the link. -/
def eventAtRest (w : Worker) (now : Nat) : Except Fault LinkEvent → Turn
  | .ok (.acknowledged id response) => w.track (w.tracker.acknowledge id response)
  | .ok (.rejected id fault) => w.track (w.tracker.sendFailed w.terms.policy id fault now)
  | .ok (.notification n) => { worker := w, effects := [.tell (.notification n)] }
  | .ok (.disconnected fault) | .error fault => w.linkLost now fault

/-- Treat the message of an id as failed because its confirmation is missing: queue it or let it
fail for good. -/
def resend (w : Worker) (now : Nat) (id : Nat) : Turn :=
  let change := w.tracker.sendFailed w.terms.policy id .missingAcknowledgement now
  (w.track change).andThen fun w =>
    { worker := if change.value = some .sent then w.enqueue id else w }

/-- Treat the messages of ids as failed, one after the other. -/
def resendAll (now : Nat) : List Nat → Worker → Turn
  | [], w => { worker := w }
  | id :: ids, w => (w.resend now id).andThen (resendAll now ids)

/-- Do what is due: time out messages, send overdue ones again, connect again, renew the token. -/
def wake (w : Worker) (now : Nat) : Turn :=
  ((w.track (w.tracker.expire now)).andThen fun w =>
    if w.state = .open then
      resendAll now (w.tracker.dueForResend now w.terms.ackTimeout) w
    else { worker := w }).andThen (run now [.flush, .reconnect now, .renew now])

/-- Take an input while the link is not busy. -/
def stepAtRest (w : Worker) (now : Nat) : Input → Turn
  | .command c => w.commandAtRest now c
  | .abandoned => w.close.andThen fun w => { worker := { w with stopped := true } }
  | .timer => w.wake now
  | .event e => if w.state = .open then w.eventAtRest now e else { worker := w }
  | .connected _ | .sent _ | .overtime => { worker := w }

/-- Take an input at an instant. -/
def step (w : Worker) (now : Nat) (input : Input) : Turn :=
  if w.stopped then { worker := w }
  else
    match w.busy with
    | some b => w.stepBusy now b input
    | none => w.stepAtRest now input

end Worker

end HubLink
