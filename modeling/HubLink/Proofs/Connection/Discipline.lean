import HubLink.Proofs.Connection.Runs

/-! # The discipline of a link

In which order a worker calls its link. It connects the link only while it is down, uses and listens
to it only while it is up, and closes it before any other call when the link fails at its work or is
abandoned with it (`Worker.disciplined_of_run`). Which calls are allowed is a condition on the moves
of a course; that closing comes first is read off the turn that answers the failure. -/

namespace HubLink

/-- Whether an effect is a call of the link. -/
def Effect.isCall : Effect → Bool
  | .connect | .send _ | .settle _ | .release => true
  | .reply .. | .complete _ | .tell _ => false

/-- Whether an input leaves a link unusable at its work: the link failed to connect, took too long,
failed to take a message in a way that breaks it, or is abandoned at work. -/
def Worker.isBrokenBy (w : Worker) : Input → Bool
  | .connected (.error _) | .overtime => true
  | .sent (.error fault) => fault.breaksLink
  | .command (.close _) | .abandoned => w.busy.isSome
  | _ => false

/-- The effects that a history begins with, up to the next input. -/
def History.answers : List Occurrence → List Effect
  | .did e :: h => e :: answers h
  | _ => []

namespace History

/-- The effects of a step are answered up to the next step. -/
theorem answers_did_append (es : List Effect) (h : List Occurrence) :
    answers (es.map .did ++ h) = es ++ answers h := by
  induction es with
  | nil => rfl
  | cons e es ih => exact congrArg (e :: ·) ih

/-- What is seen of inputs begins with one of them. -/
theorem answers_history (w : Worker) (inputs : List (Nat × Input)) :
    answers (w.history inputs) = [] := by
  induction inputs generalizing w with
  | nil => rfl
  | cons i inputs ih =>
    obtain ⟨now, input⟩ := i
    rw [Worker.history, Worker.seen]
    split
    · rfl
    · exact ih _

end History

/-! ## The first call of a turn -/

namespace Turn

/-- The first call of the link. -/
def firstCall (t : Turn) : Option Effect := t.effects.find? (·.isCall)

@[simp] theorem firstCall_andThen (t : Turn) (f : Worker → Turn) :
    (t.andThen f).firstCall = t.firstCall.or (f t.worker).firstCall := by
  rw [firstCall, andThen_effects, List.find?_append]
  rfl

end Turn

namespace Worker

variable {h : List Occurrence} {w : Worker}

theorem firstCall_release (w : Worker) : w.release.firstCall = some .release := rfl

theorem firstCall_enter (w : Worker) (state : ConnectionState) (reason : StatusReason) :
    (w.enter state reason).firstCall = none := by
  unfold enter
  split <;> rfl

theorem firstCall_track {α : Type} (w : Worker) (change : Change DeliveryTracker α) :
    (w.track change).firstCall = none := by
  simp [track, Turn.firstCall, Effect.isCall]

theorem firstCall_answerWaiters (w : Worker) (result : Except Fault Unit) :
    (w.answerWaiters result).firstCall = none := by
  simp [answerWaiters, Turn.firstCall, Effect.isCall]

theorem firstCall_shut (w : Worker) (reason : StatusReason) (fault : Fault) :
    (w.shut reason fault).firstCall = none := by
  rw [shut, Turn.firstCall_andThen, Turn.firstCall_andThen, firstCall_enter, firstCall_track,
    firstCall_answerWaiters]
  rfl

/-- Closing a connection calls the link unless the connection is closed. -/
theorem firstCall_close (w : Worker) :
    w.close.firstCall = if w.state = .closed then none else some .release := by
  rw [close, Turn.firstCall_andThen, firstCall_shut]
  by_cases hclosed : w.state = .closed
  · simp only [forgetPlans, hclosed, ↓reduceIte]
    rfl
  · simp only [forgetPlans, hclosed, ↓reduceIte]
    rfl

theorem firstCall_connectFailed (w : Worker) (now : Nat) (fault : Fault) :
    (w.connectFailed now fault).firstCall = some .release := by
  rw [connectFailed, Turn.firstCall_andThen, Turn.firstCall_andThen, firstCall_release]
  rfl

theorem firstCall_linkLost (hopen : w.state = .open) (now : Nat) (fault : Fault) :
    (w.linkLost now fault).firstCall = some .release := by
  rw [linkLost, if_pos hopen, Turn.firstCall_andThen, Turn.firstCall_andThen, firstCall_release]
  rfl

theorem firstCall_interrupted (hopen : w.state ≠ .closed) (now : Nat) (b : Busy)
    (reply : Option Nat) : (w.interrupted now b reply).firstCall = some .release := by
  rw [interrupted, Turn.firstCall_andThen, Turn.firstCall_andThen, firstCall_close, if_neg hopen]
  rfl

/-- A send that breaks the link. -/
theorem firstCall_sendEnded (hopen : w.state = .open) (now : Nat) (b : Busy) (id : Nat)
    {fault : Fault} (hbreaks : fault.breaksLink) :
    (w.sendEnded now b id (.error fault)).firstCall = some .release := by
  simp only [sendEnded, hbreaks, ↓reduceIte]
  rw [Turn.firstCall_andThen, Turn.firstCall_andThen, firstCall_track,
    firstCall_linkLost (by exact hopen)]
  rfl

/-- A connect that fails. -/
theorem firstCall_connectEnded (w : Worker) (now : Nat) (b : Busy) (reason : StatusReason)
    (fault : Fault) : (w.connectEnded now b reason (.error fault)).firstCall = some .release := by
  rw [connectEnded, Turn.firstCall_andThen, firstCall_connectFailed]
  rfl

/-- A link that breaks while it connects is closed before any other call. -/
theorem firstCall_stepBusy_of_dialing {up : Bool} (s : w.Dialing up) {b : Busy}
    {reason : StatusReason} (busy : w.busy = some b) (job : b.job = .connecting reason) {now : Nat}
    {input : Input} (takes : w.takes input) (hbroken : w.isBrokenBy input) :
    (w.stepBusy now b input).firstCall = some .release := by
  have hopen : w.state ≠ .closed := by
    obtain hstate | hstate := s.state <;> simp [hstate]
  cases input with
  | command c =>
    cases c with
    | close reply =>
      exact firstCall_interrupted (w := { w with busy := none }) hopen now b (some reply)
    | «open» | submit | cancel | settle => cases hbroken
  | abandoned => exact firstCall_interrupted (w := { w with busy := none }) hopen now b none
  | connected result =>
    cases result with
    | ok => cases hbroken
    | error fault =>
      simp only [stepBusy, job]
      exact firstCall_connectEnded _ now b reason fault
  | overtime =>
    simp only [stepBusy, job]
    exact firstCall_connectEnded _ now b reason .slowLink
  | sent =>
    obtain ⟨_, _, _, _⟩ := b
    subst job
    simp [Worker.takes, isSending, busy] at takes
  | event | timer => cases hbroken

/-- A link that breaks with a message is closed before any other call. -/
theorem firstCall_stepBusy_of_sending {up : Bool} (s : w.Serving up) {b : Busy} {id : Nat}
    (busy : w.busy = some b) (job : b.job = .sending id) {now : Nat} {input : Input}
    (takes : w.takes input) (hbroken : w.isBrokenBy input) :
    (w.stepBusy now b input).firstCall = some .release := by
  have hopen : w.state ≠ .closed := by simp [s.state]
  cases input with
  | command c =>
    cases c with
    | close reply =>
      exact firstCall_interrupted (w := { w with busy := none }) hopen now b (some reply)
    | «open» | submit | cancel | settle => cases hbroken
  | abandoned => exact firstCall_interrupted (w := { w with busy := none }) hopen now b none
  | sent result =>
    cases result with
    | ok => cases hbroken
    | error fault =>
      simp only [stepBusy, job]
      exact firstCall_sendEnded (w := { w with busy := none }) s.state now b id hbroken
  | overtime =>
    simp only [stepBusy, job]
    exact firstCall_sendEnded (w := { w with busy := none }) s.state now b id rfl
  | connected =>
    obtain ⟨_, _, _, _⟩ := b
    subst job
    simp [Worker.takes, isConnecting, busy] at takes
  | event | timer => cases hbroken

/-- A link that is not busy is not broken at work. -/
theorem not_isBrokenBy_of_idle (idle : w.busy = none) {input : Input} (takes : w.takes input) :
    w.isBrokenBy input = false := by
  cases input with
  | command c => cases c <;> simp [isBrokenBy, idle]
  | abandoned => simp [isBrokenBy, idle]
  | event | timer => rfl
  | connected | sent | overtime => simp [Worker.takes, isConnecting, isSending, idle] at takes

/-- **A broken link is closed before any other call.** -/
theorem firstCall_step_of_broken {up : Bool} (hs : w.Situated up) {now : Nat} {input : Input}
    (takes : w.takes input) (hbroken : w.isBrokenBy input) :
    (w.step now input).firstCall = some .release := by
  have going := going_of_takes takes
  cases hb : w.busy with
  | none =>
    rw [not_isBrokenBy_of_idle hb takes] at hbroken
    cases hbroken
  | some b =>
    rw [step_of_busy going hb]
    obtain ⟨reason, s, job⟩ | ⟨id, next, s, job, -⟩ := hs.of_busy hb
    · exact firstCall_stepBusy_of_dialing s hb job takes hbroken
    · exact firstCall_stepBusy_of_sending s hb job takes hbroken

/-- **Closing a closed connection does not call the link.** -/
theorem firstCall_step_of_closed {up : Bool} (hs : w.Situated up) (hclosed : w.state = .closed)
    {reply : Nat} (takes : w.takes (.command (.close reply))) (now : Nat) :
    (w.step now (.command (.close reply))).firstCall = none := by
  have idle := (hs.dormant_of_closed hclosed).idle
  rw [step_of_idle (going_of_takes takes) idle, stepAtRest, commandAtRest, Turn.firstCall_andThen,
    firstCall_close, if_pos hclosed]
  rfl

/-! ## Calls along a run -/

/-- **In which order the link is called**, given what was seen of a worker. -/
structure Disciplined (h : List Occurrence) (w : Worker) : Prop where
  /-- The link is connected only while it is down. -/
  connect : ∀ pre post, h = pre ++ .did .connect :: post → History.linkUp pre = false
  /-- Messages are handed over only while the link is up. -/
  send : ∀ pre message post, h = pre ++ .did (.send message) :: post →
    History.linkUp pre = true
  /-- Inbound messages are settled only while the link is up. -/
  settle : ∀ pre request post, h = pre ++ .did (.settle request) :: post →
    History.linkUp pre = true
  /-- The worker listens to the link only while it is up. -/
  listen : w.isListening → History.linkUp h = true
  /-- A link that failed to connect, took too long, broke with a message or is abandoned at work is
  closed at once. -/
  broken : ∀ pre v now input post, h = pre ++ .took v now input :: post → v.isBrokenBy input →
    (History.answers post).find? (·.isCall) = some .release
  /-- Closing a closed connection does not call the link. -/
  closed : ∀ pre v now reply post, h = pre ++ .took v now (.command (.close reply)) :: post →
    v.state = .closed → ∀ e ∈ History.answers post, e.isCall = false
  /-- The link is down when the worker has stopped. -/
  stopped : w.stopped → History.linkUp h = false

/-- **A worker keeps to the order of calls**, whatever happens to it. -/
theorem disciplined_of_run (terms : Terms) (inputs : List (Nat × Input)) :
    Disciplined ((Worker.new terms).history inputs) ((Worker.new terms).after inputs) := by
  have hc := course_of_run terms inputs
  have hs := situated_of_run terms inputs
  refine ⟨?_, ?_, ?_, ?_, ?_, ?_, ?_⟩
  -- The moves that call the link require it to be down or up.
  · intro pre post hp
    obtain ⟨m, os, -, -, hemits, rfl⟩ := Course.at_effect hc hp
    cases hemits with
    | plain plain connect settle =>
      rw [List.append_nil]
      exact connect rfl
  · intro pre message post hp
    obtain ⟨m, os, -, -, hemits, rfl⟩ := Course.at_effect hc hp
    cases hemits with
    | sent up next =>
      rw [List.append_nil]
      exact up
    | plain plain => cases plain
  · intro pre request post hp
    obtain ⟨m, os, -, -, hemits, rfl⟩ := Course.at_effect hc hp
    cases hemits with
    | plain plain connect settle =>
      rw [List.append_nil]
      exact settle request rfl
  · -- A worker that listens is at rest with its connection open.
    intro hlisten
    simp only [isListening, Bool.and_eq_true, decide_eq_true_eq,
      Option.isNone_iff_eq_none] at hlisten
    obtain hoff | ⟨hserving, -⟩ := hs.of_idle hlisten.1.2
    · exact absurd hlisten.1.1 hoff.state_ne
    · exact hserving.up
  · -- What follows an input up to the next one are the effects of its step.
    intro pre v now input post hp hbroken
    obtain ⟨before, after, -, -, rfl, takes, rfl⟩ := history_split hp
    rw [History.answers_did_append, History.answers_history, List.append_nil]
    exact firstCall_step_of_broken (situated_of_run terms before) takes hbroken
  · intro pre v now reply post hp hclosed
    obtain ⟨before, after, -, -, rfl, takes, rfl⟩ := history_split hp
    rw [History.answers_did_append, History.answers_history, List.append_nil]
    have hnone := firstCall_step_of_closed (situated_of_run terms before) hclosed takes now
    intro e he
    simpa using List.find?_eq_none.1 hnone e he
  · intro hstop
    exact (hs.dormant_of_stopped hstop).down

end Worker

end HubLink
