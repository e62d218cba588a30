import HubLink.Proofs.Connection.Turn

/-! # Waiting for the connection to open

Who waits for the connection to open makes no difference to a worker but in the answers it gives.
Every turn is indifferent to those who wait (`Worker.Indifferent`), and so are steps
(`Worker.indifferent_step`) and runs (`Worker.deeds_congr`). So requests to open a connection that
is being opened cause nothing: without them a worker does the same (`Worker.deeds_unjoined`). -/

namespace HubLink

/-- Whether an effect answers a request. -/
def Effect.isReply : Effect → Bool
  | .reply .. => true
  | _ => false

/-- A worker with nobody waiting for the connection to open. -/
def Worker.alone (w : Worker) : Worker := { w with waiters := [] }

namespace Turn

/-- A turn without its answers and without those who wait. -/
def muted (t : Turn) : Turn where
  worker := t.worker.alone
  effects := t.effects.filter (!·.isReply)

end Turn

namespace Worker

/-- **A turn is indifferent to those who wait**: but for the answers it is the same without them. -/
def Indifferent (f : Worker → Turn) : Prop := ∀ w, (f w).muted = (f w.alone).muted

/-- An indifferent turn after turns that are the same but for the answers. -/
theorem Indifferent.muted_andThen {f : Worker → Turn} (hf : Indifferent f) {t u : Turn}
    (h : t.muted = u.muted) : (t.andThen f).muted = (u.andThen f).muted := by
  obtain ⟨hworker, heffects⟩ := Turn.mk.inj h
  have hrest : (f t.worker).muted = (f u.worker).muted := by
    rw [hf t.worker, hf u.worker, hworker]
  obtain ⟨hworker', heffects'⟩ := Turn.mk.inj hrest
  simp only [Turn.muted, Turn.andThen, List.filter_append, hworker', heffects, heffects']

/-- Indifferent turns, one after the other. -/
theorem Indifferent.andThen {f g : Worker → Turn} (hf : Indifferent f) (hg : Indifferent g) :
    Indifferent fun w => (f w).andThen g :=
  fun w => hg.muted_andThen (hf w)

/-- Indifferent turns, chosen by what does not depend on those who wait. -/
theorem Indifferent.of_choice {α : Type} {c : Worker → α} {f : α → Worker → Turn}
    (hf : ∀ a, Indifferent (f a)) (hc : ∀ w, c w = c w.alone) : Indifferent fun w => f (c w) w := by
  intro w
  show (f (c w) w).muted = (f (c w.alone) w.alone).muted
  rw [← hc w]
  exact hf (c w) w

/-- One of two indifferent turns, chosen by what does not depend on those who wait. -/
theorem Indifferent.ite {f g : Worker → Turn} (hf : Indifferent f) (hg : Indifferent g)
    {p : Worker → Prop} [DecidablePred p] (hp : ∀ w, p w ↔ p w.alone) :
    Indifferent fun w => if p w then f w else g w := by
  intro w
  by_cases h : p w
  · simp only [if_pos h, if_pos ((hp w).1 h)]
    exact hf w
  · have halone : ¬p w.alone := fun hyes => h ((hp w).2 hyes)
    simp only [if_neg h, if_neg halone]
    exact hg w

/-- An indifferent turn after a change that keeps what does not depend on those who wait. -/
theorem Indifferent.comp {f : Worker → Turn} (hf : Indifferent f) {g : Worker → Worker}
    (hg : ∀ w, (g w).alone = (g w.alone).alone) : Indifferent fun w => f (g w) := by
  intro w
  show (f (g w)).muted = (f (g w.alone)).muted
  rw [hf (g w), hg w, ← hf (g w.alone)]

/-! ## Turns

What does not look at those who wait is the same for both workers by computation. -/

theorem indifferent_rest : Indifferent fun w => { worker := w } := fun _ => rfl

theorem indifferent_enter (state : ConnectionState) (reason : StatusReason) :
    Indifferent (·.enter state reason) :=
  indifferent_rest.ite (fun _ => rfl) fun _ => Iff.rfl

theorem indifferent_release : Indifferent release := fun _ => rfl

/-- Those who wait get answers only. -/
theorem indifferent_answerWaiters (result : Except Fault Unit) :
    Indifferent (·.answerWaiters result) := by
  intro w
  simp [answerWaiters, alone, Turn.muted, List.filter_map, Function.comp_def, Effect.isReply]

theorem indifferent_shut (reason : StatusReason) (fault : Fault) :
    Indifferent (·.shut reason fault) := by
  have htrack : Indifferent fun w => w.track (w.tracker.failAll fault) := fun _ => rfl
  exact ((indifferent_enter _ _).andThen htrack).andThen (indifferent_answerWaiters _)

theorem indifferent_close : Indifferent close := by
  have hrelease : Indifferent fun w =>
      if w.forgetPlans.state = .closed then { worker := w.forgetPlans }
      else w.forgetPlans.release := by
    refine Indifferent.ite (fun _ => rfl) (fun _ => rfl) fun _ => Iff.rfl
  exact hrelease.andThen (indifferent_shut _ _)

theorem indifferent_giveUp (fault : Fault) : Indifferent (·.giveUp fault) := by
  have hrelease : Indifferent fun w => w.forgetPlans.release := fun _ => rfl
  exact hrelease.andThen (indifferent_shut _ _)

theorem indifferent_planReconnect (now : Nat) (fault : Fault) :
    Indifferent (·.planReconnect now fault) := by
  intro w
  simp only [planReconnect, show w.alone.terms = w.terms from rfl,
    show w.alone.attempt = w.attempt from rfl]
  cases w.terms.policy.decide fault.kind w.attempt with
  | giveUp => exact indifferent_giveUp fault w
  | retry after => rfl

theorem indifferent_connectFailed (now : Nat) (fault : Fault) :
    Indifferent (·.connectFailed now fault) := by
  have henter : Indifferent fun w =>
      if w.state = .opening ∧ fault.isTransient then w.enter .reconnecting .communicationError
      else { worker := w } :=
    (indifferent_enter _ _).ite indifferent_rest fun _ => Iff.rfl
  exact (indifferent_release.andThen henter).andThen (indifferent_planReconnect now fault)

theorem indifferent_linkLost (now : Nat) (fault : Fault) : Indifferent (·.linkLost now fault) := by
  have henter : Indifferent fun w =>
      { w with renewAt := none, queue := [] }.enter .reconnecting .connectionLost :=
    (indifferent_enter _ _).comp fun _ => rfl
  have hlost := (indifferent_release.andThen henter).andThen (indifferent_planReconnect now fault)
  exact hlost.ite indifferent_rest fun _ => Iff.rfl

theorem indifferent_connectionUp (now : Nat) (reason : StatusReason) :
    Indifferent (·.connectionUp now reason) := by
  have henter : Indifferent fun w =>
      enter { w with
        attempt := 0, reconnectAt := none
        renewAt := w.terms.renewal.map (deadlineAfter now) } .open reason :=
    (indifferent_enter _ _).comp fun _ => rfl
  have hqueue : Indifferent fun w => { worker := { w with queue := w.tracker.outstanding } } :=
    fun _ => rfl
  exact (henter.andThen (indifferent_answerWaiters _)).andThen hqueue

/-! ## Tasks -/

theorem indifferent_settle (request : SettleRequest) : Indifferent (·.settle request) := by
  intro w
  simp only [settle, show w.alone.state = w.state from rfl]
  rfl

/-- **What is left to do** does not depend on those who wait. -/
theorem indifferent_run (now : Nat) (tasks : List Task) : Indifferent (run now tasks) := by
  induction tasks with
  | nil => exact indifferent_rest
  | cons task tasks ih =>
    cases task with
    | settle request => exact (indifferent_settle request).andThen ih
    | flush =>
      intro w
      by_cases hopen : w.state = .open
      · simp only [run, show w.alone.state = w.state from rfl, if_pos hopen,
          show w.alone.tracker = w.tracker from rfl, show w.alone.queue = w.queue from rfl]
        cases nextToSend w.tracker now w.queue with
        | some _ => rfl
        | none =>
          -- Nothing is queued, and what is left to do comes next.
          have hempty : Indifferent fun w => run now tasks { w with queue := [] } :=
            ih.comp fun _ => rfl
          exact hempty w
      · simp only [run, show w.alone.state = w.state from rfl, if_neg hopen]
        exact ih w
    | reconnect due =>
      have hconnect : Indifferent fun w =>
          { w with reconnectAt := none }.connect now .connected tasks := fun _ => rfl
      exact hconnect.ite ih fun _ => Iff.rfl
    | renew due =>
      have hrelease : Indifferent fun w => { w with renewAt := none }.release := fun _ => rfl
      have hconnect : Indifferent (·.connect now .tokenRenewal tasks) := fun _ => rfl
      exact ((hrelease.andThen (indifferent_enter _ _)).andThen hconnect).ite ih fun _ => Iff.rfl

/-! ## The link at work -/

theorem indifferent_connectEnded (now : Nat) (b : Busy) (reason : StatusReason)
    (result : Except Fault Unit) : Indifferent (·.connectEnded now b reason result) := by
  cases result with
  | ok => exact (indifferent_connectionUp now reason).andThen (indifferent_run now _)
  | error fault => exact (indifferent_connectFailed now fault).andThen (indifferent_run now _)

theorem indifferent_sendEnded (now : Nat) (b : Busy) (id : Nat)
    (result : Except Fault SendOutcome) : Indifferent (·.sendEnded now b id result) := by
  have hrun := indifferent_run now (afterwards b)
  cases result with
  | ok outcome =>
    cases outcome with
    | acknowledged response =>
      have hacknowledged : Indifferent fun w => w.track (w.tracker.acknowledge id response) :=
        fun _ => rfl
      exact hacknowledged.andThen hrun
    | awaiting => exact indifferent_rest.andThen hrun
  | error fault =>
    have hfailed : Indifferent fun w =>
        w.track (w.tracker.sendFailed w.terms.policy id fault now) := fun _ => rfl
    have hlost : Indifferent fun w =>
        if fault.breaksLink then w.linkLost now fault else { worker := w } :=
      (indifferent_linkLost now fault).ite indifferent_rest fun _ => Iff.rfl
    exact (hfailed.andThen hlost).andThen hrun

theorem indifferent_interrupted (now : Nat) (b : Busy) (reply : Option Nat) :
    Indifferent (·.interrupted now b reply) := by
  have hrun := indifferent_run now (afterwards b)
  cases reply with
  | some reply =>
    have hanswered : Indifferent fun w => { worker := w, effects := [.reply reply (.ok ())] } :=
      fun _ => rfl
    exact (indifferent_close.andThen hanswered).andThen hrun
  | none =>
    have hstopped : Indifferent fun w => { worker := { w with stopped := true } } := fun _ => rfl
    exact (indifferent_close.andThen hstopped).andThen hrun

/-- One more who waits makes no difference. -/
theorem indifferent_commandWhileBusy (now : Nat) (b : Busy) (c : Command) :
    Indifferent (·.commandWhileBusy now b c) := by
  obtain ⟨job, limit, deferred, next⟩ := b
  cases c with
  | «open» reply =>
    cases job with
    | connecting reason => exact fun _ => rfl
    | sending id => exact fun _ => rfl
  | close reply => exact (indifferent_interrupted now _ (some reply)).comp fun _ => rfl
  | submit message completion deadline =>
    have hqueued : Indifferent fun w => { worker := { w with queue := w.queue ++ [message.id] } } :=
      fun _ => rfl
    intro w
    simp only [commandWhileBusy, show w.alone.tracker = w.tracker from rfl]
    cases (w.tracker.submit message completion deadline).value with
    | ok =>
      cases job with
      | connecting reason => exact indifferent_rest.muted_andThen rfl
      | sending id => exact hqueued.muted_andThen rfl
    | error => exact indifferent_rest.muted_andThen rfl
  | cancel id => exact fun _ => rfl
  | settle request => exact fun _ => rfl

theorem indifferent_stepBusy (now : Nat) (b : Busy) (input : Input) :
    Indifferent (·.stepBusy now b input) := by
  obtain ⟨job, limit, deferred, next⟩ := b
  cases input with
  | command c => exact indifferent_commandWhileBusy now _ c
  | abandoned => exact (indifferent_interrupted now _ none).comp fun _ => rfl
  | timer => exact fun _ => rfl
  | event e => exact indifferent_rest
  | connected result =>
    cases job with
    | connecting reason => exact (indifferent_connectEnded now _ reason result).comp fun _ => rfl
    | sending id => exact indifferent_rest
  | sent result =>
    cases job with
    | connecting reason => exact indifferent_rest
    | sending id => exact (indifferent_sendEnded now _ id result).comp fun _ => rfl
  | overtime =>
    cases job with
    | connecting reason => exact (indifferent_connectEnded now _ reason _).comp fun _ => rfl
    | sending id => exact (indifferent_sendEnded now _ id _).comp fun _ => rfl

/-! ## The link at rest -/

theorem enqueue_alone (w : Worker) (id : Nat) :
    (w.enqueue id).alone = (w.alone.enqueue id).alone := by
  simp only [enqueue, show w.alone.queue = w.queue from rfl]
  split <;> rfl

/-- The first who asks waits for the connect, as everyone who asks later. -/
theorem indifferent_open (now reply : Nat) : Indifferent (·.commandAtRest now (.open reply)) := by
  have hentered : Indifferent fun w =>
      enter { w with waiters := w.waiters ++ [reply], attempt := 0 } .opening .clientOpen :=
    (indifferent_enter _ _).comp fun _ => rfl
  have hconnect : Indifferent (·.connect now .connected []) := fun _ => rfl
  have hdialed := hentered.andThen hconnect
  intro w
  obtain ⟨terms, state, attempt, tracker, waiters, queue, reconnectAt, renewAt, busy, stopped⟩ := w
  cases state with
  | closed =>
    simp only [commandAtRest, alone]
    cases terms.identity.validate with
    | error fault => rfl
    | ok => exact hdialed ⟨terms, .closed, attempt, _, waiters, _, _, _, _, _⟩
  | «open» | opening | reconnecting => rfl

theorem indifferent_commandAtRest (now : Nat) (c : Command) :
    Indifferent (·.commandAtRest now c) := by
  cases c with
  | «open» reply => exact indifferent_open now reply
  | close reply =>
    have hanswered : Indifferent fun w => { worker := w, effects := [.reply reply (.ok ())] } :=
      fun _ => rfl
    exact indifferent_close.andThen hanswered
  | submit message completion deadline =>
    have hflush : Indifferent fun w =>
        if w.state = .open then run now [.flush] (w.enqueue message.id) else { worker := w } := by
      have hrun : Indifferent fun w => run now [.flush] (w.enqueue message.id) :=
        (indifferent_run now _).comp fun w => enqueue_alone w message.id
      exact hrun.ite indifferent_rest fun _ => Iff.rfl
    intro w
    simp only [commandAtRest, show w.alone.state = w.state from rfl,
      show w.alone.tracker = w.tracker from rfl]
    by_cases hclosed : w.state = .closed
    · simp only [if_pos hclosed]
      rfl
    · simp only [if_neg hclosed]
      cases (w.tracker.submit message completion deadline).value with
      | ok => exact hflush.muted_andThen rfl
      | error => exact indifferent_rest.muted_andThen rfl
  | cancel id => exact fun _ => rfl
  | settle request => exact indifferent_settle request

theorem indifferent_eventAtRest (now : Nat) (e : Except Fault LinkEvent) :
    Indifferent (·.eventAtRest now e) := by
  cases e with
  | ok event =>
    cases event with
    | disconnected fault => exact indifferent_linkLost now fault
    | acknowledged | rejected | notification => exact fun _ => rfl
  | error fault => exact indifferent_linkLost now fault

theorem indifferent_resendAll (now : Nat) (ids : List Nat) : Indifferent (resendAll now ids) := by
  induction ids with
  | nil => exact indifferent_rest
  | cons id ids ih =>
    have hresend : Indifferent (·.resend now id) := by
      intro w
      have hqueued (sent : Prop) [Decidable sent] : Indifferent fun w =>
          { worker := if sent then w.enqueue id else w } := by
        refine indifferent_rest.comp fun w => ?_
        split
        · exact enqueue_alone w id
        · rfl
      exact (hqueued _).muted_andThen rfl
    exact hresend.andThen ih

theorem indifferent_wake (now : Nat) : Indifferent (·.wake now) := by
  have hexpire : Indifferent fun w => w.track (w.tracker.expire now) := fun _ => rfl
  have hresent : Indifferent fun w =>
      if w.state = .open then
        resendAll now (w.tracker.dueForResend now w.terms.ackTimeout) w
      else { worker := w } := by
    have hall := Indifferent.of_choice (indifferent_resendAll now)
      (c := fun w => w.tracker.dueForResend now w.terms.ackTimeout) fun _ => rfl
    exact hall.ite indifferent_rest fun _ => Iff.rfl
  exact (hexpire.andThen hresent).andThen (indifferent_run now _)

theorem indifferent_stepAtRest (now : Nat) (input : Input) :
    Indifferent (·.stepAtRest now input) := by
  cases input with
  | command c => exact indifferent_commandAtRest now c
  | abandoned =>
    have hstopped : Indifferent fun w => { worker := { w with stopped := true } } := fun _ => rfl
    exact indifferent_close.andThen hstopped
  | timer => exact indifferent_wake now
  | event e => exact (indifferent_eventAtRest now e).ite indifferent_rest fun _ => Iff.rfl
  | connected | sent | overtime => exact indifferent_rest

/-- **A step is indifferent to those who wait.** -/
theorem indifferent_step (now : Nat) (input : Input) : Indifferent (·.step now input) := by
  intro w
  simp only [step, show w.alone.stopped = w.stopped from rfl, show w.alone.busy = w.busy from rfl]
  by_cases hstop : w.stopped = true
  · simp only [if_pos hstop]
    rfl
  · simp only [if_neg hstop]
    cases w.busy with
    | some b => exact indifferent_stepBusy now b input w
    | none => exact indifferent_stepAtRest now input w

/-! ## Runs -/

/-- Whether an input asks to open a connection that is being opened already. -/
def joins (w : Worker) : Input → Bool
  | .command (.open _) => w.state = .opening || w.state = .reconnecting
  | _ => false

/-- Inputs without the requests to open a connection that is being opened already. -/
def unjoined (w : Worker) : List (Nat × Input) → List (Nat × Input)
  | [] => []
  | (now, input) :: rest =>
    if w.joins input then (w.step now input).worker.unjoined rest
    else (now, input) :: (w.step now input).worker.unjoined rest

end Worker

/-- The effect that is wanted, unless it is an answer. -/
def Occurrence.deed? : Occurrence → Option Effect
  | .did e => if e.isReply then none else some e
  | .took .. => none

/-- What a worker does but for the answers it gives, in order. -/
def History.deeds (h : List Occurrence) : List Effect := h.filterMap (·.deed?)

theorem History.deeds_append (h k : List Occurrence) : deeds (h ++ k) = deeds h ++ deeds k :=
  List.filterMap_append

namespace Worker

/-- The deeds of effects are those that are no answers. -/
theorem deeds_did (es : List Effect) :
    History.deeds (es.map .did) = es.filter (!·.isReply) := by
  induction es with
  | nil => rfl
  | cons e es ih =>
    rw [List.map_cons, List.filter_cons, ← ih]
    cases h : e.isReply <;> simp [History.deeds, Occurrence.deed?, h]

/-- The deeds of a step. -/
theorem deeds_seen (w : Worker) (now : Nat) (input : Input) :
    History.deeds (w.seen now input) = (w.step now input).muted.effects := by
  cases takes : w.takes input with
  | false =>
    rw [step_of_not_takes now takes, seen, takes]
    rfl
  | true =>
    rw [seen_of_takes takes]
    exact deeds_did (w.step now input).effects

/-- **A run is indifferent to those who wait**: workers that differ in nothing else do the same. -/
theorem deeds_congr {v w : Worker} (h : v.alone = w.alone) (inputs : List (Nat × Input)) :
    History.deeds (v.history inputs) = History.deeds (w.history inputs) := by
  -- Both take the same step but for the answers, and differ in those who wait only.
  induction inputs generalizing v w with
  | nil => rfl
  | cons i inputs ih =>
    obtain ⟨now, input⟩ := i
    have hstep : (v.step now input).muted = (w.step now input).muted := by
      rw [indifferent_step now input v, indifferent_step now input w, h]
    obtain ⟨hworker, heffects⟩ := Turn.mk.inj hstep
    rw [history, history, History.deeds_append, History.deeds_append, deeds_seen, deeds_seen, hstep,
      ih hworker]

/-- A request to open a connection that is being opened causes nothing, though it may be
answered. -/
theorem muted_of_joins {w : Worker} {input : Input} (h : w.joins input) (now : Nat) :
    (w.step now input).muted = { worker := w.alone } := by
  match input with
  | .command (.open reply) =>
    have hstate : w.state = .opening ∨ w.state = .reconnecting := by simpa [joins] using h
    unfold step
    split
    · rfl
    · split
      · rename_i b hb
        simp only [stepBusy, commandWhileBusy]
        split <;> rfl
      · simp only [stepAtRest, commandAtRest]
        split
        · rfl
        · rfl
        · rfl
        · -- The connection is not closed.
          rename_i hclosed
          simp [hclosed] at hstate

/-- **Requests to open a connection that is being opened cause nothing**: without them a worker does
the same but for the answers. -/
theorem deeds_unjoined (w : Worker) (inputs : List (Nat × Input)) :
    History.deeds (w.history (w.unjoined inputs)) = History.deeds (w.history inputs) := by
  induction inputs generalizing w with
  | nil => rfl
  | cons i inputs ih =>
    obtain ⟨now, input⟩ := i
    rw [unjoined]
    split
    · -- The request adds someone who waits, if anything.
      rename_i hjoins
      obtain ⟨hworker, heffects⟩ := Turn.mk.inj (muted_of_joins hjoins now)
      have hnone : History.deeds (w.seen now input) = [] := (deeds_seen w now input).trans heffects
      rw [history, History.deeds_append, hnone, List.nil_append, ← ih]
      exact deeds_congr hworker.symm _
    · rw [history, history, History.deeds_append, History.deeds_append, ih]

end Worker

end HubLink
