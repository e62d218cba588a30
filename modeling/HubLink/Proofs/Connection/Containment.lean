import HubLink.Proofs.Connection.Passing
import HubLink.Proofs.Connection.Quiet
import HubLink.Proofs.Connection.Waking

/-! # Failures that stay with their message

The link may report that a message could not be handed over, or that the hub rejected it. Unless the
report says that the link itself timed out or was reset, this is a matter of the message alone
(`Worker.FailsAlone`): its delivery is put off or ends, and the worker goes on with what was left to
do (`Worker.step_of_failsAlone`). The connection and the other messages are left as they are, and
the queue is handed over in its order (`Worker.containsFailure_of_run`). -/

namespace HubLink

/-! ## Turns that concern one message -/

/-- **A turn of the message of an id alone**, given the worker and the fault of the message. -/
structure Turn.Concerns (id : Nat) (fault : Fault) (w : Worker) (t : Turn) : Prop where
  /-- Of the worker only the tracker changes. -/
  worker : ∃ tracker, t.worker = { w with tracker }
  /-- At most the operation of the id ends, with the fault. -/
  effects : t.effects = [] ∨ ∃ p, w.tracker.pending? id = some p ∧
    t.effects = [.complete (p.resolve id (.error fault))]
  /-- The other messages are as they were. -/
  message : ∀ k, k ≠ id → t.worker.tracker.message? k = w.tracker.message? k
  /-- So are their operations. -/
  pending : ∀ k, k ≠ id → t.worker.tracker.pending? k = w.tracker.pending? k

/-- **A turn keeps the others**: the connection and all messages but that of an id, whose failure
with a fault it is. A renewal of the token that was to be made anyway is no part of this. -/
structure Turn.KeepsOthers (id : Nat) (fault : Fault) (now : Nat) (renews : Prop) (w : Worker)
    (t : Turn) : Prop where
  /-- Unless the token was to be renewed, nothing about the connection changes. -/
  connection : ¬renews → (∃ tracker queue busy, t.worker = { w with tracker, queue, busy }) ∧
    ∀ e ∈ t.effects, e ≠ .release ∧ e ≠ .connect
  /-- Another message is as it was, or as it is when it is handed over as the next one. -/
  message : ∀ k, k ≠ id → t.worker.tracker.message? k = w.tracker.message? k ∨
    ∃ m, w.tracker.message? k = some m ∧
      t.worker.tracker.message? k = some (m.handOver now) ∧ t.worker.sending? = some k
  /-- Its operation waits on. -/
  pending : ∀ k, k ≠ id → t.worker.tracker.pending? k = w.tracker.pending? k
  /-- At most the operation of the message ends, with the fault. -/
  completed : ∀ r, .complete r ∈ t.effects →
    ∃ p, w.tracker.pending? id = some p ∧ r = p.resolve id (.error fault)

namespace Worker

variable {w : Worker} {id : Nat} {fault : Fault}

/-- The failure of a message concerns no other. -/
theorem concerns_sendFailed (ht : w.tracker.Coherent) (policy : RetryPolicy) (id : Nat)
    (fault : Fault) (now : Nat) :
    (w.track (w.tracker.sendFailed policy id fault now)).Concerns id fault w := by
  obtain ⟨-, heq⟩ | ⟨p, hp, heq⟩ | ⟨m, retryAt, -, heq⟩ :=
    DeliveryTracker.sendFailed_eq ht policy id fault now
  · rw [heq]
    exact ⟨⟨_, rfl⟩, .inl rfl, fun _ _ => rfl, fun _ _ => rfl⟩
  · rw [heq]
    refine ⟨⟨_, rfl⟩, .inr ⟨p, hp, rfl⟩, fun k hk => ?_, fun k hk => ?_⟩
    · exact (DeliveryTracker.message?_retire ..).trans (if_neg hk)
    · exact (DeliveryTracker.pending?_retire ..).trans (if_neg hk)
  · rw [heq]
    refine ⟨⟨_, rfl⟩, .inl rfl, fun k hk => ?_, fun _ _ => rfl⟩
    exact (DeliveryTracker.message?_insert ..).trans (if_neg (Ne.symm hk))

/-! ## What was left to do -/

/-- What is left to do when the link's work is over, if it is at work. -/
def leftToDo (w : Worker) : List Task := (w.busy.map afterwards).getD []

/-- Whether a renewal of the token is among some tasks and due. -/
def Renews (w : Worker) (tasks : List Task) : Prop :=
  ∃ due, .renew due ∈ tasks ∧ isDue w.renewAt due = true

/-- **Doing what is left leaves an open connection as it is** unless the token is to be renewed. -/
theorem run_of_not_renews (hopen : w.state = .open) (now : Nat) {tasks : List Task}
    (hrenew : ¬w.Renews tasks) :
    (∃ tracker queue busy, (run now tasks w).worker = { w with tracker, queue, busy }) ∧
      ∀ e ∈ (run now tasks w).effects, e ≠ .release ∧ e ≠ .connect := by
  induction tasks generalizing w with
  | nil => exact ⟨⟨_, _, _, rfl⟩, by simp [run]⟩
  | cons task tasks ih =>
    have hrest : ¬w.Renews tasks := by
      rintro ⟨due, hmem, hdue⟩
      exact hrenew ⟨due, List.mem_cons_of_mem _ hmem, hdue⟩
    cases task with
    | settle request =>
      obtain ⟨hworker, heffects⟩ := ih hopen hrest
      rw [run]
      refine ⟨hworker, ?_⟩
      rw [Turn.andThen_effects, List.forall_mem_append]
      refine ⟨?_, heffects⟩
      simp [settle, hopen]
    | flush =>
      rw [run, if_pos hopen]
      split
      · -- The link takes the next message.
        exact ⟨⟨_, _, _, rfl⟩, by simp [start]⟩
      · obtain ⟨⟨tracker, queue, busy, hworker⟩, heffects⟩ :=
          ih (w := { w with queue := [] }) hopen hrest
        exact ⟨⟨tracker, queue, busy, hworker⟩, heffects⟩
    | reconnect due =>
      rw [run, if_neg (by simp [hopen])]
      exact ih hopen hrest
    | renew due =>
      rw [run, if_neg fun hdue => hrenew ⟨due, List.mem_cons_self, hdue.2⟩]
      exact ih hopen hrest

end Worker

/-- **A turn that hands over at most one message** and changes no other, and ends no operation. -/
structure Turn.HandsOver (now : Nat) (w : Worker) (t : Turn) : Prop where
  /-- No operation ends. -/
  unresolved : ∀ r, .complete r ∉ t.effects
  /-- A message is as it was, or as it is when it is handed over, and then the link takes it. -/
  message : ∀ k, t.worker.tracker.message? k = w.tracker.message? k ∨
    ∃ m, w.tracker.message? k = some m ∧
      t.worker.tracker.message? k = some (m.handOver now) ∧ t.worker.sending? = some k
  /-- All operations wait on. -/
  pending : ∀ k, t.worker.tracker.pending? k = w.tracker.pending? k

namespace Turn.HandsOver

variable {now : Nat} {w : Worker} {t : Turn}

/-- A turn that leaves the tracker alone. -/
theorem of_same (he : ∀ r, .complete r ∉ t.effects) (ht : t.worker.tracker = w.tracker) :
    t.HandsOver now w where
  unresolved := he
  message k := .inl (by rw [ht])
  pending k := by rw [ht]

/-- Such a turn comes first. -/
theorem of_andThen {f : Worker → Turn} (he : ∀ r, .complete r ∉ t.effects)
    (ht : t.worker.tracker = w.tracker) (hf : (f t.worker).HandsOver now t.worker) :
    (t.andThen f).HandsOver now w where
  unresolved r hr := (List.mem_append.1 hr).elim (he r) (hf.unresolved r)
  message k := by
    rw [← ht]
    exact hf.message k
  pending k := (hf.pending k).trans (by rw [ht])

end Turn.HandsOver

namespace Worker

variable {w : Worker} {id : Nat} {fault : Fault}

/-- Doing what is left hands over at most one message. -/
theorem handsOver_run (now : Nat) (tasks : List Task) (w : Worker) :
    (run now tasks w).HandsOver now w := by
  induction tasks generalizing w with
  | nil => exact .of_same (by simp [run]) rfl
  | cons task tasks ih =>
    cases task with
    | settle request =>
      rw [run]
      refine .of_andThen (fun r => ?_) rfl (ih w)
      unfold settle
      split <;> simp
    | flush =>
      rw [run]
      split
      · split
        · rename_i k message tracker queue hnext
          obtain ⟨-, m, -, -, hm, -, rfl⟩ := nextToSend_eq_some hnext
          refine ⟨by simp [start], fun k' => ?_, fun _ => rfl⟩
          by_cases hk : k = k'
          · subst hk
            exact .inr ⟨m, hm, (DeliveryTracker.message?_insert ..).trans (if_pos rfl), rfl⟩
          · exact .inl ((DeliveryTracker.message?_insert ..).trans (if_neg hk))
        · have hrest := ih { w with queue := [] }
          exact { hrest with }
      · exact ih w
    | reconnect due =>
      rw [run]
      split
      · exact .of_same (by simp [connect, start]) rfl
      · exact ih w
    | renew due =>
      rw [run]
      split
      · rename_i hdue
        refine .of_same (by simp [release, enter, connect, start, hdue.1]) ?_
        rw [Turn.andThen_worker, Turn.andThen_worker, enter_worker]
        rfl
      · exact ih w

/-! ## Failures of one message -/

/-- A worker listens to a link that is up and at rest. -/
theorem isListening_iff :
    w.isListening = true ↔ w.state = .open ∧ w.busy = none ∧ w.stopped = false := by
  simp [isListening, and_assoc]

/-- **The failure of one message**: it could not be handed over, for a reason that does not take the
link with it, or the hub rejected it. -/
inductive FailsAlone (w : Worker) (id : Nat) (fault : Fault) : Input → Prop where
  /-- Handing it over failed, and the link neither timed out nor was reset. -/
  | unsent (sending : w.sending? = some id) (time : fault.kind ≠ .networkTimeout)
      (reset : fault.kind ≠ .transportReset) : FailsAlone w id fault (.sent (.error fault))
  /-- The hub rejected it, for whatever reason. -/
  | rejected (listens : w.isListening) : FailsAlone w id fault (.event (.ok (.rejected id fault)))

theorem breaksLink_eq_false (time : fault.kind ≠ .networkTimeout)
    (reset : fault.kind ≠ .transportReset) : fault.breaksLink = false := by
  unfold Fault.breaksLink FailureKind.breaksLink
  split
  · exact absurd ‹_› time
  · exact absurd ‹_› reset
  · rfl

/-- Messages fail while the link is up. -/
theorem FailsAlone.serving {input : Input} (hf : w.FailsAlone id fault input) {up : Bool}
    (hs : w.Situated up) : w.Serving up := by
  cases hf with
  | unsent sending =>
    obtain ⟨b, busy, job⟩ := sending?_eq_some_iff.1 sending
    obtain ⟨_, -, hconnecting⟩ | ⟨_, _, s, -⟩ := hs.of_busy busy
    · rw [job] at hconnecting
      cases hconnecting
    · exact s
  | rejected listens =>
    obtain ⟨hopen, idle, -⟩ := isListening_iff.1 listens
    obtain hoff | ⟨s, -⟩ := hs.of_idle idle
    · exact absurd hopen hoff.state_ne
    · exact s

/-- After a hand-over that succeeded, a worker does what was left to do. -/
theorem step_of_awaiting (going : w.stopped = false) (sending : w.sending? = some id) (now : Nat) :
    w.step now (.sent (.ok .awaiting)) = run now w.leftToDo { w with busy := none } := by
  obtain ⟨b, busy, job⟩ := sending?_eq_some_iff.1 sending
  rw [step_of_busy going busy, stepBusy, job]
  simp only [sendEnded, leftToDo, busy, Option.map_some, Option.getD_some]
  exact Turn.andThen_of_rest _ _

/-- **After the failure of one message a worker does what was left to do**, and before that only
what the failure means for the message. -/
theorem step_of_failsAlone {input : Input} (hf : w.FailsAlone id fault input)
    (going : w.stopped = false) (now : Nat) :
    w.step now input =
      (({ w with busy := none }).track
        (w.tracker.sendFailed w.terms.policy id fault now)).andThen (run now w.leftToDo) := by
  cases hf with
  | unsent sending time reset =>
    obtain ⟨b, busy, job⟩ := sending?_eq_some_iff.1 sending
    rw [step_of_busy going busy, stepBusy, job]
    simp only [sendEnded, leftToDo, busy, Option.map_some, Option.getD_some,
      breaksLink_eq_false time reset, Bool.false_eq_true, if_false, Turn.andThen_assoc,
      Turn.andThen_of_rest]
  | rejected listens =>
    obtain ⟨hopen, idle, -⟩ := isListening_iff.1 listens
    have hsame : ({ w with busy := none } : Worker) = w := by rw [← idle]
    rw [step_of_idle going idle, stepAtRest, if_pos hopen, leftToDo, idle, hsame]
    simp [eventAtRest, run, Turn.andThen]

/-! ## Containment -/

/-- A turn of the message alone, and then what was left to do. -/
theorem keepsOthers_of_concerns {t : Turn} (ht : t.Concerns id fault { w with busy := none })
    (hopen : w.state = .open) (now : Nat) (tasks : List Task) :
    (t.andThen (run now tasks)).KeepsOthers id fault now (w.Renews tasks) w := by
  obtain ⟨tracker, hworker⟩ := ht.worker
  have hhands := handsOver_run now tasks t.worker
  refine ⟨fun hrenew => ?_, fun k hk => ?_, fun k hk => ?_, fun r hr => ?_⟩
  · have hopen' : t.worker.state = .open := by
      rw [hworker]
      exact hopen
    have hrenew' : ¬t.worker.Renews tasks := by
      rw [hworker]
      exact hrenew
    obtain ⟨⟨tracker', queue', busy', hrun⟩, heffects⟩ := run_of_not_renews hopen' now hrenew'
    refine ⟨⟨tracker', queue', busy', ?_⟩, ?_⟩
    · rw [Turn.andThen_worker, hrun, hworker]
    · rw [Turn.andThen_effects, List.forall_mem_append]
      refine ⟨?_, heffects⟩
      rcases ht.effects with hnone | ⟨p, -, hone⟩
      · simp [hnone]
      · simp [hone]
  · rw [Turn.andThen_worker, ← ht.message k hk]
    exact hhands.message k
  · rw [Turn.andThen_worker, hhands.pending, ht.pending k hk]
  · rw [Turn.andThen_effects, List.mem_append] at hr
    have hfirst := hr.resolve_right (hhands.unresolved r)
    rcases ht.effects with hnone | ⟨p, hp, hone⟩
    · rw [hnone] at hfirst
      cases hfirst
    · rw [hone, List.mem_singleton] at hfirst
      exact ⟨p, hp, Effect.complete.inj hfirst⟩

/-- **A failure stays with its message**, given the worker that is told of it at an instant. -/
structure ContainsFailure (w : Worker) (now id : Nat) (fault : Fault) (input : Input) : Prop where
  /-- The connection is open. -/
  isOpen : w.state = .open
  /-- A turn of the message alone comes first, then what was left to do. -/
  first : ∃ t : Turn, t.Concerns id fault { w with busy := none } ∧
    w.step now input = t.andThen (run now w.leftToDo)
  /-- A worker does that after a hand-over that succeeded, too. -/
  anyway : w.sending? = some id →
    w.step now (.sent (.ok .awaiting)) = run now w.leftToDo { w with busy := none }
  /-- The whole step keeps the others. -/
  others : (w.step now input).KeepsOthers id fault now (w.Renews w.leftToDo) w
  /-- Until the link is closed, the queue is passed in its order, and all of it once the worker is at
  rest. -/
  queue : ∀ later, .did .release ∉ w.history ((now, input) :: later) →
    PassesInOrder w (w.history ((now, input) :: later)) (w.after ((now, input) :: later)) ∧
      ((w.after ((now, input) :: later)).busy = none →
        (w.after ((now, input) :: later)).queue = [])

/-- **A failure stays with its message** wherever in a run it is reported. -/
theorem containsFailure_of_run (terms : Terms) (inputs : List (Nat × Input)) (now : Nat)
    {input : Input} (hf : ((Worker.new terms).after inputs).FailsAlone id fault input) :
    ((Worker.new terms).after inputs).ContainsFailure now id fault input := by
  have hs := situated_of_run terms inputs
  have ht := coherent_of_run terms inputs
  have s := hf.serving hs
  generalize (Worker.new terms).after inputs = w at hf hs ht s
  have hconcerns := concerns_sendFailed (w := { w with busy := none }) ht w.terms.policy id fault now
  have hstep := step_of_failsAlone hf s.going now
  refine ⟨s.state, ⟨_, hconcerns, hstep⟩, (step_of_awaiting s.going · now), ?_, fun later hrelease =>
    ?_⟩
  · rw [hstep]
    exact keepsOthers_of_concerns hconcerns s.state now w.leftToDo
  · obtain ⟨hcourse, hsituated⟩ := course_after hs ht ((now, input) :: later)
    exact ⟨Course.passesInOrder hcourse rfl s.up hrelease ht, hsituated.queue_eq_nil⟩

end Worker

/-! ## A refused reading -/

namespace Renewal

/-- The device hands over a reading and takes two more meanwhile. -/
def crowded : List (Nat × Input) :=
  [(0, .command (.open 1)), (1, .connected (.ok ())),
    (2, .command (.submit (reading 1) 101 900)), (2, .command (.submit (reading 2) 102 900)),
    (2, .command (.submit (reading 3) 103 900))]

/-- The hub refuses a reading. -/
def refusal : Fault := .service 400 "bad request" none

end Renewal

namespace Worker

/-- The device's first reading is refused while two others are queued. -/
theorem containsFailure_of_refusal :
    ((Worker.new Renewal.terms).after Renewal.crowded).FailsAlone 1 Renewal.refusal
        (.sent (.error Renewal.refusal)) ∧
      ((Worker.new Renewal.terms).after Renewal.crowded).ContainsFailure 3 1 Renewal.refusal
        (.sent (.error Renewal.refusal)) := by
  have hfails : ((Worker.new Renewal.terms).after Renewal.crowded).FailsAlone 1 Renewal.refusal
      (.sent (.error Renewal.refusal)) :=
    .unsent (by decide +kernel) (by decide) (by decide)
  exact ⟨hfails, containsFailure_of_run _ _ 3 hfails⟩

end Worker

end HubLink
