import HubLink.Proofs.Connection.Resending

/-! # Quiet turns

Most of what a worker does has nothing to do with when a given message is handed over: it changes
its state, ends operations, closes or connects its link. Such a turn is *quiet* for the message
(`Turn.Quiet`): nothing is handed over or queued, and the message is as it was or no longer under
way. Quiet turns follow one another to quiet turns, so that each part of a step needs one statement
here and none of them is opened again. -/

namespace HubLink

namespace Worker

/-- The id of the message that the link takes. -/
def sending? (w : Worker) : Option Nat :=
  match w.busy with
  | some { job := .sending id, .. } => some id
  | _ => none

theorem sending?_of_idle {w : Worker} (idle : w.busy = none) : w.sending? = none := by
  rw [sending?, idle]

theorem sending?_of_busy {w : Worker} {b : Busy} {id : Nat} (busy : w.busy = some b)
    (job : b.job = .sending id) : w.sending? = some id := by
  obtain ⟨_, _, _, _⟩ := b
  obtain rfl : _ = Job.sending id := job
  rw [sending?, busy]

/-- The link takes a message exactly when it is busy with that. -/
theorem sending?_eq_some_iff {w : Worker} {id : Nat} :
    w.sending? = some id ↔ ∃ b, w.busy = some b ∧ b.job = .sending id := by
  refine ⟨fun h => ?_, fun ⟨b, busy, job⟩ => sending?_of_busy busy job⟩
  rw [sending?] at h
  split at h
  · rename_i busy
    obtain rfl := Option.some.inj h
    exact ⟨_, busy, rfl⟩
  · cases h

/-- A busy link that is connecting has that for its job. -/
theorem job_of_isConnecting {w : Worker} {b : Busy} (busy : w.busy = some b) (h : w.isConnecting) :
    ∃ reason, b.job = .connecting reason := by
  obtain ⟨job, _, _, _⟩ := b
  cases job with
  | connecting reason => exact ⟨reason, rfl⟩
  | sending id => simp [isConnecting, busy] at h

/-- A busy link that takes a message has that for its job. -/
theorem job_of_isSending {w : Worker} {b : Busy} (busy : w.busy = some b) (h : w.isSending) :
    ∃ id, b.job = .sending id := by
  obtain ⟨job, _, _, _⟩ := b
  cases job with
  | connecting reason => simp [isSending, busy] at h
  | sending id => exact ⟨id, rfl⟩

end Worker

namespace Turn

/-- **A turn is quiet for a message**, given the worker that takes it. -/
structure Quiet (id : Nat) (w : Worker) (t : Turn) : Prop where
  /-- Nothing is handed over. -/
  unsent : t.handOvers = []
  terms : t.worker.terms = w.terms
  /-- Nothing is queued. -/
  queue : t.worker.queue.Sublist w.queue
  /-- A message that is still under way is as it was. -/
  message : ∀ m, t.worker.tracker.message? id = some m → w.tracker.message? id = some m
  /-- The link takes no other message. -/
  sending : ∀ k, t.worker.sending? = some k → w.sending? = some k

namespace Quiet

variable {id : Nat} {w v : Worker} {t : Turn}

/-- One quiet turn after the other. -/
theorem andThen {f : Worker → Turn} (ht : t.Quiet id w) (hf : (f t.worker).Quiet id t.worker) :
    (t.andThen f).Quiet id w where
  unsent := by rw [handOvers_andThen, ht.unsent, hf.unsent, List.append_nil]
  terms := hf.terms.trans ht.terms
  queue := hf.queue.trans ht.queue
  message m hm := ht.message m (hf.message m hm)
  sending k hk := ht.sending k (hf.sending k hk)

/-- Answers and other effects besides hand-overs, while the message, the queue and the link are left
alone. -/
theorem of_same {es : List Effect} (hes : History.handOvers (es.map .did) = [])
    (hterms : v.terms = w.terms) (htracker : v.tracker = w.tracker) (hqueue : v.queue = w.queue)
    (hsending : ∀ k, v.sending? = some k → w.sending? = some k) :
    Quiet id w { worker := v, effects := es } where
  unsent := hes
  terms := hterms
  queue := by rw [hqueue]
  message m hm := by
    rw [← htracker]
    exact hm
  sending := hsending

/-- A turn that does nothing. -/
theorem rest : Quiet id w { worker := w } := of_same rfl rfl rfl rfl fun _ hk => hk

end Quiet

end Turn

namespace Worker

variable {w : Worker} {id : Nat}

/-! ## Changes of state -/

theorem quiet_enter (w : Worker) (state : ConnectionState) (reason : StatusReason) :
    (w.enter state reason).Quiet id w where
  unsent := handOvers_enter w state reason
  terms := by rw [enter_worker]
  queue := by rw [enter_worker]
  message m hm := by
    rw [enter_worker] at hm
    exact hm
  sending k hk := by
    rw [enter_worker] at hk
    exact hk

theorem quiet_answerWaiters (w : Worker) (result : Except Fault Unit) :
    (w.answerWaiters result).Quiet id w :=
  .of_same (handOvers_answerWaiters w result) rfl rfl rfl fun _ hk => hk

theorem quiet_release (w : Worker) : w.release.Quiet id w :=
  .of_same rfl rfl rfl rfl fun _ hk => hk

theorem quiet_settle (w : Worker) (request : SettleRequest) : (w.settle request).Quiet id w :=
  .of_same (handOvers_settle w request) rfl rfl rfl fun _ hk => hk

/-! ## Ends of operations -/

/-- A change of the tracker is quiet for a message that it keeps as it was or ends. -/
theorem quiet_track {α : Type} {change : Change DeliveryTracker α}
    (hm : ∀ m, change.state.message? id = some m → w.tracker.message? id = some m) :
    (w.track change).Quiet id w where
  unsent := handOvers_track w change
  terms := rfl
  queue := List.Sublist.refl _
  message := hm
  sending _ hk := hk

/-- Retiring ids is quiet for every message. -/
theorem quiet_of_retireAll {α : Type} {change : Change DeliveryTracker α} (ids : List Nat)
    (hs : change.state = w.tracker.retireAll ids) : (w.track change).Quiet id w := by
  refine quiet_track fun m hm => ?_
  rw [hs, DeliveryTracker.message?_retireAll] at hm
  split at hm
  · cases hm
  · exact hm

theorem quiet_finish (ht : w.tracker.Coherent) (k : Nat)
    (outcome : Except Fault (Option Response)) :
    (w.track (w.tracker.finish k outcome)).Quiet id w := by
  rcases DeliveryTracker.finish_eq ht k outcome with ⟨-, heq⟩ | ⟨p, -, heq⟩
  · exact quiet_of_retireAll [] (by rw [heq]; rfl)
  · exact quiet_of_retireAll [k] (by rw [heq]; rfl)

theorem quiet_expire (w : Worker) (now : Nat) :
    (w.track (w.tracker.expire now)).Quiet id w :=
  quiet_of_retireAll _ (by rw [DeliveryTracker.expire_eq])

/-- The failure of another message. -/
theorem quiet_sendFailed (ht : w.tracker.Coherent) {k : Nat} (hne : k ≠ id) (policy : RetryPolicy)
    (fault : Fault) (now : Nat) :
    (w.track (w.tracker.sendFailed policy k fault now)).Quiet id w := by
  obtain ⟨-, heq⟩ | ⟨p, -, heq⟩ | ⟨m, retryAt, -, heq⟩ :=
    DeliveryTracker.sendFailed_eq ht policy k fault now
  · exact quiet_of_retireAll [] (by rw [heq]; rfl)
  · exact quiet_of_retireAll [k] (by rw [heq]; rfl)
  · refine quiet_track fun x hx => ?_
    rw [heq, DeliveryTracker.message?_insert, if_neg hne] at hx
    exact hx

/-! ## The end of a connection -/

theorem quiet_shut (w : Worker) (reason : StatusReason) (fault : Fault) :
    (w.shut reason fault).Quiet id w := by
  refine ((quiet_enter w .closed reason).andThen (quiet_track fun m hm => ?_)).andThen
    (quiet_answerWaiters _ _)
  -- Nothing is under way any more.
  cases hm

/-- Forgetting plans and the queue comes before a quiet turn. -/
theorem quiet_of_forgetPlans {t : Turn} (ht : t.Quiet id w.forgetPlans) : t.Quiet id w where
  unsent := ht.unsent
  terms := ht.terms
  queue := ht.queue.trans (List.nil_sublist _)
  message := ht.message
  sending := ht.sending

theorem quiet_close (w : Worker) : w.close.Quiet id w := by
  rw [close]
  refine quiet_of_forgetPlans (.andThen ?_ (quiet_shut _ _ _))
  split
  · exact .rest
  · exact quiet_release _

theorem quiet_giveUp (w : Worker) (fault : Fault) : (w.giveUp fault).Quiet id w :=
  quiet_of_forgetPlans ((quiet_release _).andThen (quiet_shut _ _ _))

/-! ## Another attempt -/

theorem quiet_planReconnect (w : Worker) (now : Nat) (fault : Fault) :
    (w.planReconnect now fault).Quiet id w := by
  rcases planReconnect_eq w now fault with heq | ⟨-, due, heq⟩
  · rw [heq]
    exact quiet_giveUp w fault
  · rw [heq]
    exact .of_same rfl rfl rfl rfl fun _ hk => hk

theorem quiet_connectFailed (w : Worker) (now : Nat) (fault : Fault) :
    (w.connectFailed now fault).Quiet id w := by
  refine .andThen ((quiet_release w).andThen ?_) (quiet_planReconnect _ now fault)
  split
  · exact quiet_enter _ _ _
  · exact .rest

/-- A failed connect leaves the tracker coherent. -/
theorem coherent_connectFailed (ht : w.tracker.Coherent) (now : Nat) (fault : Fault) :
    (w.connectFailed now fault).worker.tracker.Coherent := by
  have hentered : (w.release.andThen fun w =>
      if w.state = .opening ∧ fault.isTransient then w.enter .reconnecting .communicationError
      else { worker := w }).worker.tracker.Coherent := by
    rw [Turn.andThen_worker]
    split
    · rw [enter_worker]
      exact ht
    · exact ht
  rw [connectFailed, Turn.andThen_worker]
  obtain heq | ⟨-, due, heq⟩ := planReconnect_eq (w.release.andThen fun w =>
      if w.state = .opening ∧ fault.isTransient then w.enter .reconnecting .communicationError
      else { worker := w }).worker now fault
  · rw [heq, giveUp_worker]
    exact DeliveryTracker.coherent_empty
  · rw [heq]
    exact hentered

theorem quiet_linkLost (w : Worker) (now : Nat) (fault : Fault) :
    (w.linkLost now fault).Quiet id w := by
  unfold linkLost
  split
  · refine .andThen ((quiet_release w).andThen ?_) (quiet_planReconnect _ now fault)
    have hentered : Turn.Quiet id _ _ :=
      quiet_enter { w with renewAt := none, queue := [] } .reconnecting .connectionLost
    exact { hentered with queue := hentered.queue.trans (List.nil_sublist _) }
  · exact .rest

theorem quiet_connect (w : Worker) (now : Nat) (reason : StatusReason) (next : List Task) :
    (w.connect now reason next).Quiet id w :=
  .of_same rfl rfl rfl rfl fun k hk => by cases hk

/-- The link is closed and connects again to present a fresh token. -/
theorem quiet_renew (w : Worker) (now : Nat) (next : List Task) :
    Turn.Quiet id w
      ((({ w with renewAt := none }.release).andThen (·.enter .reconnecting .tokenRenewal)).andThen
        (·.connect now .tokenRenewal next)) := by
  have hclosed : ({ w with renewAt := none }.release).Quiet id w :=
    .of_same rfl rfl rfl rfl fun _ hk => hk
  exact (hclosed.andThen (quiet_enter _ _ _)).andThen (quiet_connect _ now _ next)

/-! ## Queueing -/

theorem tracker_enqueue (w : Worker) (k : Nat) : (w.enqueue k).tracker = w.tracker := by
  unfold Worker.enqueue
  split <;> rfl

/-! ## The link at work -/

/-- Answering a command while the link is busy, unless the command closes the connection or submits
a message. -/
theorem quiet_commandWhileBusy (ht : w.tracker.Coherent) {b : Busy} (busy : w.busy = some b)
    (now : Nat) {c : Command} (hclose : ∀ reply, c ≠ .close reply)
    (hsubmit : ∀ message completion deadline, c ≠ .submit message completion deadline) :
    (w.commandWhileBusy now b c).Quiet id w := by
  cases c with
  | «open» reply =>
    simp only [commandWhileBusy]
    split <;> exact .of_same rfl rfl rfl rfl fun _ hk => hk
  | close reply => exact absurd rfl (hclose reply)
  | submit => exact absurd rfl (hsubmit _ _ _)
  | cancel k => exact quiet_finish ht k _
  | settle request =>
    refine .of_same rfl rfl rfl rfl fun k hk => ?_
    obtain ⟨_, hbusy, job⟩ := sending?_eq_some_iff.1 hk
    obtain rfl := Option.some.inj hbusy
    exact sending?_of_busy busy job

/-! ## The link at rest -/

/-- Answering a command while the link is at rest, unless the command submits a message. -/
theorem quiet_commandAtRest (ht : w.tracker.Coherent) (now : Nat) {c : Command}
    (hsubmit : ∀ message completion deadline, c ≠ .submit message completion deadline) :
    (w.commandAtRest now c).Quiet id w := by
  cases c with
  | «open» reply =>
    rw [commandAtRest]
    split
    · exact .of_same rfl rfl rfl rfl fun _ hk => hk
    · exact .of_same rfl rfl rfl rfl fun _ hk => hk
    · exact .of_same rfl rfl rfl rfl fun _ hk => hk
    · split
      · exact .of_same rfl rfl rfl rfl fun _ hk => hk
      · have hopening : Turn.Quiet id _ _ :=
          (quiet_enter { w with waiters := w.waiters ++ [reply], attempt := 0 } .opening
            .clientOpen).andThen (f := (·.connect now .connected []))
              (quiet_connect _ now .connected [])
        exact { hopening with }
  | close reply =>
    exact (quiet_close w).andThen
      (f := fun v => { worker := v, effects := [.reply reply (.ok ())] })
      (.of_same rfl rfl rfl rfl fun _ hk => hk)
  | submit => exact absurd rfl (hsubmit _ _ _)
  | cancel k => exact quiet_finish ht k _
  | settle request => exact quiet_settle w request

/-- Nobody is left who could send a command. -/
theorem quiet_abandoned (w : Worker) :
    (w.close.andThen fun v => { worker := { v with stopped := true } }).Quiet id w :=
  (quiet_close w).andThen (f := fun v => { worker := { v with stopped := true } })
    (.of_same rfl rfl rfl rfl fun _ hk => hk)

/-- Taking an event of the link, unless it is the rejection of a message. -/
theorem quiet_eventAtRest (ht : w.tracker.Coherent) (now : Nat) {e : Except Fault LinkEvent}
    (hrejected : ∀ k fault, e ≠ .ok (.rejected k fault)) : (w.eventAtRest now e).Quiet id w := by
  match e with
  | .ok (.acknowledged k response) => exact quiet_finish ht k _
  | .ok (.rejected k fault) => exact absurd rfl (hrejected k fault)
  | .ok (.notification n) => exact .of_same rfl rfl rfl rfl fun _ hk => hk
  | .ok (.disconnected fault) => exact quiet_linkLost w now fault
  | .error fault => exact quiet_linkLost w now fault

end Worker

end HubLink
