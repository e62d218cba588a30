import HubLink.Proofs.Connection.Attempts
import HubLink.Proofs.Connection.Waking

/-! # The horizon of a worker

However long the waits that callers, settings and the hub ask for, a worker places no instant more
than a year after the clock. What it keeps stays *within a year* of a time that no input comes after
(`Worker.WithinYear`): the deadlines of the operations, when messages were and are to be handed over,
when to connect again and when to renew the token. So it wants to be woken within that year as well
(`Worker.WithinYear.nextWake`). Each step keeps this (`Worker.withinYear_step`), and so does every run
(`Worker.withinYear_of_run`). -/

namespace HubLink

open Duration (year)

/-! ## Messages under way -/

/-- The instants of a message lie within a year of a time. -/
structure Tracked.WithinYear (T : Nat) (m : Tracked) : Prop where
  /-- It was handed over before. -/
  sent : ∀ t, m.sentAt = some t → t ≤ T
  /-- It is to be handed over again. -/
  retry : ∀ t, m.retryAt = some t → t ≤ T + year

namespace Tracked.WithinYear

variable {T now : Nat} {m : Tracked}

/-- A message that was just handed over. -/
theorem handOver (m : Tracked) (hnow : now ≤ T) : (m.handOver now).WithinYear T where
  sent t ht := by
    obtain rfl := Option.some.inj ht
    exact hnow
  retry t ht := nomatch ht

/-- Another attempt is planned after a wait of any length. -/
theorem postpone (hm : m.WithinYear T) (hnow : now ≤ T) (after : Nat) :
    WithinYear T { m with retryAt := some (deadlineAfter now after) } where
  sent := hm.sent
  retry t ht := by
    obtain rfl := Option.some.inj ht
    exact (deadlineAfter_le now after).trans (Nat.add_le_add_right hnow _)

/-- **A message is handed over again within the year**, however long its confirmation may take. -/
theorem resendAt (hm : m.WithinYear T) {ackTimeout t : Nat} (ht : m.resendAt ackTimeout = some t) :
    t ≤ T + year := by
  rw [Tracked.resendAt] at ht
  split at ht
  · cases hretry : m.retryAt with
    | some s =>
      rw [hretry] at ht
      obtain rfl := Option.some.inj ht
      exact hm.retry s hretry
    | none =>
      rw [hretry] at ht
      obtain ⟨s, hsent, rfl⟩ := Option.map_eq_some_iff.1 ht
      exact (deadlineAfter_le s ackTimeout).trans (Nat.add_le_add_right (hm.sent s hsent) _)
  · cases ht

end Tracked.WithinYear

/-! ## Trackers -/

namespace DeliveryTracker

/-- The instants of a tracker lie within a year of a time. -/
structure WithinYear (T : Nat) (t : DeliveryTracker) : Prop where
  /-- The operations end. -/
  deadline : ∀ id p, t.pending? id = some p → p.deadline ≤ T + year
  /-- The messages are handed over. -/
  message : ∀ id m, t.message? id = some m → m.WithinYear T

namespace WithinYear

variable {T now : Nat} {t : DeliveryTracker}

theorem empty (T : Nat) : WithinYear T .empty where
  deadline _ _ hp := nomatch hp
  message _ _ hm := nomatch hm

/-- What is left of a tracker. -/
theorem of_less (ht : t.WithinYear T) {t' : DeliveryTracker}
    (hp : ∀ id p, t'.pending? id = some p → t.pending? id = some p)
    (hm : ∀ id m, t'.message? id = some m → t.message? id = some m) : t'.WithinYear T where
  deadline id p h := ht.deadline id p (hp id p h)
  message id m h := ht.message id m (hm id m h)

theorem retireAll (ht : t.WithinYear T) (ids : List Nat) : (t.retireAll ids).WithinYear T := by
  refine ht.of_less (fun id p hp => ?_) (fun id m hm => ?_)
  · rw [pending?_retireAll] at hp
    split at hp
    · cases hp
    · exact hp
  · rw [message?_retireAll] at hm
    split at hm
    · cases hm
    · exact hm

theorem finish (ht : t.WithinYear T) (hc : t.Coherent) (id : Nat)
    (outcome : Except Fault (Option Response)) : (t.finish id outcome).state.WithinYear T := by
  obtain ⟨-, heq⟩ | ⟨p, -, heq⟩ := finish_eq hc id outcome
  · rw [heq]
    exact ht
  · rw [heq]
    exact ht.retireAll [id]

theorem expire (ht : t.WithinYear T) (now : Nat) : (t.expire now).state.WithinYear T := by
  rw [expire_eq]
  exact ht.retireAll _

/-- A message changes to one within the year. -/
theorem insert (ht : t.WithinYear T) {id : Nat} {m : Tracked} (hm : m.WithinYear T) :
    WithinYear T { t with messages := t.messages.insert id m } where
  deadline := ht.deadline
  message k x hx := by
    rw [message?_insert] at hx
    split at hx
    · exact Option.some.inj hx ▸ hm
    · exact ht.message k x hx

theorem sendFailed (ht : t.WithinYear T) (hc : t.Coherent) (hnow : now ≤ T) (policy : RetryPolicy)
    (id : Nat) (fault : Fault) : (t.sendFailed policy id fault now).state.WithinYear T := by
  obtain ⟨-, heq⟩ | ⟨p, -, heq⟩ | ⟨m, retryAt, hm, heq⟩ := sendFailed_eq hc policy id fault now
  · rw [heq]
    exact ht
  · rw [heq]
    exact ht.retireAll [id]
  · -- The wait for another attempt is the policy's, or the one the hub asked for.
    have hread : (t.sendFailed policy id fault now).state.message? id =
        some { m with retryAt } := by
      rw [heq, message?_insert, if_pos rfl]
    obtain ⟨m', after, hm', -, hnew⟩ := message?_sendFailed hc hread
    rw [heq, hnew]
    exact ht.insert ((ht.message id m' hm').postpone hnow after)

/-- **Taking on a message** whose deadline lies within the year. -/
theorem submit (ht : t.WithinYear T) (message : Outbound) (completion : Nat) {deadline : Nat}
    (hd : deadline ≤ T + year) : (t.submit message completion deadline).state.WithinYear T := by
  obtain ⟨-, heq⟩ | ⟨-, heq⟩ := t.submit_eq message completion deadline
  · rw [heq]
    exact ht
  · rw [heq]
    constructor
    · intro k p hp
      rw [pending?_enroll] at hp
      split at hp
      · exact Option.some.inj hp ▸ hd
      · exact ht.deadline k p hp
    · intro k m hm
      rw [message?_enroll] at hm
      split at hm
      · rw [← Option.some.inj hm]
        exact ⟨fun _ h => (nomatch h), fun _ h => (nomatch h)⟩
      · exact ht.message k m hm

end WithinYear

end DeliveryTracker

/-! ## Workers -/

/-- A submission comes with a deadline within a year of a time. -/
def Input.WithinYear (T : Nat) (input : Input) : Prop :=
  ∀ message completion deadline, input = .command (.submit message completion deadline) →
    deadline ≤ T + year

namespace Worker

/-- **The instants a worker keeps lie within a year of a time.** Only the limit of what the link is
busy with is a plain sum. -/
structure WithinYear (T : Nat) (w : Worker) : Prop where
  tracker : w.tracker.WithinYear T
  reconnect : ∀ t, w.reconnectAt = some t → t ≤ T + year
  renew : ∀ t, w.renewAt = some t → t ≤ T + year
  limit : ∀ b, w.busy = some b → b.limit ≤ T + w.terms.operationLimit

section Turns

variable {T now : Nat} {w : Worker}

theorem WithinYear.ended (hw : w.WithinYear T) : w.ended.WithinYear T where
  tracker := .empty T
  reconnect _ h := nomatch h
  renew _ h := nomatch h
  limit := hw.limit

theorem WithinYear.idle (hw : w.WithinYear T) : WithinYear T { w with busy := none } :=
  { hw with limit := fun _ h => nomatch h }

/-- A worker that is about to connect again. -/
theorem WithinYear.reconnecting (hw : w.WithinYear T) :
    WithinYear T { w with reconnectAt := none } :=
  { hw with reconnect := fun _ h => nomatch h }

/-- A worker without a token to renew. -/
theorem WithinYear.unrenewed (hw : w.WithinYear T) (queue : List Nat) :
    WithinYear T { w with renewAt := none, queue } :=
  { hw with renew := fun _ h => nomatch h }

theorem withinYear_track (hw : w.WithinYear T) {α : Type} {change : Change DeliveryTracker α}
    (hc : change.state.WithinYear T) : (w.track change).worker.WithinYear T :=
  { hw with tracker := hc }

theorem withinYear_enter (hw : w.WithinYear T) (state : ConnectionState) (reason : StatusReason) :
    (w.enter state reason).worker.WithinYear T := by
  rw [enter_worker]
  exact { hw with }

/-- **Another attempt to connect is planned within the year**, however long the hub says to wait. -/
theorem withinYear_planReconnect (hw : w.WithinYear T) (hnow : now ≤ T) (fault : Fault) :
    (w.planReconnect now fault).worker.WithinYear T := by
  unfold planReconnect
  split
  · rw [giveUp_worker]
    exact hw.ended
  · rename_i after _
    refine { hw with reconnect := fun t ht => ?_ }
    obtain rfl := Option.some.inj ht
    exact (deadlineAfter_le now after).trans (Nat.add_le_add_right hnow _)

theorem withinYear_connectFailed (hw : w.WithinYear T) (hnow : now ≤ T) (fault : Fault) :
    (w.connectFailed now fault).worker.WithinYear T := by
  rw [connectFailed, Turn.andThen_worker, Turn.andThen_worker]
  refine withinYear_planReconnect ?_ hnow fault
  split
  · exact withinYear_enter hw _ _
  · exact hw

theorem withinYear_linkLost (hw : w.WithinYear T) (hnow : now ≤ T) (fault : Fault) :
    (w.linkLost now fault).worker.WithinYear T := by
  rw [linkLost]
  split
  · rw [Turn.andThen_worker, Turn.andThen_worker]
    exact withinYear_planReconnect (withinYear_enter (hw.unrenewed []) _ _) hnow fault
  · exact hw

/-- **The token is renewed within the year**, however long it lives. -/
theorem withinYear_connectionUp (hw : w.WithinYear T) (hnow : now ≤ T) (reason : StatusReason) :
    (w.connectionUp now reason).worker.WithinYear T := by
  rw [connectionUp_eq, Turn.andThen_worker, enter_worker]
  refine { hw with reconnect := fun _ h => (nomatch h), renew := fun t ht => ?_ }
  obtain ⟨d, -, rfl⟩ := Option.map_eq_some_iff.1 ht
  exact (deadlineAfter_le now d).trans (Nat.add_le_add_right hnow _)

theorem withinYear_start (hw : w.WithinYear T) (hnow : now ≤ T) (job : Job) (effect : Effect)
    (next : List Task) : (w.start now job effect next).worker.WithinYear T := by
  refine { hw with limit := ?_ }
  rintro b ⟨⟩
  exact Nat.add_le_add_right hnow _

theorem withinYear_run (hw : w.WithinYear T) (hnow : now ≤ T) (tasks : List Task) :
    (run now tasks w).worker.WithinYear T := by
  induction tasks generalizing w with
  | nil => exact hw
  | cons task tasks ih =>
    cases task with
    | flush =>
      rw [run]
      split
      · split
        · rename_i hnext
          obtain ⟨-, m, -, -, -, -, rfl⟩ := nextToSend_eq_some hnext
          refine withinYear_start ?_ hnow _ _ _
          exact { hw with tracker := hw.tracker.insert (.handOver m hnow) }
        · exact ih { hw with }
      · exact ih hw
    | settle request => exact ih hw
    | reconnect due =>
      rw [run]
      split
      · exact withinYear_start hw.reconnecting hnow _ .connect _
      · exact ih hw
    | renew due =>
      rw [run]
      split
      · exact withinYear_start (withinYear_enter (hw.unrenewed w.queue) _ _) hnow _ .connect _
      · exact ih hw

theorem withinYear_enqueue (hw : w.WithinYear T) (id : Nat) : (w.enqueue id).WithinYear T := by
  rw [enqueue]
  split
  · exact hw
  · exact { hw with }

theorem withinYear_resendAll (hw : w.WithinYear T) (hc : w.tracker.Coherent) (hnow : now ≤ T)
    (ids : List Nat) : (resendAll now ids w).worker.WithinYear T := by
  induction ids generalizing w with
  | nil => exact hw
  | cons id ids ih =>
    have hfailed := withinYear_track hw
      (hw.tracker.sendFailed hc hnow w.terms.policy id .missingAcknowledgement)
    obtain ⟨tracker, queue, heq, hcoherent, -⟩ := resend_worker hc now id
    rw [resendAll, Turn.andThen_worker]
    refine ih ?_ (by rw [heq]; exact hcoherent)
    rw [resend, Turn.andThen_worker]
    split
    · exact withinYear_enqueue hfailed id
    · exact hfailed

/-! ## Steps -/

theorem withinYear_interrupted (hw : w.WithinYear T) (hnow : now ≤ T) (b : Busy)
    (reply : Option Nat) : (w.interrupted now b reply).worker.WithinYear T := by
  rw [interrupted, Turn.andThen_worker, Turn.andThen_worker, close_worker]
  refine withinYear_run ?_ hnow _
  cases reply with
  | none => exact { hw.ended with }
  | some reply => exact hw.ended

theorem withinYear_connectEnded (hw : w.WithinYear T) (hnow : now ≤ T) (b : Busy)
    (reason : StatusReason) (result : Except Fault Unit) :
    (w.connectEnded now b reason result).worker.WithinYear T := by
  cases result with
  | ok => exact withinYear_run (withinYear_connectionUp hw hnow reason) hnow _
  | error fault => exact withinYear_run (withinYear_connectFailed hw hnow fault) hnow _

theorem withinYear_sendEnded (hw : w.WithinYear T) (hc : w.tracker.Coherent) (hnow : now ≤ T)
    (b : Busy) (id : Nat) (result : Except Fault SendOutcome) :
    (w.sendEnded now b id result).worker.WithinYear T := by
  unfold sendEnded
  rw [Turn.andThen_worker]
  refine withinYear_run ?_ hnow _
  split
  · exact withinYear_track hw (hw.tracker.finish hc _ _)
  · exact hw
  · rename_i fault
    have hfailed := withinYear_track hw (hw.tracker.sendFailed hc hnow w.terms.policy id fault)
    rw [Turn.andThen_worker]
    split
    · exact withinYear_linkLost hfailed hnow fault
    · exact hfailed

theorem withinYear_stepBusy (hw : w.WithinYear T) (hc : w.tracker.Coherent) (hnow : now ≤ T)
    {b : Busy} (busy : w.busy = some b) {input : Input} (hi : input.WithinYear T) :
    (w.stepBusy now b input).worker.WithinYear T := by
  cases input with
  | command c =>
    cases c with
    | «open» reply =>
      rw [stepBusy, commandWhileBusy]
      split
      · exact hw
      · exact { hw with }
    | close reply => exact withinYear_interrupted hw.idle hnow b (some reply)
    | submit message completion deadline =>
      have htaken := withinYear_track hw
        (hw.tracker.submit message completion (hi message completion deadline rfl))
      rw [stepBusy, commandWhileBusy, Turn.andThen_worker]
      split
      · exact { htaken with }
      · exact htaken
    | cancel id => exact withinYear_track hw (hw.tracker.finish hc _ _)
    | settle request =>
      refine { hw with limit := ?_ }
      rintro _ ⟨⟩
      exact hw.limit b busy
  | abandoned => exact withinYear_interrupted hw.idle hnow b none
  | event e => exact hw
  | timer => exact withinYear_track hw (hw.tracker.expire now)
  | connected result =>
    rw [stepBusy]
    split
    · exact withinYear_connectEnded hw.idle hnow b _ result
    · exact hw
  | sent result =>
    rw [stepBusy]
    split
    · exact withinYear_sendEnded hw.idle hc hnow b _ result
    · exact hw
  | overtime =>
    rw [stepBusy]
    split
    · exact withinYear_connectEnded hw.idle hnow b _ _
    · exact withinYear_sendEnded hw.idle hc hnow b _ _

theorem withinYear_commandAtRest (hw : w.WithinYear T) (hc : w.tracker.Coherent) (hnow : now ≤ T)
    {c : Command} (hi : (Input.command c).WithinYear T) :
    (w.commandAtRest now c).worker.WithinYear T := by
  cases c with
  | «open» reply =>
    rw [commandAtRest]
    split
    · exact hw
    · exact { hw with }
    · exact { hw with }
    · split
      · exact hw
      · have hwaiting : WithinYear T { w with waiters := w.waiters ++ [reply], attempt := 0 } :=
          { hw with }
        exact withinYear_start (withinYear_enter hwaiting _ _) hnow _ .connect _
  | close reply =>
    rw [commandAtRest, Turn.andThen_worker, close_worker]
    exact hw.ended
  | submit message completion deadline =>
    rw [commandAtRest]
    split
    · exact hw
    · have htaken := withinYear_track hw
        (hw.tracker.submit message completion (hi message completion deadline rfl))
      rw [Turn.andThen_worker]
      split
      · split
        · exact withinYear_run (withinYear_enqueue htaken _) hnow _
        · exact htaken
      · exact htaken
  | cancel id => exact withinYear_track hw (hw.tracker.finish hc _ _)
  | settle request => exact hw

theorem withinYear_eventAtRest (hw : w.WithinYear T) (hc : w.tracker.Coherent) (hnow : now ≤ T)
    (e : Except Fault LinkEvent) : (w.eventAtRest now e).worker.WithinYear T := by
  unfold eventAtRest
  split
  · exact withinYear_track hw (hw.tracker.finish hc _ _)
  · exact withinYear_track hw (hw.tracker.sendFailed hc hnow _ _ _)
  · exact hw
  · exact withinYear_linkLost hw hnow _
  · exact withinYear_linkLost hw hnow _

theorem withinYear_wake (hw : w.WithinYear T) (hc : w.tracker.Coherent) (hnow : now ≤ T) :
    (w.wake now).worker.WithinYear T := by
  have hexpired := withinYear_track hw (hw.tracker.expire now)
  rw [wake, Turn.andThen_worker, Turn.andThen_worker]
  refine withinYear_run ?_ hnow _
  split
  · exact withinYear_resendAll hexpired (hc.expire now) hnow _
  · exact hexpired

/-- **Every step of a worker with a coherent tracker keeps its instants within the year.** -/
theorem withinYear_step (hw : w.WithinYear T) (hc : w.tracker.Coherent) (hnow : now ≤ T)
    {input : Input} (hi : input.WithinYear T) : (w.step now input).worker.WithinYear T := by
  rw [step]
  split
  · exact hw
  · split
    · rename_i busy
      exact withinYear_stepBusy hw hc hnow busy hi
    · unfold stepAtRest
      split
      · exact withinYear_commandAtRest hw hc hnow hi
      · rw [Turn.andThen_worker, close_worker]
        exact { hw.ended with }
      · exact withinYear_wake hw hc hnow
      · split
        · exact withinYear_eventAtRest hw hc hnow _
        · exact hw
      · exact hw
      · exact hw
      · exact hw

end Turns

/-! ## Runs -/

/-- **Along every run the instants stay within a year of a time** that no input comes after. -/
theorem withinYear_of_run (terms : Terms) {T : Nat} {inputs : List (Nat × Input)}
    (hinputs : ∀ i ∈ inputs, i.1 ≤ T ∧ i.2.WithinYear T) :
    ((Worker.new terms).after inputs).WithinYear T := by
  -- The induction is on the last input, as the tracker is known to be coherent after every run.
  induction inputs using List.reverseRecOn with
  | nil =>
    exact
      { tracker := .empty T
        reconnect := fun _ h => nomatch h
        renew := fun _ h => nomatch h
        limit := fun _ h => nomatch h }
  | append_singleton inputs i ih =>
    obtain ⟨hnow, hi⟩ := hinputs i (by simp)
    rw [after_concat]
    exact withinYear_step (ih fun j hj => hinputs j (by simp [hj])) (coherent_of_run terms inputs)
      hnow hi

/-! ## Waking

What is due at any time at all is due at the end of the year. -/

section Waking

variable {T now : Nat}

theorem isDue_of_le {due : Option Nat} (hdue : ∀ t, due = some t → t ≤ T + year)
    (h : isDue due now = true) : isDue due (T + year) = true := by
  obtain ⟨t, ht, -⟩ := isDue_eq_true_iff.1 h
  exact isDue_eq_true_iff.2 ⟨t, ht, hdue t ht⟩

theorem isDue_nextDeadline_year {t : DeliveryTracker} (ht : t.WithinYear T)
    (h : isDue t.nextDeadline now = true) : isDue t.nextDeadline (T + year) = true := by
  obtain ⟨id, p, hp, -⟩ := DeliveryTracker.isDue_nextDeadline_iff.1 h
  exact DeliveryTracker.isDue_nextDeadline_iff.2 ⟨id, p, hp, ht.deadline id p hp⟩

theorem isDue_nextResend_year {t : DeliveryTracker} (ht : t.WithinYear T) {ackTimeout : Nat}
    (h : isDue (t.nextResend ackTimeout) now = true) :
    isDue (t.nextResend ackTimeout) (T + year) = true := by
  obtain ⟨id, hid⟩ := DeliveryTracker.isDue_nextResend_iff.1 h
  obtain ⟨m, hm, hdue⟩ := DeliveryTracker.mem_dueForResend.1 hid
  have hyear : isDue (m.resendAt ackTimeout) (T + year) = true :=
    isDue_of_le (fun _ hs => (ht.message id m hm).resendAt hs) hdue
  exact DeliveryTracker.isDue_nextResend_iff.2
    ⟨id, DeliveryTracker.mem_dueForResend.2 ⟨m, hm, hyear⟩⟩

variable {w : Worker}

theorem WithinYear.isDue_restWake (hw : w.WithinYear T) (h : isDue w.restWake now = true) :
    isDue w.restWake (T + year) = true := by
  rw [isDue_restWake_iff] at h ⊢
  obtain hdeadline | ⟨hopen, hresend | hrenew⟩ | ⟨hstate, hreconnect⟩ := h
  · exact .inl (isDue_nextDeadline_year hw.tracker hdeadline)
  · exact .inr (.inl ⟨hopen, .inl (isDue_nextResend_year hw.tracker hresend)⟩)
  · exact .inr (.inl ⟨hopen, .inr (isDue_of_le hw.renew hrenew)⟩)
  · exact .inr (.inr ⟨hstate, isDue_of_le hw.reconnect hreconnect⟩)

/-- **A worker wants to be woken within the year.** -/
theorem WithinYear.nextWake (hw : w.WithinYear T) {t : Nat} (ht : w.nextWake = some t) :
    t ≤ T + year := by
  have hnow : isDue w.nextWake t = true := isDue_eq_true_iff.2 ⟨t, ht, Nat.le_refl t⟩
  have hyear : isDue w.nextWake (T + year) = true := by
    rw [Worker.nextWake] at hnow ⊢
    split
    · rename_i busy
      rw [busy] at hnow
      exact isDue_nextDeadline_year hw.tracker hnow
    · rename_i idle
      rw [idle] at hnow
      exact hw.isDue_restWake hnow
  obtain ⟨s, hs, hle⟩ := isDue_eq_true_iff.1 hyear
  obtain rfl := Option.some.inj (ht.symm.trans hs)
  exact hle

end Waking

end Worker

end HubLink
