import HubLink.Proofs.Connection.Runs
import HubLink.Proofs.Delivery.Due

/-! # Waking on time

A worker whose link is not busy asks to be woken at an instant. The instant is exact: woken earlier
it does nothing at all, and woken then or later it does something that was due
(`Worker.wakesOnTime_of_run`). So a worker neither sleeps past its work nor spins. -/

namespace HubLink

namespace Worker

variable {w : Worker} {now : Nat}

/-- **Something that was due is done** among these effects when a worker is woken. -/
inductive DoesDue (w : Worker) (now : Nat) (es : List Effect) : Prop where
  /-- An operation whose deadline has passed ends with a timeout. -/
  | expires {id : Nat} {p : PendingCorrelation} (waits : w.tracker.pending? id = some p)
      (overdue : p.deadline ≤ now) (ends : .complete (p.resolve id (.error .timeout)) ∈ es)
  /-- A message that is to be sent again is handed over. -/
  | sends {id due : Nat} {m : Tracked} (state : w.state = .open)
      (tracked : w.tracker.message? id = some m)
      (scheduled : m.resendAt w.terms.ackTimeout = some due) (elapsed : due ≤ now)
      (sends : .send (m.handOver now).message ∈ es)
  /-- A message that is to be sent again fails, because it was sent often enough. -/
  | fails {id due : Nat} {m : Tracked} {p : PendingCorrelation} (state : w.state = .open)
      (tracked : w.tracker.message? id = some m)
      (scheduled : m.resendAt w.terms.ackTimeout = some due) (elapsed : due ≤ now)
      (spent : w.terms.policy.decide Fault.missingAcknowledgement.kind m.message.retryCount =
        .giveUp)
      (waits : w.tracker.pending? id = some p)
      (ends : .complete (p.resolve id (.error .missingAcknowledgement)) ∈ es)
  /-- The link connects again. -/
  | reconnects {due : Nat} (state : w.state = .reconnecting) (planned : w.reconnectAt = some due)
      (elapsed : due ≤ now) (connects : .connect ∈ es)
  /-- The link is closed and connects again to renew the token. -/
  | renews {due : Nat} (state : w.state = .open) (planned : w.renewAt = some due)
      (elapsed : due ≤ now)
      (connects : es = [.release, .tell (.status .reconnecting .tokenRenewal), .connect])

/-- **A worker is woken neither too early nor in vain.** -/
structure WakesOnTime (w : Worker) (now : Nat) : Prop where
  /-- Before the time at which it wants to be woken nothing happens. -/
  early : (∀ due, w.nextWake = some due → now < due) → w.wake now = { worker := w }
  /-- From then on something that was due is done. -/
  onTime : ∀ due, w.nextWake = some due → due ≤ now → w.DoesDue now (w.wake now).effects

/-! ## Nothing is due -/

/-- The tasks of a waking with nothing queued and no plan due change nothing. -/
theorem run_of_not_isDue (clear : w.queue = [])
    (hreconnect : ¬(w.state = .reconnecting ∧ isDue w.reconnectAt now))
    (hrenew : ¬(w.state = .open ∧ isDue w.renewAt now)) :
    run now [.flush, .reconnect now, .renew now] w = { worker := w } := by
  have hflush : run now [.flush, .reconnect now, .renew now] w =
      run now [.reconnect now, .renew now] w := by
    rw [run]
    split
    · rw [clear, nextToSend]
      simp only
      rw [← clear]
    · rfl
  rw [hflush, run, if_neg hreconnect, run, if_neg hrenew, run]

/-- With nothing overdue a waking begins with what is to be sent again. -/
theorem wake_of_not_overdue (h : isDue w.tracker.nextDeadline now = false) :
    w.wake now =
      (if w.state = .open then
        resendAll now (w.tracker.dueForResend now w.terms.ackTimeout) w
      else { worker := w }).andThen (run now [.flush, .reconnect now, .renew now]) := by
  have hexpire : w.track (w.tracker.expire now) = { worker := w } := by
    rw [DeliveryTracker.expire_of_not_isDue h]
    rfl
  rw [wake, hexpire, Turn.andThen_of_rest]

/-! ## Sending again -/

/-- **A message is left alone**: it is under way as before, and the queue begins as before. -/
structure LeavesAlone (id : Nat) (w v : Worker) : Prop where
  message : v.tracker.message? id = w.tracker.message? id
  pending : v.tracker.pending? id = w.tracker.pending? id
  queue : w.queue <+: v.queue

/-- Sending another message again leaves a message alone. -/
theorem leavesAlone_resend (ht : w.tracker.Coherent) {id k : Nat} (hne : k ≠ id) :
    LeavesAlone id w (w.resend now k).worker := by
  have hsame : LeavesAlone id w
      (w.track (w.tracker.sendFailed w.terms.policy k .missingAcknowledgement now)).worker := by
    rw [track]
    obtain ⟨-, heq⟩ | ⟨p, -, heq⟩ | ⟨m, retryAt, -, heq⟩ :=
      DeliveryTracker.sendFailed_eq ht w.terms.policy k .missingAcknowledgement now
    · rw [heq]
      exact ⟨rfl, rfl, List.prefix_refl _⟩
    · rw [heq]
      refine ⟨?_, ?_, List.prefix_refl _⟩
      · rw [DeliveryTracker.message?_retire, if_neg (Ne.symm hne)]
      · rw [DeliveryTracker.pending?_retire, if_neg (Ne.symm hne)]
    · rw [heq]
      refine ⟨?_, rfl, List.prefix_refl _⟩
      rw [DeliveryTracker.message?_insert, if_neg hne]
  rw [resend, Turn.andThen_worker]
  split
  · rw [enqueue]
    split
    · exact hsame
    · exact { hsame with queue := hsame.queue.trans (List.prefix_append _ _) }
  · exact hsame

/-- Sending other messages again leaves a message alone. -/
theorem leavesAlone_resendAll (ht : w.tracker.Coherent) {id : Nat} {ids : List Nat}
    (hid : id ∉ ids) : LeavesAlone id w (resendAll now ids w).worker := by
  induction ids generalizing w with
  | nil => exact ⟨rfl, rfl, List.prefix_refl _⟩
  | cons k ids ih =>
    rw [List.mem_cons, not_or] at hid
    obtain ⟨tracker, queue, heq, hcoherent, -⟩ := resend_worker ht now k
    have hfirst : LeavesAlone id w (w.resend now k).worker :=
      leavesAlone_resend ht (Ne.symm hid.1)
    have hrest : LeavesAlone id (w.resend now k).worker
        (resendAll now ids (w.resend now k).worker).worker := by
      refine ih ?_ hid.2
      rw [heq]
      exact hcoherent
    exact
      { message := hrest.message.trans hfirst.message
        pending := hrest.pending.trans hfirst.pending
        queue := hfirst.queue.trans hrest.queue }

/-- **A message that is to be sent again** fails, or is queued and stays as it was handed over. -/
theorem resend_spec (ht : w.tracker.Coherent) {id : Nat} {m : Tracked}
    (hm : w.tracker.message? id = some m) (clear : w.queue = []) (now : Nat) :
    (w.terms.policy.decide Fault.missingAcknowledgement.kind m.message.retryCount = .giveUp ∧
        ∃ p, w.tracker.pending? id = some p ∧
          .complete (p.resolve id (.error .missingAcknowledgement)) ∈
            (w.resend now id).effects) ∨
      (∃ retryAt, (w.resend now id).worker.tracker.message? id = some { m with retryAt }) ∧
        (w.resend now id).worker.queue = [id] ∧ (w.resend now id).worker.tracker.Coherent := by
  have hget : w.tracker.messages.get? id = some m := hm
  cases hd : w.terms.policy.decide Fault.missingAcknowledgement.kind m.message.retryCount with
  | giveUp =>
    obtain ⟨p, hp⟩ := ht.pending_of_message hm
    have hfailed := DeliveryTracker.sendFailed_of_giveUp ht hm hp hd now
    refine .inl ⟨rfl, p, hp, ?_⟩
    simp [resend, track, hfailed, Turn.andThen]
  | retry after =>
    have hcoherent := ht.sendFailed w.terms.policy id .missingAcknowledgement now
    simp only [DeliveryTracker.sendFailed, hget, hd] at hcoherent
    refine .inr ⟨⟨some (deadlineAfter now after), ?_⟩, ?_, ?_⟩
    · simp [resend, track, DeliveryTracker.sendFailed, hget, hd, enqueue, clear,
        DeliveryTracker.message?_insert]
    · simp [resend, track, DeliveryTracker.sendFailed, hget, hd, enqueue, clear]
    · simpa [resend, track, DeliveryTracker.sendFailed, hget, hd, enqueue, clear] using hcoherent

/-- What is queued first and under way is handed over first. -/
theorem send_mem_run_flush (hopen : w.state = .open) {id : Nat} {m : Tracked}
    (hm : w.tracker.message? id = some m) (hq : [id] <+: w.queue) (tasks : List Task) :
    .send (m.handOver now).message ∈ (run now (.flush :: tasks) w).effects := by
  obtain ⟨queue, hqueue⟩ := hq
  have hget : w.tracker.messages.get? id = some m := hm
  have hnext : nextToSend w.tracker now w.queue = some (id, (m.handOver now).message,
      { w.tracker with messages := w.tracker.messages.insert id (m.handOver now) }, queue) := by
    rw [← hqueue, List.singleton_append, nextToSend, DeliveryTracker.markSent, hget]
  rw [run, if_pos hopen, hnext]
  exact List.mem_singleton_self _

/-- **When a message is to be sent again**, one of these messages is handed over or fails. -/
theorem doesDue_of_dueForResend (hopen : w.state = .open) (clear : w.queue = [])
    (ht : w.tracker.Coherent) {k : Nat}
    (hk : k ∈ w.tracker.dueForResend now w.terms.ackTimeout) (tasks : List Task) :
    w.DoesDue now ((resendAll now (w.tracker.dueForResend now w.terms.ackTimeout) w).andThen
      (run now (.flush :: tasks))).effects := by
  have hsorted : (w.tracker.dueForResend now w.terms.ackTimeout).Pairwise (· < ·) :=
    SortedMap.keys_pairwise _
  have hmem (id : Nat) (hid : id ∈ w.tracker.dueForResend now w.terms.ackTimeout) :=
    DeliveryTracker.mem_dueForResend.1 hid
  cases hids : w.tracker.dueForResend now w.terms.ackTimeout with
  | nil => simp [hids] at hk
  | cons id ids =>
    -- The first of the messages decides; the others come after it in the queue.
    rw [hids, List.pairwise_cons] at hsorted
    have hid : id ∉ ids := fun hin => Nat.lt_irrefl id (hsorted.1 id hin)
    obtain ⟨m, hm, hdue⟩ := hmem id (by simp [hids])
    obtain ⟨due, hscheduled, helapsed⟩ := isDue_eq_true_iff.1 hdue
    rw [Turn.andThen_effects, resendAll, Turn.andThen_effects, Turn.andThen_worker]
    obtain ⟨hspent, p, hp, hends⟩ | ⟨⟨retryAt, hkept⟩, hqueue, hcoherent⟩ :=
      resend_spec ht hm clear now
    · refine .fails hopen hm hscheduled helapsed hspent hp ?_
      exact List.mem_append_left _ (List.mem_append_left _ hends)
    · have halone : LeavesAlone id (w.resend now id).worker
          (resendAll now ids (w.resend now id).worker).worker := leavesAlone_resendAll hcoherent hid
      have hkept' := halone.message.trans hkept
      have hprefix := halone.queue
      rw [hqueue] at hprefix
      have hstate : (resendAll now ids (w.resend now id).worker).worker.state = .open := by
        obtain ⟨tracker, queue, hfirst, -⟩ := resend_worker ht now id
        obtain ⟨tracker', queue', hrest, -⟩ := resendAll_worker hcoherent now ids
        rw [hrest, hfirst]
        exact hopen
      refine .sends hopen hm hscheduled helapsed (List.mem_append_right _ ?_)
      exact send_mem_run_flush hstate hkept' hprefix tasks

/-! ## A waking -/

/-- A deadline that has passed is looked for first. -/
theorem doesDue_of_overdue (h : isDue w.tracker.nextDeadline now = true) :
    w.DoesDue now (w.wake now).effects := by
  obtain ⟨id, p, hp, hle, hends⟩ := DeliveryTracker.expire_resolves h
  refine .expires hp hle ?_
  rw [wake, Turn.andThen_effects, Turn.andThen_effects]
  exact List.mem_append_left _ (List.mem_append_left _ (List.mem_map_of_mem hends))

/-- When the wait for another attempt is over, the link connects. -/
theorem doesDue_of_reconnect (hstate : w.state = .reconnecting)
    (h : isDue w.reconnectAt now = true) (hdeadline : isDue w.tracker.nextDeadline now = false) :
    w.DoesDue now (w.wake now).effects := by
  obtain ⟨due, hplanned, helapsed⟩ := isDue_eq_true_iff.1 h
  refine .reconnects hstate hplanned helapsed ?_
  rw [wake_of_not_overdue hdeadline, if_neg (by simp [hstate]), Turn.andThen_of_rest, run,
    if_neg (by simp [hstate]), run, if_pos ⟨hstate, h⟩]
  exact List.mem_singleton_self _

/-- When it is time to renew the token and no message is to be sent again, the link is closed and
connects again. -/
theorem doesDue_of_renew (hopen : w.state = .open) (clear : w.queue = [])
    (h : isDue w.renewAt now = true) (hdeadline : isDue w.tracker.nextDeadline now = false)
    (hresend : w.tracker.dueForResend now w.terms.ackTimeout = []) :
    w.DoesDue now (w.wake now).effects := by
  obtain ⟨due, hplanned, helapsed⟩ := isDue_eq_true_iff.1 h
  refine .renews hopen hplanned helapsed ?_
  have hreconnect : ¬(w.state = .reconnecting ∧ isDue w.reconnectAt now = true) := by simp [hopen]
  rw [wake_of_not_overdue hdeadline, if_pos hopen, hresend, resendAll, Turn.andThen_of_rest, run,
    if_pos hopen, clear, nextToSend]
  simp only [run, hopen, h, release, enter, connect, start, Turn.andThen, and_self, reduceCtorEq,
    false_and, ↓reduceIte]
  rfl

/-- The time at which a worker at rest wants to be woken is due exactly when a deadline or a plan of
its state is. -/
theorem isDue_restWake_iff :
    isDue w.restWake now = true ↔
      isDue w.tracker.nextDeadline now = true ∨
        (w.state = .open ∧ (isDue (w.tracker.nextResend w.terms.ackTimeout) now = true ∨
          isDue w.renewAt now = true)) ∨
        (w.state = .reconnecting ∧ isDue w.reconnectAt now = true) := by
  cases hstate : w.state <;> simp [restWake, hstate]

/-- Nothing is to be sent again while no resend is due. -/
theorem dueForResend_eq_nil (h : ¬isDue (w.tracker.nextResend w.terms.ackTimeout) now = true) :
    w.tracker.dueForResend now w.terms.ackTimeout = [] := by
  rw [List.eq_nil_iff_forall_not_mem]
  intro id hid
  exact h (DeliveryTracker.isDue_nextResend_iff.2 ⟨id, hid⟩)

/-- **Woken while nothing is due, a worker with nothing queued does nothing.** -/
theorem wake_of_not_isDue (clear : w.queue = []) (h : ¬isDue w.restWake now = true) :
    w.wake now = { worker := w } := by
  rw [isDue_restWake_iff, not_or, not_or] at h
  obtain ⟨hdeadline, hserving, hreconnect⟩ := h
  have hrenew : ¬(w.state = .open ∧ isDue w.renewAt now = true) := fun hdue =>
    hserving ⟨hdue.1, .inr hdue.2⟩
  have hresend : (if w.state = .open then
      resendAll now (w.tracker.dueForResend now w.terms.ackTimeout) w
    else { worker := w }) = { worker := w } := by
    split
    · rename_i hopen
      rw [dueForResend_eq_nil fun hdue => hserving ⟨hopen, .inl hdue⟩, resendAll]
    · rfl
  rw [wake_of_not_overdue (Bool.eq_false_iff.2 hdeadline), hresend, Turn.andThen_of_rest]
  exact run_of_not_isDue clear hreconnect hrenew

/-- **Woken while something is due, a worker with nothing queued does it.** -/
theorem doesDue_of_isDue (clear : w.queue = []) (ht : w.tracker.Coherent)
    (h : isDue w.restWake now = true) : w.DoesDue now (w.wake now).effects := by
  by_cases hdeadline : isDue w.tracker.nextDeadline now = true
  · exact doesDue_of_overdue hdeadline
  have hnone := Bool.eq_false_iff.2 hdeadline
  obtain hdue | ⟨hopen, hdue⟩ | ⟨hstate, hdue⟩ := isDue_restWake_iff.1 h
  · exact absurd hdue hdeadline
  · by_cases hresend : isDue (w.tracker.nextResend w.terms.ackTimeout) now = true
    · -- What is to be sent again comes before the renewal of the token.
      obtain ⟨k, hk⟩ := DeliveryTracker.isDue_nextResend_iff.1 hresend
      rw [wake_of_not_overdue hnone, if_pos hopen]
      exact doesDue_of_dueForResend hopen clear ht hk _
    · have hrenew := hdue.resolve_left hresend
      exact doesDue_of_renew hopen clear hrenew hnone (dueForResend_eq_nil hresend)
  · exact doesDue_of_reconnect hstate hdue hnone

/-- Between steps nothing is queued at a worker whose link is not busy. -/
theorem Situated.queue_eq_nil {up : Bool} (hs : w.Situated up) (idle : w.busy = none) :
    w.queue = [] := by
  obtain (s | s) | ⟨-, clear⟩ := hs.of_idle idle
  · exact s.queue
  · exact s.queue
  · exact clear

/-- **A worker whose link is not busy is woken on time**, wherever in a run: before the time it asks
for nothing happens, and from then on something that was due is done. -/
theorem wakesOnTime_of_run (terms : Terms) (inputs : List (Nat × Input))
    (idle : ((Worker.new terms).after inputs).busy = none) (now : Nat) :
    ((Worker.new terms).after inputs).WakesOnTime now := by
  have ht := coherent_of_run terms inputs
  have clear := (situated_of_run terms inputs).queue_eq_nil idle
  generalize (Worker.new terms).after inputs = w at idle ht clear
  have hwake : w.nextWake = w.restWake := by rw [nextWake, idle]
  refine ⟨fun hlater => ?_, fun due hdue hle => ?_⟩
  · refine wake_of_not_isDue clear fun h => ?_
    obtain ⟨due, hdue, hle⟩ := isDue_eq_true_iff.1 h
    exact Nat.not_lt_of_le hle (hlater due (hwake.trans hdue))
  · exact doesDue_of_isDue clear ht (isDue_eq_true_iff.2 ⟨due, hwake.symm.trans hdue, hle⟩)

/-- A device that connected asks to be woken when its token is to be renewed, and is woken on
time. -/
theorem wakesOnTime_of_device :
    ((Worker.new Renewal.terms).after (Renewal.before.take 2)).nextWake = some 51 ∧
      ((Worker.new Renewal.terms).after (Renewal.before.take 2)).WakesOnTime 50 ∧
      ((Worker.new Renewal.terms).after (Renewal.before.take 2)).WakesOnTime 51 := by
  have idle : ((Worker.new Renewal.terms).after (Renewal.before.take 2)).busy = none := by
    decide +kernel
  exact ⟨by decide +kernel, wakesOnTime_of_run _ _ idle 50, wakesOnTime_of_run _ _ idle 51⟩

end Worker

end HubLink
