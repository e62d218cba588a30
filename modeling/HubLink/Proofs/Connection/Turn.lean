import HubLink.Proofs.Connection.Move

/-! # Turns as courses

Each turn a worker takes on its way through a step is followed by a course of moves. For every turn
there is a statement of what it leaves of the worker, one of whether it closes the link, and one
that it is followed (`Follows`), so that steps are put together from these alone. -/

namespace HubLink

open Relation

/-- Whether an effect closes the link. -/
def Effect.isRelease : Effect → Bool
  | .release => true
  | _ => false

/-- Whether an effect is an answer or news for the application, other than that the token is
renewed. -/
def Effect.isNews : Effect → Bool
  | .tell (.status .reconnecting .tokenRenewal) => false
  | .reply .. | .tell _ => true
  | _ => false

theorem Effect.isPlain_of_isNews {e : Effect} (hn : e.isNews) : e.isPlain := by
  unfold isNews at hn
  unfold isPlain
  split at hn <;> simp_all

namespace History

/-- Effects leave the link up unless one of them closes it. -/
theorem foldl_linkUp_did (up : Bool) (es : List Effect) :
    (es.map .did).foldl Occurrence.linkUp up = (up && !es.any (·.isRelease)) := by
  induction es generalizing up with
  | nil => simp
  | cons e es ih =>
    rw [List.map_cons, List.foldl_cons, ih]
    cases e <;> simp [Occurrence.linkUp, Effect.isRelease]

/-- Effects do not begin to hand messages over again. -/
theorem foldl_replaying_did (r : Bool) (es : List Effect) :
    (es.map .did).foldl Occurrence.replaying r = (r && !es.any (·.isRelease)) := by
  induction es generalizing r with
  | nil => simp
  | cons e es ih =>
    rw [List.map_cons, List.foldl_cons, ih]
    cases e <;> simp [Occurrence.replaying, Effect.isRelease]

end History

namespace Turn

@[simp] theorem andThen_worker (t : Turn) (f : Worker → Turn) :
    (t.andThen f).worker = (f t.worker).worker := rfl

@[simp] theorem andThen_effects (t : Turn) (f : Worker → Turn) :
    (t.andThen f).effects = t.effects ++ (f t.worker).effects := rfl

/-- What follows a turn that does nothing. -/
theorem andThen_of_rest (w : Worker) (f : Worker → Turn) :
    Turn.andThen { worker := w } f = f w := by
  simp [andThen]

theorem andThen_assoc (t : Turn) (f g : Worker → Turn) :
    (t.andThen f).andThen g = t.andThen fun w => (f w).andThen g := by
  simp [andThen]

/-- Whether a turn closes the link. -/
def releases (t : Turn) : Bool := t.effects.any (·.isRelease)

@[simp] theorem releases_andThen (t : Turn) (f : Worker → Turn) :
    (t.andThen f).releases = (t.releases || (f t.worker).releases) := by
  simp [releases]

/-- The moment after a turn. -/
def after (t : Turn) (h : List Occurrence) : Moment := ⟨h ++ t.effects.map .did, t.worker⟩

/-- The link is up after a turn if it was before and the turn does not close it. -/
theorem linkUp_after (t : Turn) (h : List Occurrence) :
    History.linkUp (h ++ t.effects.map .did) = (History.linkUp h && !t.releases) := by
  rw [History.linkUp_append, History.foldl_linkUp_did]
  rfl

/-- A turn does not begin to hand messages over again. -/
theorem replaying_after (t : Turn) (h : List Occurrence) :
    History.replaying (h ++ t.effects.map .did) = (History.replaying h && !t.releases) := by
  rw [History.replaying_append, History.foldl_replaying_did]
  rfl

end Turn

/-- **A turn is followed by a course** from a worker with a history. -/
def Follows (h : List Occurrence) (w : Worker) (t : Turn) : Prop := Course ⟨h, w⟩ (t.after h)

namespace Follows

variable {h : List Occurrence} {w v : Worker} {t : Turn}

/-- One turn after the other. -/
theorem andThen {f : Worker → Turn} (ht : Follows h w t)
    (hf : Follows (h ++ t.effects.map .did) t.worker (f t.worker)) : Follows h w (t.andThen f) := by
  have heq : (t.andThen f).after h = (f t.worker).after (h ++ t.effects.map .did) := by
    simp [Turn.after]
  rw [Follows, heq]
  exact ReflTransGen.trans ht hf

/-- Changes besides the tracker and the queue come first. -/
theorem of_aside (ht : v.tracker = w.tracker) (hq : v.queue = w.queue) (hterms : v.terms = w.terms)
    (hf : Follows h v t) : Follows h w t :=
  ReflTransGen.head (.aside ht hq hterms) hf

/-- A turn without effects that changes neither the tracker nor the queue. -/
theorem aside (ht : v.tracker = w.tracker) (hq : v.queue = w.queue) (hterms : v.terms = w.terms) :
    Follows h w { worker := v } := by
  rw [Follows, Turn.after, List.map_nil, List.append_nil]
  exact .single (.aside ht hq hterms)

/-- A turn that does nothing. -/
theorem rest : Follows h w { worker := w } := aside rfl rfl rfl

/-- The queue is emptied while the link is down. -/
theorem of_cleared (hd : History.linkUp h = false) (hf : Follows h { w with queue := [] } t) :
    Follows h w t :=
  ReflTransGen.head (.cleared (.inl hd)) hf

/-- Answers and news change nothing. -/
theorem news {es : List Effect} (hes : ∀ e ∈ es, e.isNews) :
    Follows h w { worker := w, effects := es } := by
  rw [Follows, Turn.after]
  induction es generalizing h with
  | nil => simpa using ReflTransGen.refl
  | cons e es ih =>
    rw [List.forall_mem_cons] at hes
    have hmove : Move ⟨h, w⟩ ⟨h ++ [.did e], w⟩ := by
      refine .did (e.isPlain_of_isNews hes.1) ?_ ?_
      · rintro rfl
        cases hes.1
      · rintro request rfl
        cases hes.1
    have hrest := ih (h := h ++ [.did e]) hes.2
    rw [List.append_assoc] at hrest
    exact ReflTransGen.head hmove hrest

end Follows

/-- Only a failure that trying again may cure is answered by another attempt. -/
theorem RetryPolicy.isTransient_of_retry {policy : RetryPolicy} {kind : FailureKind}
    {n after : Nat} (h : policy.decide kind n = .retry after) : kind.isTransient := by
  unfold RetryPolicy.decide Curve.decide at h
  split at h
  · cases h
  · rename_i hcurable
    simp only [Bool.or_eq_true, Bool.not_eq_true', not_or, Bool.not_eq_false] at hcurable
    exact hcurable.1

namespace Worker

variable {h : List Occurrence} {w : Worker}

/-! ## Changes of state -/

theorem enter_worker (w : Worker) (state : ConnectionState) (reason : StatusReason) :
    (w.enter state reason).worker = { w with state } := by
  unfold enter
  split
  · rename_i h
    subst h
    rfl
  · rfl

theorem releases_enter (w : Worker) (state : ConnectionState) (reason : StatusReason) :
    (w.enter state reason).releases = false := by
  unfold enter
  split <;> rfl

theorem follows_enter {state : ConnectionState} {reason : StatusReason}
    (hn : (Effect.tell (.status state reason)).isNews) : Follows h w (w.enter state reason) := by
  unfold enter
  split
  · exact .rest
  · refine .of_aside (v := { w with state }) rfl rfl rfl (.news ?_)
    exact List.forall_mem_singleton.2 hn

theorem releases_answerWaiters (w : Worker) (result : Except Fault Unit) :
    (w.answerWaiters result).releases = false := by
  simp [answerWaiters, Turn.releases, Effect.isRelease]

theorem follows_answerWaiters (result : Except Fault Unit) :
    Follows h w (w.answerWaiters result) := by
  refine .of_aside (v := { w with waiters := [] }) rfl rfl rfl (.news ?_)
  simp [Effect.isNews]

theorem follows_release : Follows h w w.release := by
  refine ReflTransGen.single (.did rfl ?_ ?_)
  · rintro ⟨⟩
  · rintro _ ⟨⟩

/-! ## Ends of operations -/

theorem releases_track {α : Type} (w : Worker) (change : Change DeliveryTracker α) :
    (w.track change).releases = false := by
  simp [track, Turn.releases, Effect.isRelease]

/-- A change of the tracker that resolves nothing and changes nothing. -/
theorem follows_track_same {α : Type} {change : Change DeliveryTracker α}
    (hs : change.state = w.tracker) (hr : change.resolved = []) : Follows h w (w.track change) := by
  rw [track, hr, hs]
  exact .rest

/-- One operation ends for a cause. -/
theorem follows_track_retire {α : Type} {change : Change DeliveryTracker α} {id : Nat}
    {p : PendingCorrelation} {outcome : Except Fault (Option Response)}
    (hp : w.tracker.pending? id = some p) (hc : Cause h id p outcome)
    (hs : change.state = w.tracker.retire id) (hr : change.resolved = [p.resolve id outcome]) :
    Follows h w (w.track change) := by
  rw [track, hr, hs]
  exact .single (.ended hp hc)

/-- Several operations end, one after the other, each for a cause. -/
theorem follows_track_retireAll {α : Type} {change : Change DeliveryTracker α}
    (gone : List (Nat × PendingCorrelation)) {outcome : Except Fault (Option Response)}
    (hn : (gone.map (·.1)).Nodup) (hp : ∀ e ∈ gone, w.tracker.pending? e.1 = some e.2)
    (hc : ∀ e ∈ gone, Cause h e.1 e.2 outcome)
    (hs : change.state = w.tracker.retireAll (gone.map (·.1)))
    (hr : change.resolved = gone.map fun e => e.2.resolve e.1 outcome) :
    Follows h w (w.track change) := by
  rw [Follows, Turn.after, track, hs, hr]
  clear hs hr change
  -- The induction is on what ends. The others wait on after the first is retired, each under its own
  -- id.
  induction gone generalizing h w with
  | nil => simpa using ReflTransGen.refl
  | cons e gone ih =>
    rw [List.map_cons, List.nodup_cons] at hn
    rw [List.forall_mem_cons] at hp hc
    have hrest := ih (h := h ++ [.did (.complete (e.2.resolve e.1 outcome))])
      (w := { w with tracker := w.tracker.retire e.1 }) hn.2 ?_ ?_
    · rw [List.append_assoc] at hrest
      exact ReflTransGen.head (.ended hp.1 hc.1) hrest
    · intro k hk
      have hne : k.1 ≠ e.1 := fun heq => hn.1 (heq ▸ List.mem_map_of_mem hk)
      rw [DeliveryTracker.pending?_retire, if_neg hne]
      exact hp.2 k hk
    · intro k hk
      exact (hc.2 k hk).of_effects [_]

/-- The message of an id ends. -/
theorem follows_finish (ht : w.tracker.Coherent) {id : Nat}
    {outcome : Except Fault (Option Response)}
    (hc : ∀ p, w.tracker.pending? id = some p → Cause h id p outcome) :
    Follows h w (w.track (w.tracker.finish id outcome)) := by
  obtain ⟨-, heq⟩ | ⟨p, hp, heq⟩ := DeliveryTracker.finish_eq ht id outcome
  · rw [heq]
    exact follows_track_same rfl rfl
  · rw [heq]
    exact follows_track_retire hp (hc p hp) rfl rfl

/-- Sending a message failed. -/
theorem follows_sendFailed (ht : w.tracker.Coherent) (policy : RetryPolicy) {id now : Nat}
    {fault : Fault} (hf : History.OfLink h fault) :
    Follows h w (w.track (w.tracker.sendFailed policy id fault now)) := by
  obtain ⟨-, heq⟩ | ⟨p, hp, heq⟩ | ⟨m, retryAt, hm, heq⟩ :=
    DeliveryTracker.sendFailed_eq ht policy id fault now
  · rw [heq]
    exact follows_track_same rfl rfl
  · rw [heq]
    exact follows_track_retire hp (.failed hf) rfl rfl
  · rw [heq, Follows, Turn.after, track, List.map_nil, List.map_nil, List.append_nil]
    exact .single (.postponed hm)

/-- Deadlines pass. -/
theorem follows_expire {now : Nat} (hn : now ≤ History.clock h) :
    Follows h w (w.track (w.tracker.expire now)) := by
  rw [DeliveryTracker.expire_eq]
  refine follows_track_retireAll (w.tracker.overdue now) ?_ ?_ ?_ rfl rfl
  · exact (w.tracker.registry.pending.filter _).keys_nodup
  · exact fun e he => (DeliveryTracker.pending?_of_mem_overdue he).1
  · exact fun e he => .overdue ((DeliveryTracker.pending?_of_mem_overdue he).2.trans hn)

/-- Everything ends with a fault. -/
theorem follows_failAll (ht : w.tracker.Coherent) {fault : Fault}
    (hc : ∀ id p, Cause h id p (.error fault)) :
    Follows h w (w.track (w.tracker.failAll fault)) := by
  obtain ⟨hs, hr⟩ := DeliveryTracker.failAll_eq ht fault
  refine follows_track_retireAll w.tracker.registry.pending.entries ?_ ?_ ?_ hs hr
  · exact w.tracker.registry.pending.keys_nodup
  · exact fun e he => SortedMap.get?_of_mem he
  · exact fun e _ => hc e.1 e.2

/-! ## The end of a connection -/

/-- A worker whose connection is closed. -/
def ended (w : Worker) : Worker :=
  { w with
    state := .closed, tracker := .empty, waiters := [], queue := [], reconnectAt := none
    renewAt := none }

theorem shut_worker (w : Worker) (reason : StatusReason) (fault : Fault) :
    (w.shut reason fault).worker =
      { w with state := .closed, tracker := .empty, waiters := [] } := by
  rw [shut, Turn.andThen_worker, Turn.andThen_worker, enter_worker]
  rfl

theorem releases_shut (w : Worker) (reason : StatusReason) (fault : Fault) :
    (w.shut reason fault).releases = false := by
  rw [shut, Turn.releases_andThen, Turn.releases_andThen, releases_enter, releases_track,
    releases_answerWaiters]
  rfl

theorem follows_shut (ht : w.tracker.Coherent) (reason : StatusReason) {fault : Fault}
    (hc : ∀ id p, Cause h id p (.error fault)) : Follows h w (w.shut reason fault) := by
  refine ((follows_enter rfl).andThen (follows_failAll ?_ ?_)).andThen (follows_answerWaiters _)
  · rw [enter_worker]
    exact ht
  · exact fun id p => (hc id p).of_effects _

theorem close_worker (w : Worker) : w.close.worker = w.ended := by
  rw [close, Turn.andThen_worker, shut_worker]
  split <;> rfl

theorem releases_close (w : Worker) : w.close.releases = decide (w.state ≠ .closed) := by
  rw [close, Turn.releases_andThen, releases_shut]
  by_cases hs : w.state = .closed <;>
    simp [forgetPlans, hs, release, Turn.releases, Effect.isRelease]

/-- **Closing the connection.** A closed one has its link down. -/
theorem follows_close (ht : w.tracker.Coherent) (hd : w.state = .closed → History.linkUp h = false)
    (hc : ∀ id p, Cause h id p (.error .cancelled)) : Follows h w w.close := by
  unfold close
  by_cases hs : w.state = .closed
  · simp only [forgetPlans, hs, ↓reduceIte]
    refine .of_cleared (hd hs) (.andThen (.aside rfl rfl rfl) (follows_shut ?_ _ ?_))
    · exact ht
    · exact fun id p => (hc id p).of_effects _
  · simp only [forgetPlans, hs, ↓reduceIte]
    refine Follows.andThen ?_ (follows_shut ?_ _ ?_)
    · -- The queue is emptied once the link is down.
      refine ReflTransGen.trans follows_release (ReflTransGen.head (.cleared (.inl ?_))
        (ReflTransGen.single (.aside rfl rfl rfl)))
      simp [release, Occurrence.linkUp]
    · exact ht
    · exact fun id p => (hc id p).of_effects _

theorem giveUp_worker (w : Worker) (fault : Fault) : (w.giveUp fault).worker = w.ended := by
  rw [giveUp, Turn.andThen_worker, shut_worker]
  rfl

/-- Closing the connection because of a fault of the link. -/
theorem follows_giveUp (ht : w.tracker.Coherent) {fault : Fault} (hf : History.OfLink h fault) :
    Follows h w (w.giveUp fault) := by
  refine Follows.andThen ?_ (follows_shut ?_ _ ?_)
  · refine ReflTransGen.trans follows_release (ReflTransGen.head (.cleared (.inl ?_))
      (ReflTransGen.single (.aside rfl rfl rfl)))
    simp [release, Occurrence.linkUp]
  · exact ht
  · exact fun id p => (Cause.failed hf).of_effects _

/-! ## Another attempt -/

/-- A failure is answered by giving up or, if trying again may cure it, by planning to connect. -/
theorem planReconnect_eq (w : Worker) (now : Nat) (fault : Fault) :
    w.planReconnect now fault = w.giveUp fault ∨
      fault.isTransient ∧ ∃ due, w.planReconnect now fault =
        { worker := { w with attempt := w.attempt + 1, reconnectAt := some due } } := by
  unfold planReconnect
  cases hd : w.terms.policy.decide fault.kind w.attempt with
  | giveUp => exact .inl rfl
  | retry after => exact .inr ⟨RetryPolicy.isTransient_of_retry hd, _, rfl⟩

theorem follows_planReconnect (ht : w.tracker.Coherent) (now : Nat) {fault : Fault}
    (hf : History.OfLink h fault) : Follows h w (w.planReconnect now fault) := by
  -- Planning touches neither the tracker nor the queue; giving up ends everything.
  obtain heq | ⟨-, due, heq⟩ := planReconnect_eq w now fault
  · rw [heq]
    exact follows_giveUp ht hf
  · rw [heq]
    exact .aside rfl rfl rfl

/-! ## Sending again -/

theorem enqueue_of_last {id : Nat} (hlast : ∀ k ∈ w.queue, k < id) :
    w.enqueue id = { w with queue := w.queue ++ [id] } :=
  if_neg fun hmem => Nat.lt_irrefl id (hlast id hmem)

theorem releases_resend (w : Worker) (now id : Nat) : (w.resend now id).releases = false := by
  rw [resend, Turn.releases_andThen, releases_track]
  rfl

/-- Sending a message again leaves less under way and queues no other message. -/
theorem resend_worker (ht : w.tracker.Coherent) (now id : Nat) :
    ∃ tracker queue, (w.resend now id).worker = { w with tracker, queue } ∧
      tracker.Coherent ∧ tracker.Within w.tracker ∧ w.queue ⊆ queue ∧
      ∀ k ∈ queue, k ∈ w.queue ∨ k = id := by
  have hc := ht.sendFailed w.terms.policy id .missingAcknowledgement now
  have hw := DeliveryTracker.within_sendFailed ht w.terms.policy id .missingAcknowledgement now
  rw [resend, Turn.andThen_worker]
  split
  · rw [enqueue]
    split
    · -- It is queued already.
      exact ⟨_, w.queue, rfl, hc, hw, fun _ hk => hk, fun _ hk => .inl hk⟩
    · refine ⟨_, w.queue ++ [id], rfl, hc, hw, List.subset_append_left _ _, fun k hk => ?_⟩
      simpa using hk
  · -- It failed for good, or was not under way.
    exact ⟨_, w.queue, rfl, hc, hw, fun _ hk => hk, fun _ hk => .inl hk⟩

/-- A message whose confirmation is missing fails for good or is queued behind smaller ids. -/
theorem follows_resend (ht : w.tracker.Coherent) {now id : Nat}
    (hr : History.replaying h = false) (hlast : ∀ k ∈ w.queue, k < id) :
    Follows h w (w.resend now id) := by
  have hfail : Follows h w
      (w.track (w.tracker.sendFailed w.terms.policy id .missingAcknowledgement now)) :=
    follows_sendFailed ht _ (.inr (.inr rfl))
  refine hfail.andThen ?_
  split
  · -- It is queued only if another attempt is planned for it.
    rename_i hsent
    have hagain := DeliveryTracker.isFinal_of_sendFailed hsent
    obtain ⟨-, heq⟩ | ⟨p, -, heq⟩ | ⟨m, retryAt, hm, heq⟩ :=
      DeliveryTracker.sendFailed_eq ht w.terms.policy id .missingAcknowledgement now
    · rw [heq] at hsent
      cases hsent
    · rw [heq] at hsent
      cases hsent
    · rw [heq, enqueue_of_last (by exact hlast), Follows, Turn.after, List.map_nil, List.append_nil]
      refine .single (.requeued ?_ ?_ hlast fun x hx => ?_)
      · simp [track, DeliveryTracker.message?_insert]
      · simpa [track] using hr
      · -- Planning the attempt leaves the count of attempts as it was.
        simp only [track, DeliveryTracker.message?_insert, ↓reduceIte, Option.some.injEq] at hx
        rw [← hx]
        exact hagain m hm
  · exact .rest

theorem releases_resendAll (w : Worker) (now : Nat) (ids : List Nat) :
    (resendAll now ids w).releases = false := by
  induction ids generalizing w with
  | nil => rfl
  | cons id ids ih => rw [resendAll, Turn.releases_andThen, releases_resend, ih]; rfl

/-- Sending messages again leaves less under way. -/
theorem resendAll_worker (ht : w.tracker.Coherent) (now : Nat) (ids : List Nat) :
    ∃ tracker queue, (resendAll now ids w).worker = { w with tracker, queue } ∧
      tracker.Coherent ∧ tracker.Within w.tracker ∧ w.queue ⊆ queue := by
  induction ids generalizing w with
  | nil => exact ⟨w.tracker, w.queue, rfl, ht, .refl _, fun _ hk => hk⟩
  | cons id ids ih =>
    obtain ⟨tracker, queue, heq, hc, hw, hq, -⟩ := resend_worker ht now id
    rw [resendAll, Turn.andThen_worker, heq]
    obtain ⟨tracker', queue', heq', hc', hw', hq'⟩ :=
      ih (show Worker.tracker { w with tracker, queue } |>.Coherent from hc)
    exact ⟨tracker', queue', heq', hc', hw'.trans hw, fun _ hk => hq' (hq hk)⟩

/-- The messages to be sent again are queued in the order of their ids. -/
theorem follows_resendAll (ht : w.tracker.Coherent) {now : Nat} {ids : List Nat}
    (hr : History.replaying h = false) (hids : ids.Pairwise (· < ·))
    (hlast : ∀ k ∈ w.queue, ∀ id ∈ ids, k < id) : Follows h w (resendAll now ids w) := by
  induction ids generalizing h w with
  | nil => exact .rest
  | cons id ids ih =>
    rw [List.pairwise_cons] at hids
    obtain ⟨tracker, queue, heq, hc, -, -, hnew⟩ := resend_worker ht now id
    have hfirst : Follows h w (w.resend now id) :=
      follows_resend ht hr fun k hk => hlast k hk id (by simp)
    refine hfirst.andThen (ih ?_ ?_ hids.2 ?_)
    · rw [heq]
      exact hc
    · rw [Turn.replaying_after, hr, Bool.false_and]
    · -- What was queued, and the id queued just now, stand before the ids to come.
      rw [heq]
      intro k hk k' hk'
      obtain hold | rfl := hnew k hk
      · exact hlast k hold k' (List.mem_cons_of_mem _ hk')
      · exact hids.1 k' hk'

end Worker

end HubLink
