import HubLink.Proofs.Connection.Quiet

/-! # When a message is handed over again

A message that was handed over waits for its confirmation, or for the delay of the policy after a
failure that the link reports, before it is handed over again on the same link. When it may be is
read off what was seen (`History.due`). A worker is *on schedule* for a message if it plans no
earlier resend and has the message queued only when its time has come (`Worker.OnSchedule`). Every
step keeps to the schedule (`Worker.keeps_step`): what delays a hand-over, such as other messages
that stand before it in the queue or a slow link, only makes it later
(`Worker.keepsSchedule_of_run`). -/

namespace HubLink

/-! ## The schedule of a message -/

namespace Worker

/-- **The fault that the link reports for the message of an id** with an input. -/
def reportedFault? (w : Worker) (id : Nat) : Input → Option Fault
  | .event (.ok (.rejected k fault)) => if k = id then some fault else none
  | .sent (.error fault) => if w.sending? = some id then some fault else none
  | .overtime => if w.sending? = some id then some .slowLink else none
  | _ => none

/-- When the message of an id may be handed over again once an input is taken, given when it might
have been before. A failure that the link reports is answered by a delay. -/
def postpone (w : Worker) (id now : Nat) (input : Input) (due : Nat) : Nat :=
  match w.reportedFault? id input, w.tracker.message? id with
  | some fault, some m =>
    match w.terms.policy.decide fault.kind m.message.retryCount with
    | .retry after => deadlineAfter now after
    | .giveUp => due
  | _, _ => due

/-- The same, if the message was handed over on the link at all. -/
def dueAfter (w : Worker) (id now : Nat) (input : Input) (due : Option Nat) : Option Nat :=
  match input with
  | .connected (.ok ()) => none
  | input => due.map (w.postpone id now input)

theorem postpone_of_unreported {w : Worker} {id : Nat} {input : Input}
    (h : w.reportedFault? id input = none) (now due : Nat) :
    w.postpone id now input due = due := by
  rw [postpone, h]

theorem postpone_of_retry {w : Worker} {id : Nat} {input : Input} {fault : Fault} {m : Tracked}
    {after : Nat} (h : w.reportedFault? id input = some fault)
    (hm : w.tracker.message? id = some m)
    (hd : w.terms.policy.decide fault.kind m.message.retryCount = .retry after) (now due : Nat) :
    w.postpone id now input due = deadlineAfter now after := by
  simp only [postpone, h, hm, hd]

theorem dueAfter_eq {w : Worker} {id : Nat} {input : Input} (hne : input ≠ .connected (.ok ()))
    (now : Nat) (due : Option Nat) :
    w.dueAfter id now input due = due.map (w.postpone id now input) := by
  unfold dueAfter
  split
  · exact absurd rfl hne
  · rfl

/-- An input with which no failure is reported changes nothing about the schedule, unless the link
comes up. -/
theorem dueAfter_of_unreported {w : Worker} {id : Nat} {input : Input}
    (h : w.reportedFault? id input = none) (hne : input ≠ .connected (.ok ())) (now : Nat)
    (due : Option Nat) : w.dueAfter id now input due = due := by
  rw [dueAfter_eq hne]
  cases due with
  | none => rfl
  | some d => rw [Option.map_some, postpone_of_unreported h]

end Worker

/-- When the message of an id may be handed over again after an occurrence. -/
def Occurrence.due (ackTimeout id now : Nat) (due : Option Nat) : Occurrence → Option Nat
  | .took w now input => w.dueAfter id now input due
  | .did (.send message) => if message.id = id then some (deadlineAfter now ackTimeout) else due
  | .did _ => due

namespace History

/-- **When the message of an id may be handed over again**, if it was handed over since the link
came up: when its confirmation is overdue or the delay after the last failure is over. -/
def due (ackTimeout id : Nat) (h : List Occurrence) : Option Nat :=
  (h.foldl (fun s o => (o.clock s.1, o.due ackTimeout id s.1 s.2)) (0, none)).2

variable {ackTimeout id : Nat} {h : List Occurrence}

theorem due_concat (h : List Occurrence) (o : Occurrence) :
    due ackTimeout id (h ++ [o]) = o.due ackTimeout id (clock h) (due ackTimeout id h) := by
  have hclock (h : List Occurrence) :
      (h.foldl (fun s o => (o.clock s.1, o.due ackTimeout id s.1 s.2)) (0, none)).1 = clock h := by
    induction h using List.reverseRecOn with
    | nil => rfl
    | append_singleton h o ih => rw [List.foldl_concat, clock_append, ih]; rfl
  rw [due, List.foldl_concat, hclock]
  rfl

@[simp] theorem due_took (h : List Occurrence) (w : Worker) (now : Nat) (input : Input) :
    due ackTimeout id (h ++ [.took w now input]) =
      w.dueAfter id now input (due ackTimeout id h) :=
  due_concat h _

/-- Effects that do not hand the message over leave its schedule as it is. -/
theorem due_effects (es : List Effect) (hes : id ∉ handOvers (es.map .did)) :
    due ackTimeout id (h ++ es.map .did) = due ackTimeout id h := by
  induction es generalizing h with
  | nil => rw [List.map_nil, List.append_nil]
  | cons e es ih =>
    rw [List.map_cons, List.append_cons, ih, due_concat]
    · cases e with
      | send message =>
        have hne : message.id ≠ id := by
          rintro rfl
          exact hes (List.mem_cons_self ..)
        exact if_neg hne
      | connect | settle | release | reply | complete | tell => rfl
    · intro hmem
      rw [List.map_cons, ← List.singleton_append, handOvers_append] at hes
      exact hes (List.mem_append_right _ hmem)

/-- Effects that hand it over begin the wait for its confirmation. -/
theorem due_effects_of_sent (es : List Effect) (hes : handOvers (es.map .did) = [id]) :
    due ackTimeout id (h ++ es.map .did) = some (deadlineAfter (clock h) ackTimeout) := by
  induction es generalizing h with
  | nil => cases hes
  | cons e es ih =>
    rw [List.map_cons, ← List.singleton_append, handOvers_append] at hes
    rw [List.map_cons, List.append_cons]
    cases e with
    | send message =>
      have hid : message.id = id := (List.cons.inj hes).1
      have hrest : handOvers (es.map .did) = [] := (List.cons.inj hes).2
      rw [due_effects es (by rw [hrest]; exact List.not_mem_nil), due_concat]
      exact if_pos hid
    | connect | settle | release | reply | complete | tell =>
      rw [ih hes, clock_append]
      rfl

/-- Only what was handed over is on the schedule. -/
theorem mem_handOvers_of_due {d : Nat} (hd : due ackTimeout id h = some d) : id ∈ handOvers h := by
  induction h using List.reverseRecOn generalizing d with
  | nil => cases hd
  | append_singleton h o ih =>
    rw [due_concat] at hd
    rw [handOvers_append, List.mem_append]
    cases o with
    | took w now input =>
      have hd : w.dueAfter id now input (due ackTimeout id h) = some d := hd
      unfold Worker.dueAfter at hd
      split at hd
      · cases hd
      · obtain ⟨d', hd', -⟩ := Option.map_eq_some_iff.1 hd
        exact .inl (ih hd')
    | did e =>
      cases e with
      | send message =>
        by_cases hid : message.id = id
        · exact .inr (hid ▸ List.mem_singleton_self _)
        · exact .inl (ih ((if_neg hid).symm.trans hd))
      | connect | settle | release | reply | complete | tell => exact .inl (ih hd)

end History

/-! ## Workers on schedule -/

/-- **A worker is on schedule for a message** at an instant, given when it may be handed over
again. -/
structure Worker.OnSchedule (id now : Nat) (due : Option Nat) (w : Worker) : Prop where
  /-- Nothing is queued twice. -/
  nodup : w.queue.Nodup
  /-- While the link takes the message it is not queued. -/
  away : w.sending? = some id → id ∉ w.queue ∧ due.isSome
  /-- The message is queued again only when its time has come. -/
  queued : ∀ d, due = some d → id ∈ w.queue → d ≤ now
  /-- Until then it is planned for that time. -/
  planned : ∀ d, due = some d → ∀ m, w.tracker.message? id = some m →
    m.message.state = .sent ∧ (d ≤ now ∨ m.resendAt w.terms.ackTimeout = some d)

/-- **A turn keeps to the schedule of a message**, given when it may be handed over again: either it
does not hand it over, or it does so once, in time, and the wait begins anew. -/
inductive Turn.Keeps (id now : Nat) (due : Option Nat) (t : Turn) : Prop where
  /-- The message is not handed over. -/
  | spared (unsent : id ∉ t.handOvers) (after : t.worker.OnSchedule id now due)
  /-- The message is handed over. -/
  | sent (only : t.handOvers = [id]) (ripe : ∀ d, due = some d → d ≤ now)
      (after : t.worker.OnSchedule id now (some (deadlineAfter now t.worker.terms.ackTimeout)))

namespace Worker

variable {w : Worker} {id now : Nat} {due : Option Nat}

namespace OnSchedule

/-- A worker that has done nothing. -/
theorem new (terms : Terms) (id now : Nat) : (Worker.new terms).OnSchedule id now none where
  nodup := List.nodup_nil
  away h := by cases h
  queued _ h := by cases h
  planned _ h := by cases h

/-- Time passes. -/
theorem mono (hs : w.OnSchedule id now due) {now' : Nat} (hle : now ≤ now') :
    w.OnSchedule id now' due where
  nodup := hs.nodup
  away := hs.away
  queued d hd hmem := (hs.queued d hd hmem).trans hle
  planned d hd m hm := (hs.planned d hd m hm).imp_right (Or.imp_left hle.trans')

/-- After a quiet turn a worker is on schedule as before. -/
theorem of_quiet (hs : w.OnSchedule id now due) {t : Turn} (ht : t.Quiet id w) :
    t.worker.OnSchedule id now due where
  nodup := hs.nodup.sublist ht.queue
  away h := (hs.away (ht.sending id h)).imp_left fun hmem hin => hmem (ht.queue.subset hin)
  queued d hd hmem := hs.queued d hd (ht.queue.subset hmem)
  planned d hd m hm := by
    rw [ht.terms]
    exact hs.planned d hd m (ht.message m hm)

/-- A message is queued. If it is the one in question, its time has come and the link does not take
it. -/
theorem append (hs : w.OnSchedule id now due) {k : Nat} (hk : k ∉ w.queue)
    (hripe : k = id → w.sending? ≠ some id ∧ ∀ d, due = some d → d ≤ now) :
    OnSchedule id now due { w with queue := w.queue ++ [k] } where
  nodup := by
    rw [List.nodup_append]
    refine ⟨hs.nodup, List.nodup_singleton _, fun x hx y hy => ?_⟩
    rw [List.mem_singleton.1 hy]
    exact fun heq => hk (heq ▸ hx)
  away h := by
    obtain ⟨hmem, hdue⟩ := hs.away h
    refine ⟨fun hin => ?_, hdue⟩
    rw [List.mem_append, List.mem_singleton] at hin
    rcases hin with hin | heq
    · exact hmem hin
    · exact (hripe heq.symm).1 h
  queued d hd hin := by
    rw [List.mem_append, List.mem_singleton] at hin
    rcases hin with hin | heq
    · exact hs.queued d hd hin
    · exact (hripe heq.symm).2 d hd
  planned := hs.planned

/-- A message is queued unless it is. -/
theorem enqueue (hs : w.OnSchedule id now due) {k : Nat}
    (hripe : k = id → w.sending? ≠ some id ∧ ∀ d, due = some d → d ≤ now) :
    (w.enqueue k).OnSchedule id now due := by
  unfold Worker.enqueue
  split
  · exact hs
  · rename_i hk
    exact hs.append hk hripe

/-- A message that was never handed over is taken on. -/
theorem enroll (hs : w.OnSchedule id now due) {message : Outbound} (p : PendingCorrelation)
    (hnew : message.id = id → due = none) :
    OnSchedule id now due { w with tracker := w.tracker.enroll message p } where
  nodup := hs.nodup
  away := hs.away
  queued := hs.queued
  planned d hd m hm := by
    have hne : message.id ≠ id := fun heq => by
      rw [hnew heq] at hd
      cases hd
    rw [DeliveryTracker.message?_enroll, if_neg hne] at hm
    exact hs.planned d hd m hm

end OnSchedule

end Worker

namespace Turn.Keeps

variable {id now : Nat} {due : Option Nat} {w : Worker} {t : Turn}

theorem of_quiet (hs : w.OnSchedule id now due) (ht : t.Quiet id w) : t.Keeps id now due :=
  .spared (by rw [ht.unsent]; exact List.not_mem_nil) (hs.of_quiet ht)

/-- What follows a turn that hands nothing over keeps to the schedule. -/
theorem after_unsent {f : Worker → Turn} (ht : t.handOvers = [])
    (hf : (f t.worker).Keeps id now due) : (t.andThen f).Keeps id now due := by
  have hsame : (t.andThen f).handOvers = (f t.worker).handOvers := by
    rw [handOvers_andThen, ht, List.nil_append]
  cases hf with
  | spared unsent after => exact .spared (by rwa [hsame]) after
  | sent only ripe after => exact .sent (by rwa [hsame]) ripe after

end Turn.Keeps

namespace Worker

variable {w : Worker} {id now : Nat} {due : Option Nat}

/-! ## Handing over -/

/-- **The next message is handed over.** If it is the one in question, its time has come. -/
theorem keeps_start (ht : w.tracker.Coherent) (hs : w.OnSchedule id now due) {k : Nat} {m : Tracked}
    {skipped queue : List Nat} (hq : w.queue = skipped ++ k :: queue)
    (hm : w.tracker.message? k = some m) (next : List Task) :
    ({ w with
        tracker := { w.tracker with messages := w.tracker.messages.insert k (m.handOver now) }
        queue }.start now (.sending k) (.send (m.handOver now).message) next).Keeps id now due := by
  have hqueued : k ∈ w.queue := by
    rw [hq]
    exact List.mem_append_right _ (List.mem_cons_self ..)
  have hrest : queue.Sublist w.queue := by
    rw [hq]
    exact (List.sublist_cons_self k queue).trans (List.sublist_append_right skipped _)
  have hlast : k ∉ queue := by
    have hnodup := hs.nodup
    rw [hq, List.nodup_append, List.nodup_cons] at hnodup
    exact hnodup.2.1.1
  have hfiled : m.message.id = k := ht.filed k m hm
  by_cases hk : k = id
  · -- The wait for the confirmation begins anew.
    subst hk
    refine .sent (congrArg (fun i => [i]) hfiled) (fun d hd => hs.queued d hd hqueued) ?_
    refine ⟨hs.nodup.sublist hrest, fun _ => ⟨hlast, rfl⟩, fun _ _ hin => absurd hin hlast, ?_⟩
    intro d hd x hx
    obtain rfl := Option.some.inj hd
    have hx' : some (m.handOver now) = some x := by
      have := DeliveryTracker.message?_insert w.tracker k k (m.handOver now)
      rw [if_pos rfl] at this
      exact this.symm.trans hx
    obtain rfl := Option.some.inj hx'
    exact ⟨rfl, .inr rfl⟩
  · refine .spared ?_ ⟨hs.nodup.sublist hrest, fun h => ?_, fun d hd hin => ?_, fun d hd x hx => ?_⟩
    · show id ∉ [m.message.id]
      rw [hfiled, List.mem_singleton]
      exact Ne.symm hk
    · exact absurd (Option.some.inj h) hk
    · exact hs.queued d hd (hrest.subset hin)
    · have hx' : w.tracker.message? id = some x := by
        have := DeliveryTracker.message?_insert w.tracker k id (m.handOver now)
        rw [if_neg hk] at this
        exact this.symm.trans hx
      exact hs.planned d hd x hx'

/-- **What is left to do keeps to the schedule.** -/
theorem keeps_run (ht : w.tracker.Coherent) (hs : w.OnSchedule id now due) (tasks : List Task) :
    (run now tasks w).Keeps id now due := by
  -- The induction is on the tasks; a hand-over ends it, as the link is busy from then on.
  induction tasks generalizing w with
  | nil => exact .of_quiet hs .rest
  | cons task tasks ih =>
    cases task with
    | flush =>
      rw [run]
      split
      · split
        · rename_i k message tracker queue hnext
          obtain ⟨skipped, m, hq, -, hm, rfl, rfl⟩ := nextToSend_eq_some hnext
          exact keeps_start ht hs hq hm _
        · -- Nothing queued is under way, and the queue is emptied.
          refine ih (w := { w with queue := [] }) ht ⟨List.nodup_nil, ?_, ?_, hs.planned⟩
          · exact fun h => ⟨List.not_mem_nil, (hs.away h).2⟩
          · exact fun _ _ hin => absurd hin List.not_mem_nil
      · exact ih ht hs
    | settle request =>
      rw [run]
      exact .after_unsent (handOvers_settle w request) (ih ht hs)
    | reconnect time =>
      rw [run]
      split
      · have hconnect : Turn.Quiet id _ _ :=
          quiet_connect { w with reconnectAt := none } now .connected tasks
        exact .of_quiet hs { hconnect with }
      · exact ih ht hs
    | renew time =>
      rw [run]
      split
      · exact .of_quiet hs (quiet_renew w now tasks)
      · exact ih ht hs

/-! ## Failures -/

/-- **A failure of the message** changes when it may be handed over again. The message was on the
schedule before, and it is queued only if the new time has come. -/
theorem onSchedule_sendFailed (ht : w.tracker.Coherent) (hs : w.OnSchedule id now due)
    {policy : RetryPolicy} {fault : Fault} {due' : Option Nat} (idle : w.sending? ≠ some id)
    (hqueue : ∀ d, due' = some d → id ∈ w.queue → d ≤ now)
    (hplan : ∀ d, due' = some d → due.isSome ∧ ∀ m after, w.tracker.message? id = some m →
      policy.decide fault.kind m.message.retryCount = .retry after →
        d ≤ now ∨ d = deadlineAfter now after) :
    (w.track (w.tracker.sendFailed policy id fault now)).worker.OnSchedule id now due' where
  nodup := hs.nodup
  away h := absurd h idle
  queued := hqueue
  planned d hd x hx := by
    obtain ⟨m, after, hm, hretry, rfl⟩ := DeliveryTracker.message?_sendFailed ht hx
    obtain ⟨hdue, hplan⟩ := hplan d hd
    obtain ⟨d₀, hd₀⟩ := Option.isSome_iff_exists.1 hdue
    have hsent : m.message.state = .sent := (hs.planned d₀ hd₀ m hm).1
    refine ⟨hsent, (hplan m after hm hretry).imp_right ?_⟩
    rintro rfl
    rw [Tracked.resendAt, if_pos hsent]
    rfl

/-- Sending a message again keeps to the schedule if its time has come. -/
theorem onSchedule_resend (ht : w.tracker.Coherent) (idle : w.busy = none)
    (hs : w.OnSchedule id now due) {k : Nat} (hripe : k = id → ∀ d, due = some d → d ≤ now) :
    (w.resend now k).worker.OnSchedule id now due := by
  have hnone : w.sending? ≠ some id := by simp [sending?_of_idle idle]
  have hfailed : (w.track (w.tracker.sendFailed w.terms.policy k .missingAcknowledgement
      now)).worker.OnSchedule id now due := by
    by_cases hk : k = id
    · subst hk
      refine onSchedule_sendFailed ht hs hnone (fun d hd _ => hripe rfl d hd) fun d hd => ?_
      exact ⟨by rw [hd]; rfl, fun _ _ _ _ => .inl (hripe rfl d hd)⟩
    · exact hs.of_quiet (quiet_sendFailed ht hk _ _ now)
  rw [resend, Turn.andThen_worker]
  split
  · exact hfailed.enqueue fun hk => ⟨hnone, hripe hk⟩
  · exact hfailed

/-- Sending several messages again keeps to the schedule if its time has come for the one in
question. -/
theorem onSchedule_resendAll (ht : w.tracker.Coherent) (idle : w.busy = none)
    (hs : w.OnSchedule id now due) {ids : List Nat}
    (hripe : id ∈ ids → ∀ d, due = some d → d ≤ now) :
    (resendAll now ids w).worker.OnSchedule id now due := by
  -- That the time has come was looked up for all ids before the first of them was queued.
  induction ids generalizing w with
  | nil => exact hs
  | cons k ids ih =>
    obtain ⟨tracker, queue, hworker, hcoherent, -⟩ := resend_worker ht now k
    have hfirst : (w.resend now k).worker.OnSchedule id now due :=
      onSchedule_resend ht idle hs fun hk => hripe (hk ▸ List.mem_cons_self ..)
    rw [resendAll, Turn.andThen_worker]
    refine ih ?_ ?_ hfirst fun hin => hripe (List.mem_cons_of_mem _ hin)
    · rw [hworker]
      exact hcoherent
    · rw [hworker]
      exact idle

/-- What is to be sent again by now has its time come. -/
theorem OnSchedule.ripe (hs : w.OnSchedule id now due)
    (hid : id ∈ w.tracker.dueForResend now w.terms.ackTimeout) {d : Nat} (hd : due = some d) :
    d ≤ now := by
  obtain ⟨m, hm, hdue⟩ := DeliveryTracker.mem_dueForResend.1 hid
  rcases (hs.planned d hd m hm).2 with hle | hplan
  · exact hle
  · obtain ⟨d', hd', hle⟩ := isDue_eq_true_iff.1 hdue
    rw [hplan] at hd'
    obtain rfl := Option.some.inj hd'
    exact hle

/-- **A waking keeps to the schedule.** -/
theorem keeps_wake (ht : w.tracker.Coherent) (idle : w.busy = none) (hs : w.OnSchedule id now due) :
    (w.wake now).Keeps id now due := by
  have hexpire := hs.of_quiet (quiet_expire w now)
  have hcoherent : (w.track (w.tracker.expire now)).worker.tracker.Coherent := ht.expire now
  rw [wake, Turn.andThen_assoc]
  refine .after_unsent (handOvers_track w _) ?_
  split
  · -- What is due on an open link is queued before anything is handed over.
    obtain ⟨tracker, queue, hworker, hcoherent', -⟩ := resendAll_worker hcoherent now
      ((w.track (w.tracker.expire now)).worker.tracker.dueForResend now w.terms.ackTimeout)
    refine .after_unsent (handOvers_resendAll _ now _) (keeps_run ?_ ?_ _)
    · exact hworker ▸ hcoherent'
    · exact onSchedule_resendAll hcoherent idle hexpire fun hin d hd => hexpire.ripe hin hd
  · exact .after_unsent rfl (keeps_run hcoherent hexpire _)

/-- **The schedule after a failure that the link reports**, of the message in question or of
another. -/
theorem onSchedule_reported (ht : w.tracker.Coherent) (hs : w.OnSchedule id now due)
    (idle : w.busy = none) {v : Worker} (htracker : v.tracker = w.tracker)
    (hterms : v.terms = w.terms) {k : Nat} {input : Input} {fault : Fault}
    (hreport : v.reportedFault? id input = if k = id then some fault else none)
    (hqueue : k = id → id ∉ w.queue) :
    (w.track (w.tracker.sendFailed w.terms.policy k fault now)).worker.OnSchedule id now
      (due.map (v.postpone id now input)) := by
  by_cases hk : k = id
  · subst hk
    rw [if_pos rfl] at hreport
    refine onSchedule_sendFailed ht hs (by simp [sending?_of_idle idle])
      (fun _ _ hin => absurd hin (hqueue rfl)) fun d hd => ?_
    obtain ⟨d₀, hd₀, hpost⟩ := Option.map_eq_some_iff.1 hd
    refine ⟨by rw [hd₀]; rfl, fun m after hm hretry => .inr ?_⟩
    rw [← hpost]
    exact postpone_of_retry hreport (by rwa [htracker]) (by rwa [hterms]) now d₀
  · rw [if_neg hk] at hreport
    have hsame : due.map (v.postpone id now input) = due := by
      cases due with
      | none => rfl
      | some d => rw [Option.map_some, postpone_of_unreported hreport]
    rw [hsame]
    exact hs.of_quiet (quiet_sendFailed ht hk _ _ now)

/-! ## Steps -/

/-- The link came up: everything under way is handed over, whatever the schedule was. -/
theorem keeps_connectionUp (ht : w.tracker.Coherent) (idle : w.busy = none) (reason : StatusReason)
    (tasks : List Task) :
    ((w.connectionUp now reason).andThen (run now tasks)).Keeps id now none := by
  rw [connectionUp_eq]
  refine .after_unsent ?_ (keeps_run ?_ ⟨?_, ?_, ?_, ?_⟩ tasks)
  · rw [Turn.handOvers_andThen, handOvers_enter, handOvers_answerWaiters]
    rfl
  all_goals rw [Turn.andThen_worker, enter_worker]
  · exact ht
  · exact w.tracker.messages.keys_nodup
  · exact fun h => absurd (h.symm.trans (sending?_of_idle idle)) (by simp)
  · rintro d ⟨⟩
  · rintro d ⟨⟩

/-- A message was handed over. -/
theorem keeps_sendEnded_ok (ht : w.tracker.Coherent) (hs : w.OnSchedule id now due) (b : Busy)
    (k : Nat) (outcome : SendOutcome) : (w.sendEnded now b k (.ok outcome)).Keeps id now due := by
  unfold sendEnded
  cases outcome with
  | acknowledged response =>
    have hquiet : (w.track (w.tracker.acknowledge k response)).Quiet id w := quiet_finish ht k _
    exact .after_unsent hquiet.unsent
      (keeps_run (ht.finish k _) (hs.of_quiet hquiet) _)
  | awaiting => exact .after_unsent rfl (keeps_run ht hs _)

/-- Handing a message over failed. -/
theorem keeps_sendEnded_error (ht : w.tracker.Coherent) (b : Busy) {k : Nat} {fault : Fault}
    (hs : (w.track (w.tracker.sendFailed w.terms.policy k fault now)).worker.OnSchedule id now
      due) :
    (w.sendEnded now b k (.error fault)).Keeps id now due := by
  have hcoherent : (w.track (w.tracker.sendFailed w.terms.policy k fault
      now)).worker.tracker.Coherent := ht.sendFailed w.terms.policy k fault now
  unfold sendEnded
  rw [Turn.andThen_assoc]
  refine .after_unsent (handOvers_track w _) ?_
  split
  · -- The link goes with the message.
    have hlost : Turn.Quiet id _ _ :=
      quiet_linkLost (w.track (w.tracker.sendFailed w.terms.policy k fault now)).worker now fault
    exact .after_unsent hlost.unsent
      (keeps_run (coherent_linkLost hcoherent now fault) (hs.of_quiet hlost) _)
  · exact .after_unsent rfl (keeps_run hcoherent hs _)

/-- The link's work is abandoned. -/
theorem keeps_interrupted (hs : w.OnSchedule id now due) (b : Busy) (reply : Option Nat) :
    (w.interrupted now b reply).Keeps id now due := by
  have hquiet : w.close.Quiet id w := quiet_close w
  have hcoherent : w.close.worker.tracker.Coherent := by
    rw [close_worker]
    exact DeliveryTracker.coherent_empty
  rw [interrupted, Turn.andThen_assoc]
  -- Closing ends everything under way, so that nothing is left to hand over.
  refine .after_unsent hquiet.unsent ?_
  have hclosed := hs.of_quiet hquiet
  cases reply with
  | none =>
    exact .after_unsent rfl
      (keeps_run (w := { w.close.worker with stopped := true }) hcoherent { hclosed with } _)
  | some reply => exact .after_unsent rfl (keeps_run hcoherent hclosed _)

/-- A message that is submitted while the link is busy is refused, or taken on and queued behind the
others if the link takes one of them. Either way it has not been handed over. -/
theorem keeps_submitWhileBusy (hs : w.OnSchedule id now due) (b : Busy) {message : Outbound}
    (completion deadline : Nat) (hqueue : message.id ∉ w.queue)
    (hfresh : message.id = id → due = none) :
    (w.commandWhileBusy now b (.submit message completion deadline)).Keeps id now due := by
  rw [commandWhileBusy]
  refine .after_unsent (handOvers_track w _) ?_
  rcases w.tracker.submit_eq message completion deadline with ⟨-, hsubmit⟩ | ⟨-, hsubmit⟩
  · rw [hsubmit]
    exact .of_quiet hs .rest
  · have henrolled := hs.enroll ⟨completion, deadline⟩ hfresh
    rw [hsubmit]
    cases b.job with
    | sending k =>
      -- The message was never handed over, so that the link does not take it.
      refine .of_quiet (henrolled.append hqueue fun heq => ⟨fun h => ?_, fun d hd => ?_⟩) .rest
      · have hdue := (hs.away h).2
        rw [hfresh heq] at hdue
        cases hdue
      · rw [hfresh heq] at hd
        cases hd
    | connecting reason => exact .of_quiet henrolled .rest

/-- **A step while the link is busy keeps to the schedule.** -/
theorem keeps_stepBusy (ht : w.tracker.Coherent) (hs : w.OnSchedule id now due) {b : Busy}
    (busy : w.busy = some b) {input : Input} (takes : w.takes input)
    (hnew : ∀ message completion deadline,
      input = .command (.submit message completion deadline) →
        message.id ∉ w.queue ∧ (message.id = id → due = none)) :
    (w.stepBusy now b input).Keeps id now (w.dueAfter id now input due) := by
  have hfits := (Bool.and_eq_true_iff.1 takes).2
  -- The link's work is over, and the schedule is as it was.
  have hfree : OnSchedule id now due { w with busy := none } :=
    { hs with away := fun h => by cases h }
  have hunconnected (reason : StatusReason) (fault : Fault) :
      ({ w with busy := none }.connectEnded now b reason (.error fault)).Keeps id now due := by
    have hfailed : Turn.Quiet id _ _ := quiet_connectFailed { w with busy := none } now fault
    exact .after_unsent hfailed.unsent
      (keeps_run (coherent_connectFailed (w := { w with busy := none }) ht now fault)
        (hfree.of_quiet hfailed) _)
  have hunsent {k : Nat} {fault : Fault} (job : b.job = .sending k)
      (hreport : w.reportedFault? id input = if k = id then some fault else none)
      (hne : input ≠ .connected (.ok ())) :
      ({ w with busy := none }.sendEnded now b k (.error fault)).Keeps id now
        (w.dueAfter id now input due) := by
    rw [dueAfter_eq hne]
    refine keeps_sendEnded_error (w := { w with busy := none }) ht b (onSchedule_reported
      (w := { w with busy := none }) (v := w) ht hfree rfl rfl rfl hreport ?_)
    rintro rfl
    exact (hs.away (sending?_of_busy busy job)).1
  cases input with
  | command c =>
    rw [dueAfter_of_unreported rfl (by simp), stepBusy]
    cases c with
    | close reply => exact keeps_interrupted hfree b (some reply)
    | submit message completion deadline =>
      obtain ⟨hqueue, hfresh⟩ := hnew message completion deadline rfl
      exact keeps_submitWhileBusy hs b completion deadline hqueue hfresh
    | «open» | cancel | settle =>
      refine .of_quiet hs (quiet_commandWhileBusy ht busy now ?_ ?_) <;> simp
  | abandoned =>
    rw [dueAfter_of_unreported rfl (by simp)]
    exact keeps_interrupted hfree b none
  | event e => simp [isListening, busy] at hfits
  | timer =>
    rw [dueAfter_of_unreported rfl (by simp)]
    exact .of_quiet hs (quiet_expire w now)
  | connected result =>
    obtain ⟨reason, job⟩ := job_of_isConnecting busy hfits
    simp only [stepBusy, job]
    cases result with
    | ok => exact keeps_connectionUp (w := { w with busy := none }) ht rfl _ _
    | error fault =>
      rw [dueAfter_of_unreported rfl (by simp)]
      exact hunconnected reason fault
  | sent result =>
    obtain ⟨k, job⟩ := job_of_isSending busy hfits
    simp only [stepBusy, job]
    cases result with
    | ok outcome =>
      rw [dueAfter_of_unreported rfl (by simp)]
      exact keeps_sendEnded_ok (w := { w with busy := none }) ht hfree b k outcome
    | error fault =>
      exact hunsent job (by simp [reportedFault?, sending?_of_busy busy job]) (by simp)
  | overtime =>
    cases job : b.job with
    | connecting reason =>
      have hreport : w.reportedFault? id .overtime = none := by
        rw [reportedFault?, if_neg]
        intro hsending
        obtain ⟨b', busy', job'⟩ := sending?_eq_some_iff.1 hsending
        obtain rfl := Option.some.inj (busy.symm.trans busy')
        rw [job] at job'
        cases job'
      simp only [stepBusy, job]
      rw [dueAfter_of_unreported hreport (by simp)]
      exact hunconnected reason .slowLink
    | sending k =>
      simp only [stepBusy, job]
      exact hunsent job (by simp [reportedFault?, sending?_of_busy busy job]) (by simp)

/-- A message that is submitted while the link is at rest is refused, waits for the link or is
handed over at once. -/
theorem keeps_submitAtRest (ht : w.tracker.Coherent) (hs : w.OnSchedule id now due)
    (idle : w.busy = none) {message : Outbound} (completion deadline : Nat)
    (hfresh : message.id = id → due = none) :
    (w.commandAtRest now (.submit message completion deadline)).Keeps id now due := by
  rw [commandAtRest]
  split
  · exact .of_quiet hs (.of_same rfl rfl rfl rfl fun _ hk => hk)
  · refine .after_unsent (handOvers_track w _) ?_
    rcases w.tracker.submit_eq message completion deadline with ⟨-, hsubmit⟩ | ⟨-, hsubmit⟩
    · rw [hsubmit]
      exact .of_quiet hs .rest
    · let taken : Worker := { w with tracker := w.tracker.enroll message ⟨completion, deadline⟩ }
      have henrolled : taken.OnSchedule id now due := hs.enroll ⟨completion, deadline⟩ hfresh
      have hunsent : taken.sending? = none := sending?_of_idle idle
      rw [hsubmit]
      change Turn.Keeps id now due
        (if taken.state = .open then run now [.flush] (taken.enqueue message.id)
        else { worker := taken })
      split
      · refine keeps_run ?_ (henrolled.enqueue fun heq => ⟨?_, fun d hd => ?_⟩) _
        · rw [tracker_enqueue]
          exact ht.enroll message ⟨completion, deadline⟩
        · rw [hunsent]
          exact (Option.some_ne_none id).symm
        · rw [hfresh heq] at hd
          cases hd
      · exact .of_quiet henrolled .rest

/-- **An event of the link keeps to the schedule**: only the rejection of the message changes it,
and then the message waits for the delay of the policy. -/
theorem keeps_eventAtRest (ht : w.tracker.Coherent) (hs : w.OnSchedule id now due)
    (idle : w.busy = none) (clear : w.queue = []) (e : Except Fault LinkEvent) :
    (w.eventAtRest now e).Keeps id now (w.dueAfter id now (.event e) due) := by
  -- Only a rejection is a report.
  by_cases hrejected : ∃ k fault, e = .ok (.rejected k fault)
  · obtain ⟨k, fault, rfl⟩ := hrejected
    rw [dueAfter_eq (by simp), eventAtRest]
    refine .spared ?_ (onSchedule_reported ht hs idle rfl rfl rfl fun _ => ?_)
    · rw [handOvers_track]
      exact List.not_mem_nil
    · rw [clear]
      exact List.not_mem_nil
  · have hother (k : Nat) (fault : Fault) : e ≠ .ok (.rejected k fault) := fun heq =>
      hrejected ⟨k, fault, heq⟩
    have hunreported : w.reportedFault? id (.event e) = none := by
      cases e with
      | error fault => rfl
      | ok event =>
        cases event with
        | rejected k fault => exact absurd rfl (hother k fault)
        | acknowledged | notification | disconnected => rfl
    rw [dueAfter_of_unreported hunreported (by simp)]
    exact .of_quiet hs (quiet_eventAtRest ht now hother)

/-- **A step while the link is at rest keeps to the schedule.** -/
theorem keeps_stepAtRest {up : Bool} (hsit : w.Situated up) (ht : w.tracker.Coherent)
    (hs : w.OnSchedule id now due) (idle : w.busy = none) {input : Input} (takes : w.takes input)
    (hnew : ∀ message completion deadline,
      input = .command (.submit message completion deadline) → message.id = id → due = none) :
    (w.stepAtRest now input).Keeps id now (w.dueAfter id now input due) := by
  have hfits := (Bool.and_eq_true_iff.1 takes).2
  cases input with
  | command c =>
    rw [dueAfter_of_unreported rfl (by simp), stepAtRest]
    cases c with
    | submit message completion deadline =>
      exact keeps_submitAtRest ht hs idle completion deadline (hnew message completion deadline rfl)
    | «open» | close | cancel | settle =>
      refine .of_quiet hs (quiet_commandAtRest ht now ?_)
      simp
  | abandoned =>
    rw [dueAfter_of_unreported rfl (by simp)]
    exact .of_quiet hs (quiet_abandoned w)
  | event e =>
    obtain ⟨hopen, -⟩ : w.state = .open ∧ w.stopped = false := by
      simpa [isListening, idle] using hfits
    -- Between steps nothing is queued on an open link at rest.
    have clear : w.queue = [] := by
      rcases hsit.of_idle idle with hoff | ⟨-, clear⟩
      · exact absurd hopen hoff.state_ne
      · exact clear
    rw [stepAtRest, if_pos hopen]
    exact keeps_eventAtRest ht hs idle clear e
  | timer =>
    rw [dueAfter_of_unreported rfl (by simp)]
    exact keeps_wake ht idle hs
  | connected | sent | overtime => simp [isConnecting, isSending, idle] at hfits

/-- **Every step that takes an input keeps to the schedule.** -/
theorem keeps_step {up : Bool} (hsit : w.Situated up) (ht : w.tracker.Coherent)
    (hs : w.OnSchedule id now due) {input : Input} (takes : w.takes input)
    (hnew : ∀ message completion deadline,
      input = .command (.submit message completion deadline) →
        message.id ∉ w.queue ∧ (message.id = id → due = none)) :
    (w.step now input).Keeps id now (w.dueAfter id now input due) := by
  have going := going_of_takes takes
  cases busy : w.busy with
  | some b =>
    rw [step_of_busy going busy]
    exact keeps_stepBusy ht hs busy takes hnew
  | none =>
    rw [step_of_idle going busy]
    refine keeps_stepAtRest hsit ht hs busy takes fun message completion deadline heq => ?_
    exact (hnew message completion deadline heq).2

end Worker

end HubLink
