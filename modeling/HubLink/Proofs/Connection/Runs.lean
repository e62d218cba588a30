import HubLink.Proofs.Connection.Situation

/-! # Runs as courses

Every step of a worker in a situation is a course that ends in a situation (`Worker.advances`), so a
run from the beginning is one course, and the worker is in a situation between any two of its steps
(`Worker.course_of_run`). -/

namespace HubLink

open Relation

namespace Worker

variable {h : List Occurrence} {w : Worker}

/-! ## Changes of the tracker -/

/-- A change of the tracker that leaves less under way lands where it starts. -/
theorem lands_track {α : Type} {change : Change DeliveryTracker α}
    (hf : Follows h w (w.track change)) (ht : w.tracker.Coherent)
    (hw : change.state.Within w.tracker) (hs : w.Situated (History.linkUp h)) :
    Lands h w (w.track change) where
  follows := hf
  situated := by
    rw [Turn.linkUp_after, releases_track, Bool.not_false, Bool.and_true]
    exact hs.of_within (Course.coherent hf ht) hw

/-- The caller gave a message up. -/
theorem lands_cancel (hs : w.Situated (History.linkUp h)) (ht : w.tracker.Coherent) {id : Nat}
    (hc : ∀ p, Cause h id p (.error .cancelled)) : Lands h w (w.track (w.tracker.cancel id)) :=
  lands_track (follows_finish ht fun p _ => hc p) ht (DeliveryTracker.within_finish ht id _) hs

/-- Deadlines passed. -/
theorem lands_expire (hs : w.Situated (History.linkUp h)) (ht : w.tracker.Coherent) {now : Nat}
    (hn : now ≤ History.clock h) : Lands h w (w.track (w.tracker.expire now)) :=
  lands_track (follows_expire hn) ht (w.tracker.within_expire now) hs

/-! ## The link at work -/

/-- **The link's work is abandoned**: the worker is dormant, and answers what was deferred. -/
theorem lands_interrupted (hd : w.state = .closed → History.linkUp h = false)
    (idle : w.busy = none) (ht : w.tracker.Coherent)
    (hc : ∀ id p, Cause h id p (.error .cancelled)) (now : Nat) (b : Busy) (reply : Option Nat) :
    Lands h w (w.interrupted now b reply) := by
  obtain ⟨hclose, hdormant⟩ := dormant_close hd idle ht hc
  cases reply with
  | none =>
    -- Nobody waits for an answer, and the worker stops.
    refine .andThen (hclose.andThen (.aside rfl rfl rfl)) (lands_run_offline now _ (.inl ?_))
    rw [Turn.andThen_effects, List.append_nil]
    exact { hdormant with }
  | some reply =>
    refine .andThen (hclose.andThen (.news (by simp [Effect.isNews])))
      (lands_run_offline now _ (.inl ?_))
    rw [Turn.linkUp_after, Turn.releases_andThen]
    rw [Turn.linkUp_after] at hdormant
    exact { hdormant with down := by simpa [Turn.releases, Effect.isRelease] using hdormant.down }

/-- **A message was handed over, or not**: the worker serves on or is offline, and does what is left
to do. -/
theorem lands_sendEnded (hs : w.Serving (History.linkUp h)) (idle : w.busy = none)
    (ht : w.tracker.Coherent) (now : Nat) {b : Busy} {next : List Task}
    (hb : b.next = .flush :: next) {id : Nat} {result : Except Fault SendOutcome}
    (hack : ∀ response p, result = .ok (.acknowledged response) → w.tracker.pending? id = some p →
      Cause h id p (.ok response))
    (hf : ∀ fault, result = .error fault → History.OfLink h fault) :
    Lands h w (w.sendEnded now b id result) := by
  have hflush := flushesFirst_afterwards hb
  unfold sendEnded
  cases result with
  | ok outcome =>
    cases outcome with
    | awaiting =>
      refine .andThen .rest (lands_run_serving now _ ?_ idle (.inl hflush))
      rw [List.map_nil, List.append_nil]
      exact hs
    | acknowledged response =>
      refine .andThen (follows_finish ht fun p hp => hack response p rfl hp)
        (lands_run_serving now _ ?_ idle (.inl hflush))
      rw [Turn.linkUp_after, releases_track, Bool.not_false, Bool.and_true]
      exact hs.of_within (DeliveryTracker.within_finish ht id _) fun _ hk => hk
  | error fault =>
    have hfail : Follows h w (w.track (w.tracker.sendFailed w.terms.policy id fault now)) :=
      follows_sendFailed ht _ (hf fault rfl)
    have hserving : Serving
        (History.linkUp
          (h ++ (w.track (w.tracker.sendFailed w.terms.policy id fault now)).effects.map .did))
        (w.track (w.tracker.sendFailed w.terms.policy id fault now)).worker := by
      rw [Turn.linkUp_after, releases_track, Bool.not_false, Bool.and_true]
      exact hs.of_within (DeliveryTracker.within_sendFailed ht _ id fault now) fun _ hk => hk
    by_cases hbreaks : fault.breaksLink
    · -- The link goes with the message.
      obtain ⟨hlost, hoffline⟩ := offline_linkLost hserving idle (Course.coherent hfail ht) now
        ((hf fault rfl).append _)
      simp only [hbreaks, ↓reduceIte]
      refine .andThen (hfail.andThen hlost) (lands_run_offline now _ ?_)
      rw [Turn.andThen_effects, List.map_append, ← List.append_assoc]
      exact hoffline
    · -- The link goes on with the next message.
      simp only [hbreaks, Bool.false_eq_true, ↓reduceIte]
      refine .andThen (hfail.andThen .rest) (lands_run_serving now _ ?_ idle (.inl hflush))
      rw [Turn.andThen_effects, List.append_nil]
      exact hserving

/-! ## The link at rest -/

/-- Messages without confirmation are queued again and handed over. -/
theorem lands_resendAll (hs : w.Serving (History.linkUp h)) (clear : w.queue = [])
    (idle : w.busy = none) (ht : w.tracker.Coherent) (hr : History.replaying h = false) (now : Nat)
    {ids : List Nat} (hids : ids.Pairwise (· < ·)) (tasks : List Task) :
    Lands h w ((resendAll now ids w).andThen (run now (.flush :: tasks))) := by
  obtain ⟨tracker, queue, hworker, -, hwithin, hqueue⟩ := resendAll_worker ht now ids
  refine .andThen (follows_resendAll ht hr hids (by simp [clear]))
    (lands_run_serving now _ ?_ ?_ (.inl rfl))
  · rw [Turn.linkUp_after, releases_resendAll, Bool.not_false, Bool.and_true, hworker]
    exact hs.of_within hwithin hqueue
  · rw [hworker]
    exact idle

/-- **The time to be woken has come.** -/
theorem lands_wake (hs : w.Situated (History.linkUp h)) (idle : w.busy = none)
    (ht : w.tracker.Coherent) (hr : History.replaying h = false) {now : Nat}
    (hn : now ≤ History.clock h) : Lands h w (w.wake now) := by
  have hexpire := lands_expire hs ht hn
  have hc := Course.coherent hexpire.follows ht
  rw [wake, Turn.andThen_assoc]
  refine .andThen hexpire.follows ?_
  obtain hoff | ⟨hserving, clear⟩ := hexpire.situated.of_idle idle
  · -- Without a link nothing is sent again.
    rw [if_neg hoff.state_ne]
    refine .andThen .rest (lands_run_offline now _ ?_)
    rw [List.map_nil, List.append_nil]
    exact hoff
  · -- The ids that are sent again are listed in their order.
    rw [if_pos hserving.state]
    refine lands_resendAll hserving clear idle hc ?_ now (SortedMap.keys_pairwise _) _
    rw [Turn.replaying_after, hr, Bool.false_and]

/-- **The link reports an event.** -/
theorem lands_eventAtRest (hs : w.Serving (History.linkUp h)) (clear : w.queue = [])
    (idle : w.busy = none) (ht : w.tracker.Coherent) (now : Nat) {e : Except Fault LinkEvent}
    (hack : ∀ id response p, e = .ok (.acknowledged id response) →
      w.tracker.pending? id = some p → Cause h id p (.ok response))
    (hf : ∀ fault, (∃ id, e = .ok (.rejected id fault)) ∨ e = .ok (.disconnected fault) ∨
      e = .error fault → History.OfLink h fault) : Lands h w (w.eventAtRest now e) := by
  have hsit : w.Situated (History.linkUp h) := .serving hs clear idle
  have hlost (fault : Fault) (hof : History.OfLink h fault) : Lands h w (w.linkLost now fault) := by
    obtain ⟨hfollows, hoff⟩ := offline_linkLost hs idle ht now hof
    exact ⟨hfollows, hoff.situated⟩
  match e with
  | .ok (.acknowledged id response) =>
    exact lands_track (follows_finish ht fun p hp => hack id response p rfl hp) ht
      (DeliveryTracker.within_finish ht id _) hsit
  | .ok (.rejected id fault) =>
    exact lands_track (follows_sendFailed ht _ (hf fault (.inl ⟨id, rfl⟩))) ht
      (DeliveryTracker.within_sendFailed ht _ id fault now) hsit
  | .ok (.notification n) =>
    refine ⟨.news (by simp [Effect.isNews]), ?_⟩
    rw [Turn.linkUp_after]
    simpa [eventAtRest, Turn.releases, Effect.isRelease] using hsit
  | .ok (.disconnected fault) => exact hlost fault (hf fault (.inr (.inl rfl)))
  | .error fault => exact hlost fault (hf fault (.inr (.inr rfl)))

/-! ## Steps -/

/-- The link can be abandoned whatever it does. -/
theorem lands_abandoned (hs : w.Situated (History.linkUp h)) (ht : w.tracker.Coherent)
    {now : Nat} {input : Input} (seen : .took w now input ∈ h) (hcloses : input.closes) (b : Busy)
    (reply : Option Nat) : Lands h w ({ w with busy := none }.interrupted now b reply) := by
  refine .of_aside (v := { w with busy := none }) rfl rfl rfl ?_
  exact lands_interrupted (w := { w with busy := none })
    (fun hclosed => (hs.dormant_of_closed hclosed).down) rfl ht
    (fun _ _ => .closed seen hcloses) now b reply

/-- **A step while the link connects.** -/
theorem lands_stepBusy_of_dialing (hs : w.Dialing (History.linkUp h)) (ht : w.tracker.Coherent)
    {b : Busy} (busy : w.busy = some b) {reason : StatusReason} (job : b.job = .connecting reason)
    {now : Nat} {input : Input} (light : input.isWeighty = false) (seen : .took w now input ∈ h)
    (hn : now ≤ History.clock h) : Lands h w (w.stepBusy now b input) := by
  have hsit : w.Situated (History.linkUp h) := .connecting hs busy job
  have hfailed (fault : Fault) (hf : History.OfLink h fault) :
      Lands h w ({ w with busy := none }.connectEnded now b reason (.error fault)) := by
    obtain ⟨hfollows, hoff⟩ :=
      offline_connectFailed (w := { w with busy := none }) { hs with } rfl ht now hf
    exact .of_aside (v := { w with busy := none }) rfl rfl rfl
      (.andThen hfollows (lands_run_offline now _ hoff))
  cases input with
  | command c =>
    cases c with
    | «open» reply =>
      simp only [stepBusy, commandWhileBusy, job]
      refine .of_aside (v := { w with waiters := w.waiters ++ [reply] }) rfl rfl rfl (.rest ?_)
      exact .connecting { hs with } busy job
    | close reply => exact lands_abandoned hsit ht seen rfl b (some reply)
    | submit => cases light
    | cancel id => exact lands_cancel hsit ht fun _ => .cancelled seen
    | settle request =>
      refine .of_aside
        (v := { w with busy := some { b with deferred := b.deferred ++ [request] } }) rfl rfl rfl ?_
      exact .rest (.connecting { hs with } rfl job)
  | abandoned => exact lands_abandoned hsit ht seen rfl b none
  | event e => exact .rest hsit
  | timer => exact lands_expire hsit ht hn
  | connected result =>
    simp only [stepBusy, job]
    cases result with
    | ok => cases light
    | error fault => exact hfailed fault (.of_seen seen rfl)
  | sent result =>
    simp only [stepBusy, job]
    exact .rest hsit
  | overtime =>
    simp only [stepBusy, job]
    exact hfailed .slowLink (.inr (.inl rfl))

/-- **A step while the link takes a message.** -/
theorem lands_stepBusy_of_sending (hs : w.Serving (History.linkUp h)) (ht : w.tracker.Coherent)
    {b : Busy} (busy : w.busy = some b) {id : Nat} {next : List Task} (job : b.job = .sending id)
    (flush : b.next = .flush :: next) {now : Nat} {input : Input} (light : input.isWeighty = false)
    (seen : .took w now input ∈ h) (hn : now ≤ History.clock h) :
    Lands h w (w.stepBusy now b input) := by
  have hsit : w.Situated (History.linkUp h) := .sending hs busy job flush
  have hended (result : Except Fault SendOutcome)
      (hack : ∀ response p, result = .ok (.acknowledged response) →
        w.tracker.pending? id = some p → Cause h id p (.ok response))
      (hf : ∀ fault, result = .error fault → History.OfLink h fault) :
      Lands h w ({ w with busy := none }.sendEnded now b id result) :=
    .of_aside (v := { w with busy := none }) rfl rfl rfl
      (lands_sendEnded (w := { w with busy := none }) { hs with } rfl ht now flush hack hf)
  cases input with
  | command c =>
    cases c with
    | «open» reply =>
      simp only [stepBusy, commandWhileBusy, job]
      refine ⟨.news (by simp [Effect.isNews]), ?_⟩
      simpa [Occurrence.linkUp] using hsit
    | close reply => exact lands_abandoned hsit ht seen rfl b (some reply)
    | submit => cases light
    | cancel id => exact lands_cancel hsit ht fun _ => .cancelled seen
    | settle request =>
      refine .of_aside
        (v := { w with busy := some { b with deferred := b.deferred ++ [request] } }) rfl rfl rfl ?_
      exact .rest (.sending { hs with } rfl job flush)
  | abandoned => exact lands_abandoned hsit ht seen rfl b none
  | event e => exact .rest hsit
  | timer => exact lands_expire hsit ht hn
  | connected result =>
    simp only [stepBusy, job]
    exact .rest hsit
  | sent result =>
    simp only [stepBusy, job]
    refine hended result ?_ ?_
    · rintro response p rfl hp
      obtain ⟨m, hm⟩ := ht.message_of_pending hp
      exact .confirmed seen (DeliveryTracker.mem_outstanding.2 (by rw [hm]; rfl))
        (.inr ⟨rfl, b, busy, job⟩)
    · rintro fault rfl
      exact .of_seen seen rfl
  | overtime =>
    simp only [stepBusy, job]
    refine hended _ ?_ ?_
    · rintro response p ⟨⟩ _
    · rintro fault ⟨⟩
      exact .inr (.inl rfl)

/-- Settling an inbound message. -/
theorem lands_settle (hs : w.Situated (History.linkUp h))
    (hup : w.state = .open → History.linkUp h = true) (request : SettleRequest) :
    Lands h w (w.settle request) where
  follows := follows_settle hup request
  situated := by
    rw [linkUp_settle]
    exact hs

/-- Answers and news lead nowhere. -/
theorem lands_news (hs : w.Situated (History.linkUp h)) {es : List Effect}
    (hes : ∀ e ∈ es, e.isNews) : Lands h w { worker := w, effects := es } where
  follows := .news hes
  situated := by
    have hquiet : Turn.releases { worker := w, effects := es } = false := by
      rw [Turn.releases, List.any_eq_false]
      intro e he
      have hnews := hes e he
      cases e <;> simp_all [Effect.isNews, Effect.isRelease]
    rw [Turn.linkUp_after, hquiet, Bool.not_false, Bool.and_true]
    exact hs

/-- **The connection is to be opened.** -/
theorem lands_open (hs : w.Situated (History.linkUp h)) (idle : w.busy = none)
    (going : w.stopped = false) (now reply : Nat) :
    Lands h w (w.commandAtRest now (.open reply)) := by
  have hwait (s : w.Awaiting (History.linkUp h)) :
      Lands h w { worker := { w with waiters := w.waiters ++ [reply] } } := by
    refine .of_aside (v := { w with waiters := w.waiters ++ [reply] }) rfl rfl rfl (.rest ?_)
    exact .waiting { s with }
  rw [commandAtRest]
  split <;> rename_i hstate <;> obtain (s | s) | ⟨s, clear⟩ := hs.of_idle idle <;>
    rw [s.state] at hstate <;> cases hstate
  -- Left are an open connection, one that waits, and a closed one.
  · exact lands_news hs (by simp [Effect.isNews])
  · exact hwait s
  · dsimp only
    split
    · exact lands_news hs (by simp [Effect.isNews])
    · refine .of_aside (v := { w with waiters := w.waiters ++ [reply], attempt := 0 }) rfl rfl rfl
        (.andThen (follows_enter rfl) ?_)
      rw [enter_worker]
      refine lands_connect ?_ now _ []
      rw [Turn.linkUp_after, releases_enter, Bool.not_false, Bool.and_true]
      exact { s with state := .inl rfl, going := going }

/-- **A step while the link is at rest.** -/
theorem lands_stepAtRest (hs : w.Situated (History.linkUp h)) (ht : w.tracker.Coherent)
    (idle : w.busy = none) (going : w.stopped = false) {now : Nat} {input : Input}
    (light : input.isWeighty = false) (seen : .took w now input ∈ h)
    (hn : now ≤ History.clock h) (hr : History.replaying h = false) :
    Lands h w (w.stepAtRest now input) := by
  have hup (hopen : w.state = .open) : History.linkUp h = true := by
    obtain hoff | ⟨hserving, -⟩ := hs.of_idle idle
    · exact absurd hopen hoff.state_ne
    · exact hserving.up
  have hclose (hcloses : input.closes) := dormant_close
    (fun hclosed => (hs.dormant_of_closed hclosed).down) idle ht fun _ _ => .closed seen hcloses
  cases input with
  | command c =>
    cases c with
    | «open» reply => exact lands_open hs idle going now reply
    | close reply =>
      obtain ⟨hfollows, hdormant⟩ := hclose rfl
      refine .andThen (f := fun v => { worker := v, effects := [.reply reply (.ok ())] }) hfollows
        (lands_news (.closed hdormant) ?_)
      simp [Effect.isNews]
    | submit => cases light
    | cancel id => exact lands_cancel hs ht fun _ => .cancelled seen
    | settle request => exact lands_settle hs hup request
  | abandoned =>
    obtain ⟨hfollows, hdormant⟩ := hclose rfl
    refine .andThen (f := fun v => { worker := { v with stopped := true } }) hfollows ?_
    refine .of_aside (v := { w.close.worker with stopped := true }) rfl rfl rfl (.rest ?_)
    exact .closed { hdormant with }
  | event e =>
    rw [stepAtRest]
    obtain hoff | ⟨hserving, clear⟩ := hs.of_idle idle
    · rw [if_neg hoff.state_ne]
      exact .rest hs
    · rw [if_pos hserving.state]
      refine lands_eventAtRest hserving clear idle ht now ?_ ?_
      · rintro id response p rfl hp
        obtain ⟨m, hm⟩ := ht.message_of_pending hp
        exact .confirmed seen (DeliveryTracker.mem_outstanding.2 (by rw [hm]; rfl)) (.inl rfl)
      · rintro fault (⟨id, rfl⟩ | rfl | rfl)
        · exact .of_seen seen rfl
        · exact .of_seen seen rfl
        · exact .of_seen seen rfl
  | timer => exact lands_wake hs idle ht hr hn
  | connected | sent | overtime => exact .rest hs

/-! ## Courses of steps -/

/-- A step is a course that ends in a situation. -/
structure Advances (h : List Occurrence) (w : Worker) (now : Nat) (input : Input) : Prop where
  course : Course ⟨h, w⟩ ⟨h ++ w.seen now input, (w.step now input).worker⟩
  situated : (w.step now input).worker.Situated (History.linkUp (h ++ w.seen now input))

/-- An input is taken, perhaps with consequences of its own, and the step lands. -/
theorem Advances.of_lands {v : Worker} {now : Nat} {input : Input} (takes : w.takes input)
    (hc : Course ⟨h, w⟩ ⟨h ++ [.took w now input], v⟩)
    (hl : Lands (h ++ [.took w now input]) v (w.step now input)) : Advances h w now input where
  course := by
    have hcourse : Course ⟨h, w⟩ ((w.step now input).after (h ++ [.took w now input])) :=
      ReflTransGen.trans hc hl.follows
    rw [Turn.after, List.append_assoc] at hcourse
    rw [seen_of_takes takes]
    exact hcourse
  situated := by
    have hs := hl.situated
    rw [List.append_assoc] at hs
    rw [seen_of_takes takes]
    exact hs

theorem going_of_takes {input : Input} (takes : w.takes input) : w.stopped = false := by
  have hgoing : !w.stopped := (Bool.and_eq_true_iff.1 takes).1
  simpa using hgoing

theorem step_of_busy {b : Busy} (going : w.stopped = false) (busy : w.busy = some b) (now : Nat)
    (input : Input) : w.step now input = w.stepBusy now b input := by
  rw [step, going, busy]
  rfl

theorem step_of_idle (going : w.stopped = false) (idle : w.busy = none) (now : Nat)
    (input : Input) : w.step now input = w.stepAtRest now input := by
  rw [step, going, idle]
  rfl

/-- A step that takes an input without consequences of its own. -/
theorem advances_of_light (hs : w.Situated (History.linkUp h)) (ht : w.tracker.Coherent) {now : Nat}
    {input : Input} (takes : w.takes input) (light : input.isWeighty = false) :
    Advances h w now input := by
  have going := going_of_takes takes
  have seen : .took w now input ∈ h ++ [.took w now input] := by simp
  have hn : now ≤ History.clock (h ++ [.took w now input]) := by simp [Occurrence.clock]
  have hs' : w.Situated (History.linkUp (h ++ [.took w now input])) := by
    rw [History.linkUp_took h w now (by rintro rfl; cases light)]
    exact hs
  refine .of_lands takes (.single (.took takes light)) ?_
  cases hb : w.busy with
  | none =>
    -- Only a worker at rest sends again, and by then nothing is being handed over again.
    have hr : History.replaying (h ++ [.took w now input]) = false := by
      rw [History.replaying_took h hb now (by rintro rfl; cases light)]
    rw [step_of_idle going hb]
    exact lands_stepAtRest hs' ht hb going light seen hn hr
  | some b =>
    rw [step_of_busy going hb]
    obtain ⟨reason, s, job⟩ | ⟨id, next, s, job, flush⟩ := hs'.of_busy hb
    · exact lands_stepBusy_of_dialing s ht hb job light seen hn
    · exact lands_stepBusy_of_sending s ht hb job flush light seen hn

/-- The step at which the link comes up. -/
theorem advances_connected (hs : w.Situated (History.linkUp h)) {now : Nat}
    (takes : w.takes (.connected (.ok ()))) : Advances h w now (.connected (.ok ())) := by
  have going := going_of_takes takes
  obtain ⟨b, reason, busy, job, s⟩ := hs.of_isConnecting (Bool.and_eq_true_iff.1 takes).2
  refine .of_lands takes (.single (.connected takes s.down)) ?_
  rw [step_of_busy going busy, stepBusy, job]
  refine .of_aside (v := { w with queue := w.tracker.outstanding, busy := none }) rfl rfl rfl ?_
  refine lands_connectionUp (w := { w with busy := none }) ?_ rfl going now reason _
  simp [Occurrence.linkUp]

section Submit

variable {now completion deadline : Nat} {message : Outbound}

/-- A submission that is refused. -/
theorem advances_of_refused (hs : w.Situated (History.linkUp h))
    (takes : w.takes (.command (.submit message completion deadline))) {fault : Fault}
    (hfault : fault = .closed ∨
      fault = .duplicateId message.id ∧ (w.tracker.pending? message.id).isSome)
    (hstep : w.step now (.command (.submit message completion deadline)) =
      { worker := w, effects := [.complete ⟨completion, .error fault⟩] }) :
    Advances h w now (.command (.submit message completion deadline)) where
  course := by
    rw [seen_of_takes takes, hstep]
    exact .single (.refused takes hfault)
  situated := by
    rw [seen_of_takes takes, hstep, List.append_cons, History.linkUp_append,
      History.linkUp_took h w now (by rintro ⟨⟩)]
    exact hs

/-- A submission that is not refused outright: the message is taken on before what follows, unless
its id is in use. -/
theorem advances_of_submit (hs : w.Situated (History.linkUp h))
    (takes : w.takes (.command (.submit message completion deadline))) {f : Worker → Turn}
    (hstep : w.step now (.command (.submit message completion deadline)) =
      (w.track (w.tracker.submit message completion deadline)).andThen fun v =>
        match (w.tracker.submit message completion deadline).value with
        | .ok () => f v
        | .error _ => { worker := v })
    (hf : ∀ up, up = History.linkUp h →
      Lands (h ++ [.took w now (.command (.submit message completion deadline))])
        { w with
          tracker := w.tracker.enroll message ⟨completion, deadline⟩
          queue := if up then w.queue ++ [message.id] else w.queue }
        (f { w with tracker := w.tracker.enroll message ⟨completion, deadline⟩ })) :
    Advances h w now (.command (.submit message completion deadline)) := by
  obtain ⟨hused, heq⟩ | ⟨hfresh, heq⟩ := w.tracker.submit_eq message completion deadline
  · rw [heq] at hstep
    exact advances_of_refused hs takes (.inr ⟨rfl, hused⟩) hstep
  · rw [heq] at hstep
    refine .of_lands takes (.single (.enrolled takes hfresh)) ?_
    rw [hstep]
    exact hf _ rfl

/-- A message that is taken on is covered by being queued. -/
theorem Serving.enroll {up : Bool} (s : w.Serving up) (p : PendingCorrelation) :
    Serving up
      { w with tracker := w.tracker.enroll message p, queue := w.queue ++ [message.id] } := by
  refine { s with covered := fun id m hm => ?_ }
  rw [List.mem_append, List.mem_singleton]
  rw [DeliveryTracker.message?_enroll] at hm
  by_cases hid : message.id = id
  · exact .inr (.inr hid.symm)
  · rw [if_neg hid] at hm
    exact (s.covered id m hm).imp_right .inl

/-- **The step that takes a submission.** -/
theorem advances_submit (hs : w.Situated (History.linkUp h))
    (takes : w.takes (.command (.submit message completion deadline))) :
    Advances h w now (.command (.submit message completion deadline)) := by
  have going := going_of_takes takes
  have hup : History.linkUp (h ++ [.took w now (.command (.submit message completion deadline))]) =
      History.linkUp h := History.linkUp_took h w now (by rintro ⟨⟩)
  cases hb : w.busy with
  | some b =>
    have hstep := step_of_busy going hb now (.command (.submit message completion deadline))
    obtain ⟨reason, s, job⟩ | ⟨id, next, s, job, flush⟩ := hs.of_busy hb
    · -- While the link connects the message is taken on only.
      refine advances_of_submit (f := fun v => { worker := v }) hs takes ?_ ?_
      · rw [hstep, stepBusy, commandWhileBusy, job]
        congr 1
        funext v
        cases (w.tracker.submit message completion deadline).value <;> rfl
      · rintro up rfl
        rw [s.down]
        refine .rest ?_
        rw [hup]
        exact .connecting { s with } hb job
    · -- While the link takes another message it is queued, too.
      refine advances_of_submit
        (f := fun v => { worker := { v with queue := v.queue ++ [message.id] } }) hs takes ?_ ?_
      · rw [hstep, stepBusy, commandWhileBusy, job]
        congr 1
        funext v
        cases (w.tracker.submit message completion deadline).value <;> rfl
      · rintro up rfl
        rw [s.up]
        refine .rest ?_
        rw [hup]
        exact .sending (s.enroll _) hb job flush
  | none =>
    have hstep := step_of_idle going hb now (.command (.submit message completion deadline))
    obtain (s | s) | ⟨s, clear⟩ := hs.of_idle hb
    · -- A closed connection refuses it.
      refine advances_of_refused hs takes (.inl rfl) ?_
      rw [hstep, stepAtRest, commandAtRest, if_pos s.state]
    · -- It waits for the next link.
      refine advances_of_submit (f := fun v => { worker := v }) hs takes ?_ ?_
      · rw [hstep, stepAtRest, commandAtRest, if_neg (by simp [s.state])]
        cases hv : (w.tracker.submit message completion deadline).value <;>
          simp [Turn.andThen, track, s.state, hv]
      · rintro up rfl
        rw [s.down]
        refine .rest ?_
        rw [hup]
        exact .waiting { s with }
    · -- It is queued and handed over at once.
      refine advances_of_submit (f := fun v => run now [.flush] (v.enqueue message.id)) hs takes
        ?_ ?_
      · rw [hstep, stepAtRest, commandAtRest, if_neg (by simp [s.state])]
        cases hv : (w.tracker.submit message completion deadline).value <;>
          simp [Turn.andThen, track, s.state, hv]
      · rintro up rfl
        have s' : Serving (History.linkUp (h ++
            [.took w now (.command (.submit message completion deadline))])) w := by
          rw [hup]
          exact s
        rw [s.up, enqueue_of_last (by simp [clear])]
        exact lands_run_serving now [.flush] (s'.enroll _) hb (.inl rfl)

end Submit

/-- **Every step that takes an input is a course.** -/
theorem advances (hs : w.Situated (History.linkUp h)) (ht : w.tracker.Coherent) {now : Nat}
    {input : Input} (takes : w.takes input) : Advances h w now input := by
  cases light : input.isWeighty with
  | false => exact advances_of_light hs ht takes light
  | true =>
    match input, light with
    | .command (.submit ..), _ => exact advances_submit hs takes
    | .connected (.ok ()), _ => exact advances_connected hs takes

/-! ## Runs -/

/-- A worker in a situation is in one after every step. -/
theorem course_step (hs : w.Situated (History.linkUp h)) (ht : w.tracker.Coherent) (now : Nat)
    (input : Input) : Advances h w now input := by
  cases takes : w.takes input with
  | true => exact advances hs ht takes
  | false =>
    refine ⟨?_, ?_⟩
    · rw [seen, takes, step_of_not_takes now takes]
      simpa using ReflTransGen.refl
    · rw [seen, takes, step_of_not_takes now takes]
      simpa using hs

/-- **Inputs are answered by a course** that ends in a situation. -/
theorem course_after (hs : w.Situated (History.linkUp h)) (ht : w.tracker.Coherent)
    (inputs : List (Nat × Input)) :
    Course ⟨h, w⟩ ⟨h ++ w.history inputs, w.after inputs⟩ ∧
      (w.after inputs).Situated (History.linkUp (h ++ w.history inputs)) := by
  -- The induction is on the inputs; the situation and the coherence of the tracker carry it.
  induction inputs generalizing h w with
  | nil =>
    rw [history, List.append_nil]
    exact ⟨.refl, hs⟩
  | cons i inputs ih =>
    obtain ⟨now, input⟩ := i
    have hstep := course_step hs ht now input
    obtain ⟨hcourse, hsituated⟩ := ih hstep.situated (Course.coherent hstep.course ht)
    rw [List.append_assoc] at hcourse hsituated
    exact ⟨ReflTransGen.trans hstep.course hcourse, hsituated⟩

/-- A worker that has done nothing is dormant. -/
theorem dormant_new (terms : Terms) : (Worker.new terms).Dormant false :=
  ⟨rfl, rfl, rfl, rfl, rfl, rfl, rfl, rfl⟩

/-- **A run from the beginning is a course.** -/
theorem course_of_run (terms : Terms) (inputs : List (Nat × Input)) :
    Course ⟨[], .new terms⟩ ⟨(Worker.new terms).history inputs, (Worker.new terms).after inputs⟩ :=
  (course_after (h := []) (.closed (dormant_new terms)) DeliveryTracker.coherent_empty inputs).1

/-- **Between any two steps of a run the worker is in a situation.** -/
theorem situated_of_run (terms : Terms) (inputs : List (Nat × Input)) :
    ((Worker.new terms).after inputs).Situated
      (History.linkUp ((Worker.new terms).history inputs)) :=
  (course_after (h := []) (.closed (dormant_new terms)) DeliveryTracker.coherent_empty inputs).2

/-- Along a run the tracker is coherent. -/
theorem coherent_of_run (terms : Terms) (inputs : List (Nat × Input)) :
    ((Worker.new terms).after inputs).tracker.Coherent :=
  Course.coherent (course_of_run terms inputs) DeliveryTracker.coherent_empty

end Worker

/-! ## A run with a renewal

A device opens its connection and hands over a reading that is not confirmed. When the token is
renewed, another reading is submitted while the link connects; both are handed over on the new link,
and the first is confirmed. -/

namespace Renewal

/-- The terms of the device. -/
def terms : Terms where
  identity := ⟨"hub", "pump"⟩
  operationLimit := 30
  ackTimeout := 1000
  renewal := some 50
  policy := .ofOptions {}

/-- A reading of the device. -/
def reading (id : Nat) : Outbound where
  id
  kind := .telemetry
  message := .empty

/-- What happens until the token is renewed. -/
def before : List (Nat × Input) :=
  [(0, .command (.open 1)), (1, .connected (.ok ())),
    (2, .command (.submit (reading 1) 101 900)), (3, .sent (.ok .awaiting)), (60, .timer),
    (60, .command (.submit (reading 2) 102 900))]

/-- What happens on the new link. -/
def onLink : List (Nat × Input) :=
  [(61, .connected (.ok ())), (62, .sent (.ok .awaiting)), (63, .sent (.ok .awaiting)),
    (64, .event (.ok (.acknowledged 1 none)))]

end Renewal

end HubLink
