import HubLink.Proofs.Connection.Schedule

/-! # Resends in time

Along a run whose clock does not go back, every worker is on schedule for every message
(`Worker.onSchedule_of_run`), so a message that is handed over again on the same link is handed over
in time: when its confirmation is overdue, or when the delay after the last failure that the link
reported is over (`Worker.keepsSchedule_of_run`). A busy service decides about that delay itself;
after any other failure its hint is not looked at (`Worker.not_heedsHints_of_breakdown`). -/

namespace HubLink

namespace Worker

/-! ## Runs -/

section Runs

variable {terms : Terms} {inputs : List (Nat × Input)} {id : Nat}

/-- When the instants of the inputs do not go back, the clock does not either. -/
theorem clock_history_le {w : Worker} {now : Nat} (hle : ∀ i ∈ inputs, i.1 ≤ now) :
    History.clock (w.history inputs) ≤ now := by
  induction inputs using List.reverseRecOn with
  | nil => exact Nat.zero_le now
  | append_singleton inputs i ih =>
    obtain ⟨t, input⟩ := i
    rw [history_concat, seen]
    split
    · rw [History.clock_append, List.foldl_cons, History.foldl_clock_did]
      exact hle (t, input) (by simp)
    · rw [List.append_nil]
      exact ih fun i hi => hle i (List.mem_append_left _ hi)

/-- What a worker with distinct ids takes on is new to it. -/
theorem fresh_of_distinctIds {inputs : List (Nat × Input)} {now : Nat} {input : Input}
    (hd : History.DistinctIds ((Worker.new terms).history (inputs ++ [(now, input)])))
    (takes : ((Worker.new terms).after inputs).takes input) (ackTimeout id : Nat)
    (message : Outbound) (completion deadline : Nat)
    (heq : input = .command (.submit message completion deadline)) :
    message.id ∉ ((Worker.new terms).after inputs).queue ∧
      (message.id = id →
        History.due ackTimeout id ((Worker.new terms).history inputs) = none) := by
  subst heq
  have hknown := Course.known (course_of_run terms inputs)
  rw [history_concat, seen_of_takes takes] at hd
  have hnew : message.id ∉ History.submitted ((Worker.new terms).history inputs) :=
    hd.not_mem (by simp [History.submitted, History.submissions, Occurrence.submission?,
      Submission.id])
  refine ⟨fun hmem => hnew (hknown.queue hmem), ?_⟩
  rintro rfl
  rw [Option.eq_none_iff_forall_ne_some]
  intro d hdue
  exact hnew (hknown.handOvers (History.mem_handOvers_of_due hdue))

/-- **Each step of a run keeps to the schedule** if the worker was on schedule before. -/
theorem keeps_of_run {now : Nat} {input : Input}
    (hmono : (inputs ++ [(now, input)]).Pairwise (·.1 ≤ ·.1))
    (hd : History.DistinctIds ((Worker.new terms).history (inputs ++ [(now, input)])))
    (takes : ((Worker.new terms).after inputs).takes input)
    (hs : ((Worker.new terms).after inputs).OnSchedule id
      (History.clock ((Worker.new terms).history inputs))
      (History.due terms.ackTimeout id ((Worker.new terms).history inputs))) :
    (((Worker.new terms).after inputs).step now input).Keeps id now
      (History.due terms.ackTimeout id ((Worker.new terms).history inputs ++
        [.took ((Worker.new terms).after inputs) now input])) := by
  have hle : History.clock ((Worker.new terms).history inputs) ≤ now :=
    clock_history_le fun i hi =>
      (List.pairwise_append.1 hmono).2.2 i hi (now, input) (List.mem_singleton_self _)
  rw [History.due_took]
  exact keeps_step (situated_of_run terms inputs) (coherent_of_run terms inputs) (hs.mono hle) takes
    (fresh_of_distinctIds hd takes terms.ackTimeout id)

/-- **Along a run a worker is on schedule.** -/
theorem onSchedule_of_run (hmono : inputs.Pairwise (·.1 ≤ ·.1))
    (hd : History.DistinctIds ((Worker.new terms).history inputs)) (id : Nat) :
    ((Worker.new terms).after inputs).OnSchedule id
      (History.clock ((Worker.new terms).history inputs))
      (History.due terms.ackTimeout id ((Worker.new terms).history inputs)) := by
  -- The induction is on the last input; whether it is taken decides what is seen of it.
  induction inputs using List.reverseRecOn with
  | nil => exact .new terms id _
  | append_singleton inputs i ih =>
    obtain ⟨now, input⟩ := i
    have hd' := hd
    rw [history_concat] at hd'
    have hs := ih (List.pairwise_append.1 hmono).1 hd'.of_append
    cases takes : ((Worker.new terms).after inputs).takes input with
    | false =>
      rw [history_concat, after_concat, step_of_not_takes now takes, seen, takes]
      simpa using hs
    | true =>
      have hkeeps := keeps_of_run hmono hd takes hs
      have hterms : ((Worker.new terms).after (inputs ++ [(now, input)])).terms = terms :=
        Course.terms (course_of_run terms _)
      rw [after_concat] at hterms
      have hclock : History.clock ((Worker.new terms).history inputs ++
          [.took ((Worker.new terms).after inputs) now input]) = now := by
        rw [History.clock_append]
        rfl
      rw [history_concat, after_concat, seen_of_takes takes, List.append_cons,
        History.clock_append, hclock, History.foldl_clock_did]
      cases hkeeps with
      | spared unsent after =>
        rw [History.due_effects _ unsent]
        exact after
      | sent only ripe after =>
        rw [History.due_effects_of_sent _ only, hclock]
        rw [hterms] at after
        exact after

/-- **A message is handed over again only when its time has come.** -/
theorem due_le_clock_of_send (hmono : inputs.Pairwise (·.1 ≤ ·.1))
    (hd : History.DistinctIds ((Worker.new terms).history inputs)) {pre post : List Occurrence}
    {message : Outbound}
    (hp : (Worker.new terms).history inputs = pre ++ .did (.send message) :: post) {due : Nat}
    (hdue : History.due terms.ackTimeout message.id pre = some due) :
    due ≤ History.clock pre := by
  -- The hand-over is an effect of one step, before which the worker is on schedule.
  obtain ⟨before, now, input, es, es', ⟨rest, rfl⟩, takes, heffects, rfl⟩ := effect_split hp
  rw [history_append] at hd
  have hmono' := (List.pairwise_append.1 hmono).1
  have hd' := hd.of_append
  rw [history_concat] at hd'
  have hkeeps := keeps_of_run hmono' hd.of_append takes
    (onSchedule_of_run (List.pairwise_append.1 hmono').1 hd'.of_append message.id)
  have hsent : (((Worker.new terms).after before).step now input).handOvers =
      History.handOvers (es.map .did) ++ message.id :: History.handOvers (es'.map .did) := by
    rw [Turn.handOvers, heffects, List.map_append, History.handOvers_append]
    rfl
  have hclock : History.clock ((Worker.new terms).history before ++
      .took ((Worker.new terms).after before) now input :: es.map .did) = now := by
    rw [History.clock_append, List.foldl_cons, History.foldl_clock_did]
    rfl
  rw [hclock]
  cases hkeeps with
  | spared unsent after =>
    rw [hsent] at unsent
    exact absurd (List.mem_append_right _ (List.mem_cons_self ..)) unsent
  | sent only ripe after =>
    -- It is the only message that the step hands over.
    rw [hsent] at only
    have hnone : History.handOvers (es.map .did) = [] := by
      rw [← List.length_eq_zero_iff]
      have := congrArg List.length only
      simp only [List.length_append, List.length_cons, List.length_nil] at this
      omega
    rw [List.append_cons, History.due_effects _ (by rw [hnone]; exact List.not_mem_nil)] at hdue
    exact ripe due hdue

/-- What is not under way any more is never handed over again. -/
theorem not_mem_handOvers_of_gone (before rest : List (Nat × Input)) {id : Nat}
    (hd : History.DistinctIds ((Worker.new terms).history (before ++ rest)))
    (hold : id ∈ History.submitted ((Worker.new terms).history before))
    (hgone : ((Worker.new terms).after before).tracker.message? id = none) :
    id ∉ History.handOvers (((Worker.new terms).after before).history rest) := by
  refine Course.not_mem_handOvers (course_after (situated_of_run terms _) (coherent_of_run terms _)
    rest).1 (coherent_of_run terms _) rfl ?_ fun hnew => ?_
  · show id ∉ ((Worker.new terms).after before).tracker.outstanding
    rw [DeliveryTracker.mem_outstanding, hgone]
    simp
  · rw [history_append] at hd
    exact hd.not_mem hnew hold

end Runs

end Worker

/-! ## What was seen between two hand-overs -/

namespace History

/-- The link reports no failure of the message of an id. -/
def Unreported (id : Nat) (h : List Occurrence) : Prop :=
  ∀ w now input, .took w now input ∈ h → w.reportedFault? id input = none

/-- **A message is handed over on a link at `t₁` and next at `t₂`**, with `mid` seen in between. -/
structure HandedOverAgain (h : List Occurrence) (id : Nat) (mid : List Occurrence)
    (t₁ t₂ : Nat) : Prop where
  /-- The message is handed over before and after. -/
  split : ∃ pre first again post,
    h = pre ++ .did (.send first) :: (mid ++ .did (.send again) :: post) ∧
      first.id = id ∧ again.id = id ∧
      clock pre = t₁ ∧ clock (pre ++ .did (.send first) :: mid) = t₂
  /-- The link stays up. -/
  link : .did .release ∉ mid
  /-- The message is not handed over in between. -/
  next : id ∉ handOvers mid

variable {ackTimeout id : Nat} {h mid : List Occurrence}

/-- The message stays on the schedule as long as the link does not come up anew. -/
theorem isSome_due_append (hup : ∀ w now, .took w now (.connected (.ok ())) ∉ mid)
    (hdue : (due ackTimeout id h).isSome) : (due ackTimeout id (h ++ mid)).isSome := by
  induction mid generalizing h with
  | nil => rwa [List.append_nil]
  | cons o mid ih =>
    rw [List.append_cons]
    refine ih (fun w now hmem => hup w now (List.mem_cons_of_mem _ hmem)) ?_
    rw [due_concat]
    cases o with
    | took w now input =>
      have hne : input ≠ .connected (.ok ()) := by
        rintro rfl
        exact hup w now (List.mem_cons_self ..)
      rw [Occurrence.due, Worker.dueAfter_eq hne, Option.isSome_map]
      exact hdue
    | did e =>
      cases e with
      | send message =>
        rw [Occurrence.due]
        split
        · rfl
        · exact hdue
      | connect | settle | release | reply | complete | tell => exact hdue

/-- While the message is not handed over and no failure of it is reported, its schedule stays. -/
theorem due_append_of_unreported (hup : ∀ w now, .took w now (.connected (.ok ())) ∉ mid)
    (hunsent : id ∉ handOvers mid) (hun : Unreported id mid) :
    due ackTimeout id (h ++ mid) = due ackTimeout id h := by
  induction mid generalizing h with
  | nil => rw [List.append_nil]
  | cons o mid ih =>
    rw [← List.singleton_append, handOvers_append, List.mem_append, not_or] at hunsent
    rw [List.append_cons, ih (fun w now hmem => hup w now (List.mem_cons_of_mem _ hmem)) hunsent.2
      fun w now input hmem => hun w now input (List.mem_cons_of_mem _ hmem)]
    cases o with
    | took w now input =>
      have hne : input ≠ .connected (.ok ()) := by
        rintro rfl
        exact hup w now (List.mem_cons_self ..)
      rw [due_took, Worker.dueAfter_of_unreported (hun w now input (List.mem_cons_self ..)) hne]
    | did e => exact due_effects [e] hunsent.1

end History

/-- **Resends respect the schedule**, given what was seen of a worker with these terms. -/
structure KeepsSchedule (terms : Terms) (h : List Occurrence) : Prop where
  /-- Unless the link reports a failure of the message, it is handed over again only when its
  confirmation is overdue. -/
  unconfirmed : ∀ id mid t₁ t₂, History.HandedOverAgain h id mid t₁ t₂ →
    History.Unreported id mid → deadlineAfter t₁ terms.ackTimeout ≤ t₂
  /-- After the last failure that the link reports, it is handed over again only when the delay of
  the policy is over; that is the delay the service asks for, if it is busy and asks for one. -/
  reported : ∀ id mid t₁ t₂, History.HandedOverAgain h id mid t₁ t₂ →
    ∀ before v now input fault after, mid = before ++ .took v now input :: after →
      v.reportedFault? id input = some fault → History.Unreported id after →
        ∃ m delay, v.tracker.message? id = some m ∧
          terms.policy.decide fault.kind m.message.retryCount = .retry delay ∧
          (∀ hint, fault.kind = .throttled (some hint) → delay = hint) ∧
          deadlineAfter now delay ≤ t₂

/-- A busy service that asks for a delay is given it. -/
theorem RetryPolicy.delay_of_throttled {policy : RetryPolicy} {hint n delay : Nat}
    (h : policy.decide (.throttled (some hint)) n = .retry delay) : delay = hint := by
  unfold RetryPolicy.decide Curve.decide at h
  split at h
  · cases h
  · exact (Decision.retry.inj h).symm

namespace Worker

/-- A failure that the link reports is a failure of the message. -/
theorem fails_of_reported {w : Worker} {id : Nat} {input : Input} {fault : Fault}
    (h : w.reportedFault? id input = some fault) (now : Nat) : w.Fails now id input fault := by
  unfold reportedFault? at h
  split at h
  · obtain ⟨rfl, heq⟩ := Option.ite_none_right_eq_some.1 h
    obtain rfl := Option.some.inj heq
    exact .rejected
  · obtain ⟨hsending, heq⟩ := Option.ite_none_right_eq_some.1 h
    obtain rfl := Option.some.inj heq
    obtain ⟨b, busy, job⟩ := sending?_eq_some_iff.1 hsending
    exact .unsent busy job
  · obtain ⟨hsending, heq⟩ := Option.ite_none_right_eq_some.1 h
    obtain rfl := Option.some.inj heq
    obtain ⟨b, busy, job⟩ := sending?_eq_some_iff.1 hsending
    exact .slow busy job
  · cases h

variable {terms : Terms} {inputs : List (Nat × Input)}

/-- While a link stays up it does not come up anew. -/
theorem not_connected_of_linkUp {pre mid post : List Occurrence}
    (hp : (Worker.new terms).history inputs = pre ++ (mid ++ post))
    (hup : History.linkUp pre = true) (hrelease : .did .release ∉ mid) (v : Worker) (now : Nat) :
    .took v now (.connected (.ok ())) ∉ mid := by
  intro hmem
  obtain ⟨earlier, later, rfl⟩ := List.append_of_mem hmem
  have hsplit : (Worker.new terms).history inputs =
      (pre ++ earlier) ++ .took v now (.connected (.ok ())) :: (later ++ post) := by
    rw [hp]
    simp
  obtain ⟨before, after, -, hbefore, hv, takes, -⟩ := history_split hsplit
  have hsit := situated_of_run terms before
  rw [← hv, ← hbefore] at hsit
  obtain ⟨_, _, -, -, hdialing⟩ := hsit.of_isConnecting (Bool.and_eq_true_iff.1 takes).2
  have hdown := hdialing.down
  rw [History.linkUp_append, hup, History.foldl_eq_self (r := true)] at hdown
  · cases hdown
  · intro o ho
    unfold Occurrence.linkUp
    split
    · rfl
    · exact absurd (List.mem_append_left _ ho) hrelease
    · rfl

/-- A message is handed over while the link is up. -/
theorem linkUp_of_send {pre post : List Occurrence} {message : Outbound}
    (hp : (Worker.new terms).history inputs = pre ++ .did (.send message) :: post) :
    History.linkUp pre = true := by
  obtain ⟨m, os, -, -, hemits, hpre⟩ := Course.at_effect (course_of_run terms inputs) hp
  cases hemits with
  | sent up next => rwa [hpre, List.append_nil]
  | plain plain => cases plain

/-- **After the failure that the link reports for a message, it is handed over again only if the
policy gives it another attempt.** -/
theorem retry_of_reported (hd : History.DistinctIds ((Worker.new terms).history inputs))
    {sofar post : List Occurrence} {v : Worker} {now : Nat} {input : Input} {id : Nat}
    {fault : Fault} (hp : (Worker.new terms).history inputs = sofar ++ .took v now input :: post)
    (hold : id ∈ History.handOvers sofar) (hreport : v.reportedFault? id input = some fault)
    (hagain : id ∈ History.handOvers post) :
    ∃ m delay, v.tracker.message? id = some m ∧
      terms.policy.decide fault.kind m.message.retryCount = .retry delay ∧
      ∀ due, v.postpone id now input due = deadlineAfter now delay := by
  obtain ⟨before, after, rfl, rfl, rfl, takes, rfl⟩ := history_split hp
  have ht : ((Worker.new terms).after before).tracker.Coherent := coherent_of_run terms before
  have hterms : ((Worker.new terms).after before).terms = terms :=
    Course.terms (course_of_run terms before)
  have hsubmitted := (Course.known (course_of_run terms before)).handOvers hold
  cases hm : ((Worker.new terms).after before).tracker.message? id with
  | none =>
    -- A message that is no longer under way is not handed over again.
    have hnever := not_mem_handOvers_of_gone before _ hd hsubmitted hm
    rw [history, seen_of_takes takes, List.cons_append] at hnever
    exact absurd hagain hnever
  | some m =>
    cases hdecide : terms.policy.decide fault.kind m.message.retryCount with
    | retry delay =>
      refine ⟨m, delay, rfl, hdecide, postpone_of_retry hreport hm ?_ now⟩
      rw [hterms]
      exact hdecide
    | giveUp =>
      -- The message fails for good in this step.
      obtain ⟨p, hwaits⟩ := ht.pending_of_message hm
      have hends := ends_of_fails ht takes hm hwaits (fails_of_reported hreport now)
        (by rw [hterms]; exact hdecide)
      have hnever := not_mem_handOvers_of_gone (before ++ [(now, input)]) after
        (by simpa using hd) ?_ (by rw [after_concat]; exact hends.gone)
      · rw [after_concat] at hnever
        rw [History.handOvers_append, List.mem_append] at hagain
        exact absurd hagain (not_or.2 ⟨hends.unsent, hnever⟩)
      · rw [history_concat, History.submitted_append]
        exact List.mem_append_left _ hsubmitted

/-- From its first hand-over on a message is on the schedule while the link stays up. -/
theorem handedOver_spec {id : Nat} {pre mid post : List Occurrence} {first again : Outbound}
    (hp : (Worker.new terms).history inputs =
      pre ++ .did (.send first) :: (mid ++ .did (.send again) :: post))
    (hid : first.id = id) (hlink : .did .release ∉ mid) :
    (Worker.new terms).history inputs =
        (pre ++ [.did (.send first)] ++ mid) ++ .did (.send again) :: post ∧
      History.due terms.ackTimeout id (pre ++ [.did (.send first)]) =
        some (deadlineAfter (History.clock pre) terms.ackTimeout) ∧
      ∀ w now, .took w now (.connected (.ok ())) ∉ mid := by
  refine ⟨by rw [hp]; simp, ?_, not_connected_of_linkUp (by rw [hp, List.append_cons]) ?_ hlink⟩
  · exact History.due_effects_of_sent [.send first] (congrArg (fun i => [i]) hid)
  · rw [History.linkUp_append, linkUp_of_send hp]
    rfl

/-- **Resends respect the schedule.** Along every run whose clock does not go back and whose
messages have ids of their own, a message is handed over again on the same link only when its
confirmation is overdue, or when the delay after the last failure that the link reported is over. -/
theorem keepsSchedule_of_run (terms : Terms) (inputs : List (Nat × Input))
    (hmono : inputs.Pairwise (·.1 ≤ ·.1))
    (hd : History.DistinctIds ((Worker.new terms).history inputs)) :
    KeepsSchedule terms ((Worker.new terms).history inputs) := by
  constructor
  · rintro id mid t₁ t₂ ⟨⟨pre, first, again, post, hp, hfirst, rfl, rfl, rfl⟩, hlink, hnext⟩ hun
    obtain ⟨hsplit, hdue, hup⟩ := handedOver_spec hp hfirst hlink
    rw [List.append_cons]
    refine due_le_clock_of_send hmono hd hsplit ?_
    rw [History.due_append_of_unreported hup hnext hun]
    exact hdue
  · rintro id mid t₁ t₂ ⟨⟨pre, first, again, post, hp, hfirst, rfl, rfl, rfl⟩, hlink, hnext⟩
      before v now input fault after rfl hreport hun
    obtain ⟨hsplit, hdue, hup⟩ := handedOver_spec hp hfirst hlink
    rw [History.handOvers_append, List.mem_append, not_or] at hnext
    have hup' (w : Worker) (t : Nat) := hup w t
    simp only [List.mem_append, List.mem_cons, not_or] at hup'
    -- The report is answered by a delay of the policy, since the message is handed over again.
    have hsofar : (Worker.new terms).history inputs =
        (pre ++ [.did (.send first)] ++ before) ++
          .took v now input :: (after ++ .did (.send again) :: post) := by
      rw [hsplit]
      simp
    obtain ⟨m, delay, hm, hretry, hpost⟩ := retry_of_reported hd hsofar
      (by simp [History.handOvers, Occurrence.handOver?, hfirst]) hreport
      (by simp [History.handOvers, Occurrence.handOver?])
    refine ⟨m, delay, hm, hretry, fun hint heq => ?_, ?_⟩
    · rw [heq] at hretry
      exact RetryPolicy.delay_of_throttled hretry
    · -- It stays on the schedule up to the report, and from then on is due after the delay.
      obtain ⟨d, hd₀⟩ := Option.isSome_iff_exists.1
        (History.isSome_due_append (fun w t => (hup' w t).1) (by rw [hdue]; rfl))
      have hne : input ≠ .connected (.ok ()) := by
        rintro rfl
        cases hreport
      rw [List.append_cons]
      refine due_le_clock_of_send hmono hd hsplit ?_
      rw [← List.append_assoc, List.append_cons, History.due_append_of_unreported
        (fun w t => (hup' w t).2.2) hnext.2 hun,
        History.due_took, dueAfter_eq hne, hd₀, Option.map_some, hpost]

end Worker

/-! ## A busy service and a broken one -/

namespace Throttling

/-- The hub is busy and says when to try again. -/
def busyHub : Fault := .service 503 "busy" (some 3)

/-- The device connects and hands a reading over, which is rejected. It wakes too early, and again
when the time has come. -/
def inputs : List (Nat × Input) :=
  [(0, .command (.open 1)), (1, .connected (.ok ())),
    (2, .command (.submit (Renewal.reading 1) 101 90000000)), (3, .sent (.ok .awaiting)),
    (4, .event (.ok (.rejected 1 busyHub))), (6, .timer), (7, .timer)]

end Throttling

namespace Worker

/-- The reading is not handed over again before the hub is to be tried again. -/
theorem keepsSchedule_of_throttling :
    Throttling.inputs.Pairwise (·.1 ≤ ·.1) ∧
      History.DistinctIds ((Worker.new Rejection.terms).history Throttling.inputs) ∧
      History.handOvers ((Worker.new Rejection.terms).history (Throttling.inputs.take 6)) = [1] ∧
      History.handOvers ((Worker.new Rejection.terms).history Throttling.inputs) = [1, 1] ∧
      KeepsSchedule Rejection.terms ((Worker.new Rejection.terms).history Throttling.inputs) := by
  have hmono : Throttling.inputs.Pairwise (·.1 ≤ ·.1) := by simp [Throttling.inputs]
  have hd : History.DistinctIds ((Worker.new Rejection.terms).history Throttling.inputs) := by
    have hsubmitted :
        History.submitted ((Worker.new Rejection.terms).history Throttling.inputs) = [1] := by
      decide +kernel
    rw [History.DistinctIds, hsubmitted]
    exact List.nodup_singleton 1
  exact ⟨hmono, hd, by decide +kernel, by decide +kernel, keepsSchedule_of_run _ _ hmono hd⟩

end Worker

/-- **A message is not handed over again before the service asks for it**, whatever the failure
was. -/
def History.HeedsHints (h : List Occurrence) : Prop :=
  ∀ id mid t₁ t₂, HandedOverAgain h id mid t₁ t₂ →
    ∀ before v now input status detail hint after, mid = before ++ .took v now input :: after →
      v.reportedFault? id input = some (.service status detail (some hint)) →
        Unreported id after → deadlineAfter now hint ≤ t₂

namespace Breakdown

/-- The hub fails and says to try again in a minute. -/
def brokenHub : Fault := .service 500 "down" (some (Duration.ofSeconds 60))

/-- What happens until a reading is to be handed over. -/
def before : List (Nat × Input) := [(0, .command (.open 1)), (1, .connected (.ok ()))]

/-- A reading is submitted. -/
def submission : Input := .command (.submit (Renewal.reading 1) 101 90000000000)

/-- The reading is handed over, which fails, and again after two milliseconds. -/
def inputs : List (Nat × Input) :=
  before ++ [(2, submission), (3, .sent (.error brokenHub)), (2000000, .timer)]

end Breakdown

namespace Worker

/-- The only effect of a step that hands over one message. -/
theorem effects_of_handOvers {es : List Effect} {id : Nat} (hlength : es.length = 1)
    (hes : History.handOvers (es.map .did) = [id]) :
    ∃ message, es = [.send message] ∧ message.id = id := by
  obtain ⟨e, rfl⟩ := List.length_eq_one_iff.1 hlength
  cases e with
  | send message => exact ⟨message, rfl, (List.cons.inj hes).1⟩
  | connect | settle | release | reply | complete | tell => cases hes

/-- **A broken service is tried again by the policy**, before the time it asks for. -/
theorem not_heedsHints_of_breakdown :
    Breakdown.inputs.Pairwise (·.1 ≤ ·.1) ∧
      History.DistinctIds ((Worker.new Rejection.terms).history Breakdown.inputs) ∧
      ¬History.HeedsHints ((Worker.new Rejection.terms).history Breakdown.inputs) := by
  refine ⟨by simp [Breakdown.inputs, Breakdown.before], ?_, fun hheeds => ?_⟩
  · have hsubmitted :
        History.submitted ((Worker.new Rejection.terms).history Breakdown.inputs) = [1] := by
      decide +kernel
    rw [History.DistinctIds, hsubmitted]
    exact List.nodup_singleton 1
  -- The worker that hands the reading over, the one that fails to, and the one that wakes.
  let w := (Worker.new Rejection.terms).after Breakdown.before
  let v := (w.step 2 Breakdown.submission).worker
  let u := (v.step 3 (.sent (.error Breakdown.brokenHub))).worker
  obtain ⟨first, hfirst, hid⟩ : ∃ message,
      (w.step 2 Breakdown.submission).effects = [.send message] ∧ message.id = 1 :=
    effects_of_handOvers (by decide +kernel) (by decide +kernel)
  have hfails : (v.step 3 (.sent (.error Breakdown.brokenHub))).effects = [] :=
    List.length_eq_zero_iff.1 (by decide +kernel)
  obtain ⟨again, hagain, hid'⟩ : ∃ message,
      (u.step 2000000 .timer).effects = [.send message] ∧ message.id = 1 :=
    effects_of_handOvers (by decide +kernel) (by decide +kernel)
  have hhistory : (Worker.new Rejection.terms).history Breakdown.inputs =
      ((Worker.new Rejection.terms).history Breakdown.before ++ [.took w 2 Breakdown.submission]) ++
        .did (.send first) ::
          ([.took v 3 (.sent (.error Breakdown.brokenHub)), .took u 2000000 .timer] ++
            .did (.send again) :: []) := by
    have hw : w.seen 2 Breakdown.submission =
        [.took w 2 Breakdown.submission, .did (.send first)] := by
      rw [seen_of_takes (by decide +kernel), hfirst]
      rfl
    have hv : v.seen 3 (.sent (.error Breakdown.brokenHub)) =
        [.took v 3 (.sent (.error Breakdown.brokenHub))] := by
      rw [seen_of_takes (by decide +kernel), hfails]
      rfl
    have hu : u.seen 2000000 .timer = [.took u 2000000 .timer, .did (.send again)] := by
      rw [seen_of_takes (by decide +kernel), hagain]
      rfl
    rw [Breakdown.inputs, history_append]
    show _ ++ (w.seen 2 Breakdown.submission ++ (v.seen 3 (.sent (.error Breakdown.brokenHub)) ++
      (u.seen 2000000 .timer ++ []))) = _
    rw [hw, hv, hu]
    simp
  have hearly := hheeds 1 _ 2 2000000 ⟨⟨_, first, again, [], hhistory, hid, hid', ?_, ?_⟩, ?_, ?_⟩
    [] v 3 (.sent (.error Breakdown.brokenHub)) 500 "down" (Duration.ofSeconds 60)
    [.took u 2000000 .timer] rfl (by decide +kernel) ?_
  · revert hearly
    decide
  · rw [History.clock_append]
    rfl
  · rw [History.clock_append]
    rfl
  · simp
  · simp [History.handOvers, Occurrence.handOver?]
  · intro x now input hmem
    obtain ⟨rfl, rfl, rfl⟩ := Occurrence.took.inj (List.mem_singleton.1 hmem)
    rfl

end Worker

end HubLink
