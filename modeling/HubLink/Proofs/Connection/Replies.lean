import HubLink.Proofs.Connection.Narration
import HubLink.Proofs.Connection.Waiting

/-! # Answers

A worker answers every request exactly once and truthfully (`Worker.replies_of_run`): the answer
agrees with the state that was told last, and a request that fails tells why. The counts are those
of the ledger that every step keeps (`Worker.accords_of_run`), and each answer is read off what is
warranted (`Warranted`). -/

namespace HubLink

/-! ## Readings -/

/-- Every request with a token is of one kind. -/
def Inputs.Only (xs : List (Nat × Input)) (token : Nat) (kind : Command → Prop) : Prop :=
  ∀ now c, (now, .command c) ∈ xs → (Input.command c).request? = some token → kind c

/-- An effect tells a status, or leaves it as it was. -/
theorem Effect.status_eq (q : Status) (e : Effect) :
    e.status q = q ∨ ∃ p : Status, e = .tell (.status p.1 p.2) ∧ e.status q = p := by
  match e with
  | .tell (.status state reason) => exact .inr ⟨(state, reason), rfl, rfl⟩
  | .connect | .send _ | .settle _ | .release | .reply .. | .complete _
  | .tell (.notification _) => exact .inl rfl

/-- A status that was not told before is told. -/
theorem Effect.tell_mem_of_status {es : List Effect} {p q : Status}
    (h : es.foldl Effect.status p = q) (hne : p ≠ q) : .tell (.status q.1 q.2) ∈ es := by
  induction es generalizing p with
  | nil => exact absurd h hne
  | cons e es ih =>
    rw [List.foldl_cons] at h
    by_cases hnow : e.status p = q
    · -- The status is told now, for it was another one before.
      obtain hsame | ⟨q', rfl, htold⟩ := e.status_eq p
      · exact absurd (hsame.symm.trans hnow) hne
      · obtain rfl : q' = q := htold.symm.trans hnow
        exact List.mem_cons_self ..
    · exact List.mem_cons_of_mem _ (ih h hnow)

/-- A setback is a fault that the link reports, or the link took too long. -/
theorem Input.linkFault_of_setback {input : Input} {fault : Fault}
    (h : input.setback? = some fault) (hne : fault ≠ .slowLink) (w : Worker) (now : Nat) :
    (Occurrence.took w now input).linkFault? = some fault := by
  unfold setback? at h
  split at h
  · exact h
  · split at h
    · exact h
    · cases h
  · exact h
  · exact h
  · exact absurd (Option.some.inj h).symm hne
  · cases h

/-- The input that was taken last is seen. -/
theorem History.took_of_last {h : List Occurrence} {now : Nat} {input : Input}
    (last : (taken h).getLast? = some (now, input)) : ∃ w, .took w now input ∈ h := by
  obtain ⟨o, hmem, htaken⟩ := List.mem_filterMap.1 (List.mem_of_getLast? last)
  match o with
  | .took w now' input' =>
    obtain ⟨rfl, rfl⟩ := Prod.mk.inj (Option.some.inj htaken)
    exact ⟨w, hmem⟩
  | .did e => cases htaken

namespace Worker

/-- A closed connection suffers no setback. -/
theorem Situated.ne_closed_of_setback {up : Bool} {w : Worker} (hs : w.Situated up) {input : Input}
    (takes : w.takes input) {fault : Fault} (setback : input.setback? = some fault) :
    w.state ≠ .closed := by
  intro hclosed
  have s := hs.dormant_of_closed hclosed
  cases input with
  | command | abandoned | timer => cases setback
  | event => simp [Worker.takes, isListening, s.state] at takes
  | connected | sent | overtime =>
    simp [Worker.takes, isConnecting, isSending, s.idle] at takes

/-- Nothing is owed by a worker that is dormant. -/
theorem Dormant.owes {up : Bool} {w : Worker} (s : w.Dormant up) (token : Nat) :
    w.owes token = 0 := by
  rw [Worker.owes, s.waiters, s.idle]
  rfl

/-- Only those who wait for another attempt are owed an answer while the link is not busy. -/
theorem Situated.owes_of_idle {up : Bool} {w : Worker} (hs : w.Situated up) (idle : w.busy = none)
    (hstate : w.state ≠ .reconnecting) (token : Nat) : w.owes token = 0 := by
  obtain (s | s) | ⟨s, -⟩ := hs.of_idle idle
  · exact s.owes token
  · exact absurd s.state hstate
  · rw [owes, s.waiters, idle]
    rfl

end Worker

/-! ## Truthful answers -/

/-- **Why a request to open the connection fails**, given what was seen before it is answered. -/
inductive Refused (terms : Terms) (h : List Occurrence) : Fault → Prop where
  /-- The connection is closed for the caller, or nobody is left who could use it. -/
  | cancelled {now : Nat} {input : Input} (last : (History.taken h).getLast? = some (now, input))
      (closes : input.closes) (state : (History.status h).1 = .closed) : Refused terms h .cancelled
  /-- Nobody can be connected. -/
  | invalid {fault : Fault} (invalid : terms.identity.validate = .error fault)
      (state : (History.status h).1 = .closed) : Refused terms h fault
  /-- The fault has just closed the connection. -/
  | ended {before mid : List Occurrence} {v : Worker} {now : Nat} {input : Input} {fault : Fault}
      (split : h = before ++ .took v now input :: mid) (setback : input.setback? = some fault)
      (state : v.state ≠ .closed)
      (told : .did (.tell (.status .closed (Worker.finalReason fault))) ∈ mid) :
      Refused terms h fault

/-- **A worker answers truthfully** along what is seen of it. -/
structure Truthful (terms : Terms) (h : List Occurrence) : Prop where
  /-- The state told last is the state of the worker that takes the next input. -/
  told : ∀ pre v now input post, h = pre ++ .took v now input :: post →
    (History.status pre).1 = v.state
  /-- Who asked to open the connection is told that it is open only while it is. -/
  opened : ∀ pre token post, h = pre ++ .did (.reply token (.ok ())) :: post →
    Inputs.Only (History.taken pre) token (· = .open token) → (History.status pre).1 = .open
  /-- Who asked to open the connection is told otherwise only for a cause. -/
  refused : ∀ pre token fault post, h = pre ++ .did (.reply token (.error fault)) :: post →
    Inputs.Only (History.taken pre) token (· = .open token) → Refused terms pre fault
  /-- Unless the link itself reports cancellations, requests are cancelled only when the connection
  is closed for the caller, or nobody is left who could use it. -/
  cancelled : ∀ pre token post, h = pre ++ .did (.reply token (.error .cancelled)) :: post →
    .cancelled ∉ History.linkFaults pre →
      ∃ now input, (History.taken pre).getLast? = some (now, input) ∧ input.closes
  /-- Who asked to close the connection is told that it is closed when it is. -/
  released : ∀ pre token result post, h = pre ++ .did (.reply token result) :: post →
    Inputs.Only (History.taken pre) token (· = .close token) →
      result = .ok () ∧ (History.status pre).1 = .closed
  /-- Inbound messages are settled on request, and only while the connection is open. -/
  settles : ∀ pre request post, h = pre ++ .did (.settle request) :: post →
    request ∈ Inputs.settlements (History.taken pre) ∧ (History.status pre).1 = .open
  /-- Who asked to settle an inbound message is told otherwise only while the connection is not
  open, and then that it is closed. -/
  unsettled : ∀ pre token result post, h = pre ++ .did (.reply token result) :: post →
    Inputs.Only (History.taken pre) token (∃ request, · = .settle request) →
      result = .error .closed ∧ (History.status pre).1 ≠ .open

namespace Warranted

variable {terms : Terms} {xs : List (Nat × Input)} {q : Status} {token : Nat}

/-- **What an answer answers**: a request to open the connection, to close it or to settle an
inbound message. -/
theorem of_reply {result : Except Fault Unit} (h : Warranted terms xs q (.reply token result)) :
    (∃ now, (now, .command (.open token)) ∈ xs ∧ (result = .ok () → q.1 = .open)) ∨
      (∃ now, (now, .command (.close token)) ∈ xs ∧ result = .ok () ∧ q.1 = .closed) ∨
        ∃ now request, (now, .command (.settle request)) ∈ xs ∧ request.reply = token ∧
          result = .error .closed ∧ q.1 ≠ .open := by
  cases h with
  | silent hsilent => cases hsilent
  | opened asked state =>
    obtain ⟨now, hmem⟩ := Inputs.mem_opens.1 asked
    exact .inl ⟨now, hmem, fun _ => state⟩
  | released last state => exact .inr (.inl ⟨_, List.mem_of_getLast? last, rfl, state⟩)
  | cancelled asked | ended asked =>
    obtain ⟨now, hmem⟩ := Inputs.mem_opens.1 asked
    exact .inl ⟨now, hmem, by rintro ⟨⟩⟩
  | refused last => exact .inl ⟨_, List.mem_of_getLast? last, by rintro ⟨⟩⟩
  | unsettled asked state =>
    obtain ⟨now, hmem⟩ := Inputs.mem_settlements.1 asked
    exact .inr (.inr ⟨now, _, hmem, rfl, rfl, state⟩)

/-- Requests to open the connection that succeed do so while it is open. -/
theorem opened_of_only (h : Warranted terms xs q (.reply token (.ok ())))
    (only : Inputs.Only xs token (· = .open token)) : q.1 = .open := by
  obtain ⟨now, -, hopen⟩ | ⟨now, hmem, -⟩ | ⟨now, request, hmem, rfl, -⟩ := h.of_reply
  · exact hopen rfl
  · cases only now _ hmem rfl
  · cases only now _ hmem rfl

/-- Requests to close the connection succeed when it is closed. -/
theorem released_of_only {result : Except Fault Unit}
    (h : Warranted terms xs q (.reply token result))
    (only : Inputs.Only xs token (· = .close token)) : result = .ok () ∧ q.1 = .closed := by
  obtain ⟨now, hmem, -⟩ | ⟨now, -, hclosed⟩ | ⟨now, request, hmem, rfl, -⟩ := h.of_reply
  · cases only now _ hmem rfl
  · exact hclosed
  · cases only now _ hmem rfl

/-- Requests to settle an inbound message that the worker answers itself fail. -/
theorem unsettled_of_only {result : Except Fault Unit}
    (h : Warranted terms xs q (.reply token result))
    (only : Inputs.Only xs token (∃ request, · = .settle request)) :
    result = .error .closed ∧ q.1 ≠ .open := by
  obtain ⟨now, hmem, -⟩ | ⟨now, hmem, -⟩ | ⟨now, request, -, -, hunsettled⟩ := h.of_reply
  · obtain ⟨request, hrequest⟩ := only now _ hmem rfl
    cases hrequest
  · obtain ⟨request, hrequest⟩ := only now _ hmem rfl
    cases hrequest
  · exact hunsettled

/-- Messages are settled on request while the connection is open. -/
theorem asked_of_settle {request : SettleRequest} (h : Warranted terms xs q (.settle request)) :
    request ∈ Inputs.settlements xs ∧ q.1 = .open := by
  cases h with
  | silent hsilent => cases hsilent
  | settles asked state => exact ⟨asked, state⟩

/-- What is told to be cancelled is so because the connection is closed, or because the link reports
it. -/
theorem closes_of_cancelled (h : Warranted terms xs q (.reply token (.error .cancelled))) :
    ∃ now input, xs.getLast? = some (now, input) ∧
      (input.closes ∨ input.setback? = some .cancelled) := by
  cases h with
  | silent hsilent => cases hsilent
  | cancelled asked last closes => exact ⟨_, _, last, .inl closes⟩
  | ended asked last setback => exact ⟨_, _, last, .inr setback⟩
  | refused last state invalid =>
    -- What is wrong with an identity is a matter of configuration.
    unfold Identity.validate at invalid
    split at invalid <;> cases invalid

end Warranted

namespace Worker

variable {terms : Terms} {inputs : List (Nat × Input)} {pre post : List Occurrence}

/-- **A setback that is followed by its final status closed the connection**, which was not closed
before. -/
theorem ended_of_run {e : Effect} (h : (Worker.new terms).history inputs = pre ++ .did e :: post)
    {now : Nat} {input : Input} (last : (History.taken pre).getLast? = some (now, input))
    {fault : Fault} (setback : input.setback? = some fault)
    (hstatus : History.status pre = (.closed, finalReason fault)) : Refused terms pre fault := by
  obtain ⟨before, now', input', es, es', -, takes, -, rfl⟩ := effect_split h
  rw [History.taken_took, List.getLast?_concat] at last
  obtain ⟨rfl, rfl⟩ : now' = now ∧ input' = input := Prod.mk.inj (Option.some.inj last)
  rw [History.status_took] at hstatus
  have hstate := (situated_of_run terms before).ne_closed_of_setback takes setback
  -- The connection was not closed when the input was taken, so its end was told since.
  refine .ended rfl setback hstate (List.mem_map_of_mem ?_)
  refine Effect.tell_mem_of_status hstatus fun hsame => hstate ?_
  rw [← (accords_of_run terms before).1.state, hsame]

/-- A request to open the connection fails for a cause. -/
theorem refused_of_run {token : Nat} {fault : Fault}
    (h : (Worker.new terms).history inputs = pre ++ .did (.reply token (.error fault)) :: post)
    (only : Inputs.Only (History.taken pre) token (· = .open token)) : Refused terms pre fault := by
  cases warranted_of_run h with
  | silent hsilent => cases hsilent
  | cancelled asked last closes state => exact .cancelled last closes state
  | ended asked last setback status => exact ended_of_run h last setback status
  | refused last state invalid => exact .invalid invalid state
  | unsettled asked =>
    obtain ⟨now, hmem⟩ := Inputs.mem_settlements.1 asked
    cases only now _ hmem rfl

/-- A request is cancelled only when the connection is closed, or nobody is left. -/
theorem cancelled_of_run {token : Nat}
    (h : (Worker.new terms).history inputs = pre ++ .did (.reply token (.error .cancelled)) :: post)
    (hlink : .cancelled ∉ History.linkFaults pre) :
    ∃ now input, (History.taken pre).getLast? = some (now, input) ∧ input.closes := by
  obtain ⟨now, input, last, hcause⟩ := (warranted_of_run h).closes_of_cancelled
  rcases hcause with closes | setback
  · exact ⟨now, input, last, closes⟩
  · -- Then the link reported it.
    obtain ⟨w, hmem⟩ := History.took_of_last last
    have hfault := Input.linkFault_of_setback setback (by rintro ⟨⟩) w now
    exact absurd (List.mem_filterMap.2 ⟨_, hmem, hfault⟩) hlink

/-- Along every run a worker answers truthfully. -/
theorem truthful_of_history (terms : Terms) (inputs : List (Nat × Input)) :
    Truthful terms ((Worker.new terms).history inputs) where
  told pre v now input post h := by
    obtain ⟨before, -, -, rfl, rfl, -⟩ := history_split h
    exact (accords_of_run terms before).1.state
  opened _ _ _ h only := (warranted_of_run h).opened_of_only only
  refused _ _ _ _ h only := refused_of_run h only
  cancelled _ _ _ h hlink := cancelled_of_run h hlink
  released _ _ _ _ h only := (warranted_of_run h).released_of_only only
  settles _ _ _ h := (warranted_of_run h).asked_of_settle
  unsettled _ _ _ _ h only := (warranted_of_run h).unsettled_of_only only

end Worker

/-! ## Every request -/

/-- **Every request is answered exactly once**, given the inputs of a worker with these terms. -/
structure AnsweredOnce (terms : Terms) (inputs : List (Nat × Input)) : Prop where
  /-- Until the work is over every request is taken. -/
  received : ((Worker.new terms).after inputs).stopped = false →
    Inputs.requests (History.taken ((Worker.new terms).history inputs)) = Inputs.requests inputs
  /-- No request is answered twice: what was asked for was answered or is still owed. -/
  ledger : ∀ token, History.replies ((Worker.new terms).history inputs) token +
    ((Worker.new terms).after inputs).owes token =
      (Inputs.requests (History.taken ((Worker.new terms).history inputs))).count token
  /-- When the work is over every request was answered. -/
  stopped : ((Worker.new terms).after inputs).stopped →
    ∀ token, History.replies ((Worker.new terms).history inputs) token =
      (Inputs.requests (History.taken ((Worker.new terms).history inputs))).count token
  /-- So it was whenever the link is not busy, unless another attempt to connect is awaited. -/
  settled : ((Worker.new terms).after inputs).busy = none →
    ((Worker.new terms).after inputs).state ≠ .reconnecting →
      ∀ token, History.replies ((Worker.new terms).history inputs) token =
        (Inputs.requests (History.taken ((Worker.new terms).history inputs))).count token

/-- **Requests to open a connection that is being opened cause nothing**, given the inputs of a
worker with these terms. -/
structure JoinsQuietly (terms : Terms) (inputs : List (Nat × Input)) : Prop where
  /-- But for the answers the worker does the same without them. -/
  deeds : History.deeds ((Worker.new terms).history ((Worker.new terms).unjoined inputs)) =
    History.deeds ((Worker.new terms).history inputs)
  /-- In particular it connects as often. -/
  connects : History.connects ((Worker.new terms).history ((Worker.new terms).unjoined inputs)) =
    History.connects ((Worker.new terms).history inputs)

/-- Connects are deeds. -/
theorem History.connects_eq_countP_deeds (h : List Occurrence) :
    connects h = (deeds h).countP (·.isConnect) := by
  rw [connects, deeds, List.countP_filterMap]
  refine List.countP_congr fun o _ => ?_
  cases o with
  | took => rfl
  | did e => cases e <;> rfl

namespace Worker

/-- A worker that goes on after a step went on before. -/
theorem going_of_step {w : Worker} {now : Nat} {input : Input}
    (h : (w.step now input).worker.stopped = false) : w.stopped = false := by
  by_contra hstop
  rw [Bool.not_eq_false] at hstop
  rw [step, if_pos hstop] at h
  exact Bool.false_ne_true (h.symm.trans hstop)

/-- A worker that goes on takes every request. -/
theorem requests_seen {w : Worker} (going : w.stopped = false) (now : Nat) (input : Input) :
    Inputs.requests (History.taken (w.seen now input)) = Inputs.requests [(now, input)] := by
  cases takes : w.takes input with
  | true =>
    rw [seen_of_takes takes]
    exact congrArg Inputs.requests (History.taken_took [] w now input _)
  | false =>
    -- Only what the link reports may be out of place.
    rw [seen, takes]
    cases input with
    | command c => simp [Worker.takes, going] at takes
    | abandoned | event | timer | connected | sent | overtime => rfl

/-- Until the work is over every request is taken. -/
theorem requests_of_going (terms : Terms) (inputs : List (Nat × Input))
    (going : ((Worker.new terms).after inputs).stopped = false) :
    Inputs.requests (History.taken ((Worker.new terms).history inputs)) =
      Inputs.requests inputs := by
  induction inputs using List.reverseRecOn with
  | nil => rfl
  | append_singleton inputs i ih =>
    obtain ⟨now, input⟩ := i
    rw [after_concat] at going
    have hbefore := going_of_step going
    rw [history_concat, History.taken_append, Inputs.requests_append, Inputs.requests_append,
      ih hbefore, requests_seen hbefore]

/-- Along every run each request is answered exactly once. -/
theorem answeredOnce_of_run (terms : Terms) (inputs : List (Nat × Input)) :
    AnsweredOnce terms inputs := by
  have hledger := (accords_of_run terms inputs).2
  have hs := situated_of_run terms inputs
  refine ⟨requests_of_going terms inputs, hledger, fun hstop token => ?_,
    fun idle hstate token => ?_⟩
  · rw [← hledger token, (hs.dormant_of_stopped hstop).owes, Nat.add_zero]
  · rw [← hledger token, hs.owes_of_idle idle hstate, Nat.add_zero]

/-- Requests to open a connection that is being opened cause nothing along any run. -/
theorem joinsQuietly_of_run (terms : Terms) (inputs : List (Nat × Input)) :
    JoinsQuietly terms inputs := by
  have hdeeds := deeds_unjoined (Worker.new terms) inputs
  refine ⟨hdeeds, ?_⟩
  rw [History.connects_eq_countP_deeds, hdeeds, History.connects_eq_countP_deeds]

/-- **Replies are exactly-once and truthful.** Along every run each request is answered exactly
once, each answer is true when it is given, and requests to open a connection that is being opened
cause nothing else. -/
theorem replies_of_run (terms : Terms) (inputs : List (Nat × Input)) :
    AnsweredOnce terms inputs ∧ Truthful terms ((Worker.new terms).history inputs) ∧
      JoinsQuietly terms inputs :=
  ⟨answeredOnce_of_run terms inputs, truthful_of_history terms inputs,
    joinsQuietly_of_run terms inputs⟩

end Worker

/-- Two who ask for the connection at once share one attempt, and each is answered once. -/
example :
    let h := (Worker.new Renewal.terms).history
      [(0, .command (.open 1)), (0, .command (.open 2)), (1, .connected (.ok ()))]
    History.connects h = 1 ∧ History.replies h 1 = 1 ∧ History.replies h 2 = 1 := by
  decide +kernel

end HubLink
