import HubLink.Proofs.Connection.Discipline
import HubLink.Proofs.Connection.Restart
import HubLink.Proofs.Connection.Setback

/-! # Reconnecting within a budget

A campaign is a stretch of a run in which a worker tries to connect: it begins when a closed
connection is opened or when an open one loses its link, and it goes on while no connect succeeds
and nobody closes or opens the connection again. A policy that gives up at attempt `k` lets a
campaign suffer at most `k + 1` setbacks, and between any two of them the worker waits for as long
as the policy decided (`Worker.persists_of_campaign`). -/

namespace HubLink

namespace Worker

/-! ## Campaigns -/

/-- **How a campaign begins**, and how many setbacks come before its first connect. -/
inductive Begins (w : Worker) : Input → Nat → Prop where
  /-- A closed connection is opened. -/
  | opened {reply : Nat} (state : w.state = .closed) (going : w.stopped = false)
      (valid : w.terms.identity.validate = .ok ()) : Begins w (.command (.open reply)) 0
  /-- An open connection loses its link. -/
  | lost {input : Input} {fault : Fault} (state : w.state = .open) (takes : w.takes input)
      (setback : input.setback? = some fault) : Begins w input 1

/-- **A campaign** after some inputs: it begins with the next one, and while it lasts no connect
succeeds and nobody closes the connection or, once it is closed, opens it again. -/
structure Campaign (terms : Terms) (before : List (Nat × Input)) (start : Nat × Input) (lost : Nat)
    (inputs : List (Nat × Input)) : Prop where
  begins : ((Worker.new terms).after before).Begins start.2 lost
  quiet : ∀ i ∈ inputs, i.2.isQuiet
  unopened : ∀ v now reply,
    .took v now (.command (.open reply)) ∈
      (((Worker.new terms).after before).step start.1 start.2).worker.history inputs →
    v.state ≠ .closed
  ordered : (before ++ start :: inputs).Pairwise fun i j => i.1 ≤ j.1

section Steps

variable {policy : RetryPolicy} {k lost : Nat} {h : List Occurrence} {w : Worker} {now : Nat}

/-- A worker whose campaign goes on. -/
structure Trying (policy : RetryPolicy) (k lost : Nat) (h : List Occurrence) (w : Worker) :
    Prop where
  state : w.state = .opening ∨ w.state = .reconnecting
  attempts : History.connects h + lost = (History.setbacks h).length + w.isConnecting.toNat
  counted : w.attempt = (History.setbacks h).length
  bounded : (History.setbacks h).length ≤ k
  transient : ∀ s ∈ History.setbacks h, s.2.isTransient
  planned : w.isConnecting = false →
    ∃ due, w.reconnectAt = some due ∧ policy.waitOver (History.setbacks h) = some due

/-- A worker whose campaign is over. -/
structure Over (k lost : Nat) (h : List Occurrence) (w : Worker) : Prop where
  state : w.state = .closed
  idle : w.isConnecting = false
  attempts : History.connects h + lost = (History.setbacks h).length
  bounded : (History.setbacks h).length ≤ k + 1
  transient : ∀ s ∈ (History.setbacks h).dropLast, s.2.isTransient
  cause : (History.setbacks h).length = k + 1 ∨
    ∃ s ∈ History.setbacks h, s.2.isTransient = false

/-- **A setback of a campaign** spends an attempt, and the campaign goes on or is over. -/
theorem Suffers.outcome (hk : policy.GivesUpAt k) (hpolicy : w.terms.policy = policy)
    (attempts : History.connects h + lost = (History.setbacks h).length + 1)
    (counted : w.attempt = (History.setbacks h).length)
    (bounded : (History.setbacks h).length ≤ k)
    (transient : ∀ s ∈ History.setbacks h, s.2.isTransient) {fault : Fault} {t : Turn}
    (hs : w.Suffers now fault t) {h' : List Occurrence}
    (hsetbacks : History.setbacks h' = History.setbacks h ++ [(now, fault)])
    (hconnects : History.connects h' = History.connects h + t.connects) :
    Trying policy k lost h' t.worker ∨ Over k lost h' t.worker := by
  have hlength : (History.setbacks h').length = (History.setbacks h).length + 1 := by
    rw [hsetbacks, List.length_append, List.length_singleton]
  have hdecision : (w.terms.policy.decide fault.kind w.attempt).due now =
      policy.waitOver (History.setbacks h') := by
    rw [hsetbacks, RetryPolicy.waitOver_concat, hpolicy, counted]
  have hnone : policy.waitOver (History.setbacks h') = none ↔
      (History.setbacks h).length = k ∨ fault.isTransient = false := by
    rw [hsetbacks, RetryPolicy.waitOver_concat]
    exact hk.due_eq_none_iff bounded fault.kind now
  -- If there is another attempt, neither has the budget been spent nor is the fault final.
  have hsome {due : Nat} (hdue : policy.waitOver (History.setbacks h') = some due) :
      (History.setbacks h').length ≤ k ∧ ∀ s ∈ History.setbacks h', s.2.isTransient := by
    have hnot := mt hnone.2 (by rw [hdue]; simp)
    rw [not_or, Bool.not_eq_false] at hnot
    refine ⟨by omega, ?_⟩
    rw [hsetbacks, List.forall_mem_append]
    exact ⟨transient, by simpa using hnot.2⟩
  cases hs with
  | plans decision state attempt planned idle connects =>
    rw [hdecision] at decision
    obtain ⟨hbounded, htransient⟩ := hsome decision
    refine .inl ⟨.inr state, ?_, ?_, hbounded, htransient, fun _ => ⟨_, planned, decision⟩⟩
    · rw [hconnects, connects, hlength, idle]
      exact attempts
    · rw [attempt, counted, hlength]
  | redials decision elapsed state attempt connecting connects =>
    rw [hdecision] at decision
    obtain ⟨hbounded, htransient⟩ := hsome decision
    refine .inl ⟨.inr state, ?_, ?_, hbounded, htransient, fun hidle => ?_⟩
    · rw [hconnects, connects, hlength, connecting, Bool.toNat_true]
      omega
    · rw [attempt, counted, hlength]
    · simp [connecting] at hidle
  | ends decision state idle connects fansOut =>
    rw [hdecision, hnone] at decision
    refine .inr ⟨state, idle, ?_, ?_, ?_, ?_⟩
    · rw [hconnects, connects, hlength]
      exact attempts
    · omega
    · rw [hsetbacks, List.dropLast_concat]
      exact transient
    · refine decision.imp (fun hspent => by omega) fun hfinal => ⟨(now, fault), ?_, hfinal⟩
      rw [hsetbacks]
      exact List.mem_append_right _ (List.mem_singleton_self _)

theorem setbacks_seen {input : Input} (takes : w.takes input) (now : Nat) :
    History.setbacks (w.seen now input) = (input.setback?.map (now, ·)).toList := by
  rw [seen_of_takes takes, History.setbacks_took]

theorem connects_seen {input : Input} (takes : w.takes input) (now : Nat) :
    History.connects (w.seen now input) = (w.step now input).connects := by
  rw [seen_of_takes takes, History.connects_took]

/-- A turn that connects after a setback connects when the wait is over. -/
theorem Suffers.waited {fault : Fault} {t : Turn} (hs : w.Suffers now fault t)
    (hconnects : t.connects ≠ 0) :
    ∃ due, (w.terms.policy.decide fault.kind w.attempt).due now = some due ∧ due ≤ now := by
  cases hs with
  | plans _ _ _ _ _ connects => exact absurd connects hconnects
  | redials decision elapsed => exact ⟨_, decision, elapsed⟩
  | ends _ _ _ connects => exact absurd connects hconnects

/-- A step that connects while a campaign goes on comes when the wait is over. -/
theorem Trying.waited (ht : Trying policy k lost h w) (hpolicy : w.terms.policy = policy)
    {t : Turn} {setback : Option Fault} (htries : Tries w now t setback)
    (hconnects : t.connects ≠ 0) :
    ∃ due, policy.waitOver (History.setbacks h ++ (setback.map (now, ·)).toList) = some due ∧
      due ≤ now := by
  cases htries with
  | keeps _ _ _ _ connects => exact absurd connects hconnects
  | dials waiting planned elapsed =>
    obtain ⟨due, hat, hover⟩ := ht.planned waiting
    obtain rfl := Option.some.inj (planned.symm.trans hat)
    refine ⟨_, ?_, elapsed⟩
    rw [Option.map_none, Option.toList_none, List.append_nil]
    exact hover
  | fails connecting suffers =>
    obtain ⟨due, hdue, hle⟩ := suffers.waited hconnects
    refine ⟨due, ?_, hle⟩
    rw [Option.map_some, Option.toList_some, RetryPolicy.waitOver_concat, ← hpolicy, ← ht.counted]
    exact hdue

/-- **A step of a campaign** that goes on. -/
theorem Trying.step (hk : policy.GivesUpAt k) (ht : Trying policy k lost h w) {up : Bool}
    (hsit : w.Situated up) (hcoherent : w.tracker.Coherent) {terms : Terms}
    (hpolicy : terms.policy = policy) (steady : w.Steady terms (· ≤ now)) {input : Input}
    (takes : w.takes input) (quiet : input.isQuiet) :
    Trying policy k lost (h ++ w.seen now input) (w.step now input).worker ∨
      Over k lost (h ++ w.seen now input) (w.step now input).worker := by
  have hconnects : History.connects (h ++ w.seen now input) =
      History.connects h + (w.step now input).connects := by
    rw [History.connects_append, connects_seen takes]
  have hsetbacks : History.setbacks (h ++ w.seen now input) =
      History.setbacks h ++ (input.setback?.map (now, ·)).toList := by
    rw [History.setbacks_append, setbacks_seen takes]
  have htries := tries_step hsit ht.state hcoherent steady takes quiet
  cases hset : input.setback? with
  | none =>
    rw [hset, Option.map_none, Option.toList_none, List.append_nil] at hsetbacks
    rw [hset] at htries
    left
    cases htries with
    | keeps state attempt reconnectAt connecting connects =>
      refine ⟨?_, ?_, ?_, ?_, ?_, ?_⟩
      · rw [state]
        exact ht.state
      · rw [hconnects, hsetbacks, connecting, connects]
        exact ht.attempts
      · rw [attempt, hsetbacks]
        exact ht.counted
      · rw [hsetbacks]
        exact ht.bounded
      · rw [hsetbacks]
        exact ht.transient
      · rw [connecting, reconnectAt, hsetbacks]
        exact ht.planned
    | dials waiting planned elapsed state attempt connecting connects =>
      have hattempts := ht.attempts
      rw [waiting] at hattempts
      refine ⟨?_, ?_, ?_, ?_, ?_, fun hidle => ?_⟩
      · rw [state]
        exact ht.state
      · rw [hconnects, hsetbacks, connecting, connects, Bool.toNat_true]
        rw [Bool.toNat_false] at hattempts
        omega
      · rw [attempt, hsetbacks]
        exact ht.counted
      · rw [hsetbacks]
        exact ht.bounded
      · rw [hsetbacks]
        exact ht.transient
      · simp [connecting] at hidle
  | some fault =>
    rw [hset, Option.map_some, Option.toList_some] at hsetbacks
    rw [hset] at htries
    -- The link is down, so all that can fail is the connect under way.
    cases htries with
    | fails connecting suffers =>
      have hattempts := ht.attempts
      rw [connecting, Bool.toNat_true] at hattempts
      exact suffers.outcome hk (by rw [steady.terms, hpolicy]) hattempts ht.counted ht.bounded
        ht.transient hsetbacks hconnects

/-- A closed connection that nobody opens stays closed and does not connect. -/
theorem step_resting (terms : Terms) (attempt : Nat) (stopped : Bool) (now : Nat) (input : Input)
    (hopen : ∀ reply, (resting terms attempt stopped).takes input →
      input ≠ .command (.open reply)) :
    (∃ stopped', ((resting terms attempt stopped).step now input).worker =
        resting terms attempt stopped') ∧
      History.connects ((resting terms attempt stopped).seen now input) = 0 ∧
      History.setbacks ((resting terms attempt stopped).seen now input) = [] := by
  cases stopped with
  | true => exact ⟨⟨true, rfl⟩, rfl, rfl⟩
  | false =>
    cases input with
    | command c =>
      cases c with
      | «open» reply => exact absurd rfl (hopen reply rfl)
      | close | submit | cancel | settle => exact ⟨⟨false, rfl⟩, rfl, rfl⟩
    | abandoned => exact ⟨⟨true, rfl⟩, rfl, rfl⟩
    | event | timer | connected | sent | overtime => exact ⟨⟨false, rfl⟩, rfl, rfl⟩

/-- When a campaign is over and nobody opens the connection, nothing of note is seen any more. -/
theorem Over.quiet (ho : Over k lost h w) {up : Bool} (hsit : w.Situated up) (now : Nat)
    {input : Input} (hopen : ∀ reply, w.takes input → input ≠ .command (.open reply)) :
    (∃ stopped', (w.step now input).worker = resting w.terms w.attempt stopped') ∧
      History.connects (w.seen now input) = 0 ∧ History.setbacks (w.seen now input) = [] := by
  -- All that is left of the campaign is how many attempts failed.
  have heq := (hsit.dormant_of_closed ho.state).eq_resting
  rw [heq] at hopen
  have hstep := step_resting _ _ _ now input hopen
  rw [← heq] at hstep
  exact hstep

/-- A campaign that is over stays over while nobody opens the connection. -/
theorem Over.step (ho : Over k lost h w) {up : Bool} (hsit : w.Situated up) {input : Input}
    (hopen : ∀ reply, w.takes input → input ≠ .command (.open reply)) :
    Over k lost (h ++ w.seen now input) (w.step now input).worker := by
  obtain ⟨⟨stopped', hworker⟩, hconnects, hsetbacks⟩ := ho.quiet hsit now hopen
  rw [hworker]
  refine ⟨rfl, rfl, ?_, ?_, ?_, ?_⟩
  all_goals rw [History.setbacks_append, hsetbacks, List.append_nil]
  · rw [History.connects_append, hconnects]
    exact ho.attempts
  · exact ho.bounded
  · exact ho.transient
  · exact ho.cause

/-- Opening a closed connection starts its first connect. -/
theorem step_open {up : Bool} (s : w.Dormant up) (going : w.stopped = false)
    (valid : w.terms.identity.validate = .ok ()) (now reply : Nat) :
    w.step now (.command (.open reply)) =
      { worker :=
          { w with
            state := .opening, attempt := 0, waiters := [reply]
            busy := some
              { job := .connecting .connected, limit := now + w.terms.operationLimit, next := [] } }
        effects := [.tell (.status .opening .clientOpen), .connect] } := by
  rw [step_of_idle going s.idle]
  simp [stepAtRest, commandAtRest, s.state, valid, enter, connect, start, Turn.andThen, s.waiters]

/-- **A closed connection that nobody opens does not connect**, whatever else happens to it. -/
theorem connects_history_resting (terms : Terms) (attempt : Nat) (stopped : Bool)
    {inputs : List (Nat × Input)}
    (hunopened : ∀ v now reply, .took v now (.command (.open reply)) ∈
      (resting terms attempt stopped).history inputs → v.state ≠ .closed) :
    History.connects ((resting terms attempt stopped).history inputs) = 0 := by
  induction inputs generalizing stopped with
  | nil => rfl
  | cons i inputs ih =>
    obtain ⟨now, input⟩ := i
    rw [history] at hunopened ⊢
    obtain ⟨⟨stopped', hworker⟩, hconnects, -⟩ :=
      step_resting terms attempt stopped now input (by
        rintro reply takes rfl
        refine hunopened (resting terms attempt stopped) now reply (List.mem_append_left _ ?_) rfl
        rw [seen_of_takes takes]
        exact List.mem_cons_self ..)
    rw [History.connects_append, hconnects, hworker, ih stopped']
    intro v now' reply hmem
    refine hunopened v now' reply (List.mem_append_right _ ?_)
    rw [hworker]
    exact hmem

end Steps

/-! ## Runs of a campaign -/

namespace Campaign

variable {terms : Terms} {before : List (Nat × Input)} {start : Nat × Input} {lost k : Nat}
  {inputs : List (Nat × Input)}

/-- A campaign may be looked at before its end. -/
theorem of_append {rest : List (Nat × Input)}
    (hc : Campaign terms before start lost (inputs ++ rest)) :
    Campaign terms before start lost inputs where
  begins := hc.begins
  quiet i hi := hc.quiet i (List.mem_append_left _ hi)
  unopened v now reply hmem := by
    refine hc.unopened v now reply ?_
    rw [history_append]
    exact List.mem_append_left _ hmem
  ordered := by
    have hordered := hc.ordered
    rw [← List.cons_append, ← List.append_assoc] at hordered
    exact (List.pairwise_append.1 hordered).1

/-- A run up to a moment of a campaign is one from the beginning. -/
theorem after_eq : ((Worker.new terms).after before).after (start :: inputs) =
    (Worker.new terms).after (before ++ start :: inputs) :=
  (after_append ..).symm

/-- The worker that begins a campaign counts no attempts and is steady. -/
theorem steady_begin (hc : Campaign terms before start lost inputs) :
    ((Worker.new terms).after before).Steady terms (· ≤ start.1) := by
  refine steady_of_run terms fun i hi => ?_
  exact (List.pairwise_append.1 hc.ordered).2.2 i hi start (List.mem_cons_self ..)

/-- At every input of a campaign the worker is steady. -/
theorem steady_at {now : Nat} {input : Input}
    (hc : Campaign terms before start lost (inputs ++ [(now, input)])) :
    (((Worker.new terms).after before).after (start :: inputs)).Steady terms (· ≤ now) := by
  have hordered := hc.ordered
  rw [← List.cons_append, ← List.append_assoc] at hordered
  rw [after_eq]
  refine steady_of_run terms fun i hi => ?_
  exact (List.pairwise_append.1 hordered).2.2 i hi (now, input) (List.mem_singleton_self _)

theorem situated_at (terms : Terms) (before : List (Nat × Input)) (start : Nat × Input)
    (inputs : List (Nat × Input)) :
    (((Worker.new terms).after before).after (start :: inputs)).Situated
      (History.linkUp ((Worker.new terms).history (before ++ start :: inputs))) := by
  rw [after_eq]
  exact situated_of_run terms _

theorem coherent_at (terms : Terms) (before : List (Nat × Input)) (start : Nat × Input)
    (inputs : List (Nat × Input)) :
    (((Worker.new terms).after before).after (start :: inputs)).tracker.Coherent := by
  rw [after_eq]
  exact coherent_of_run terms _

/-- In a campaign nobody opens a closed connection again. -/
theorem ne_open_at {now : Nat} {input : Input}
    (hc : Campaign terms before start lost (inputs ++ [(now, input)]))
    (hclosed : (((Worker.new terms).after before).after (start :: inputs)).state = .closed)
    (reply : Nat) (takes : (((Worker.new terms).after before).after (start :: inputs)).takes input) :
    input ≠ .command (.open reply) := by
  rintro rfl
  refine hc.unopened _ now reply ?_ hclosed
  rw [history_concat]
  refine List.mem_append_right _ ?_
  exact seen_of_takes takes ▸ List.mem_cons_self ..

/-- Losing the link of an open connection is the first setback. -/
theorem suffers_begin (hc : Campaign terms before start lost inputs) {fault : Fault}
    (hopen : ((Worker.new terms).after before).state = .open)
    (takes : ((Worker.new terms).after before).takes start.2)
    (hset : start.2.setback? = some fault) :
    ((Worker.new terms).after before).Suffers start.1 fault
      (((Worker.new terms).after before).step start.1 start.2) :=
  suffers_step_of_open (situated_of_run terms before) hopen (coherent_of_run terms before)
    hc.steady_begin takes hset

/-- After its first input a campaign goes on or is over. -/
theorem outcome_begin (hk : terms.policy.GivesUpAt k)
    (hc : Campaign terms before start lost []) :
    Trying terms.policy k lost (((Worker.new terms).after before).history [start])
        (((Worker.new terms).after before).after [start]) ∨
      Over k lost (((Worker.new terms).after before).history [start])
        (((Worker.new terms).after before).after [start]) := by
  obtain ⟨now, input⟩ := start
  rw [history, history, List.append_nil]
  obtain ⟨state, going, valid⟩ | ⟨state, takes, setback⟩ := hc.begins
  · rename_i reply
    have hstep := step_open ((situated_of_run terms before).dormant_of_closed state) going valid
      now reply
    have takes : ((Worker.new terms).after before).takes (.command (.open reply)) := by
      simp [Worker.takes, going]
    have hsetbacks := setbacks_seen takes now
    have hconnects := connects_seen takes now
    rw [hstep] at hconnects
    left
    refine ⟨.inl ?_, ?_, ?_, ?_, ?_, fun hidle => ?_⟩
    · rw [after, hstep]
      rfl
    · rw [hsetbacks, hconnects, after, hstep]
      rfl
    · rw [hsetbacks, after, hstep]
      rfl
    · rw [hsetbacks]
      exact Nat.zero_le _
    · rw [hsetbacks]
      rintro s ⟨⟩
    · rw [after, hstep] at hidle
      cases hidle
  · -- Nothing was seen before the setback.
    rename_i fault
    refine (hc.suffers_begin state takes setback).outcome (h := []) hk ?_ rfl ?_ (Nat.zero_le _) ?_
      ?_ ?_
    · rw [hc.steady_begin.terms]
    · exact hc.steady_begin.fresh state
    · rintro s ⟨⟩
    · rw [setbacks_seen takes, setback]
      rfl
    · rw [connects_seen takes]
      exact (Nat.zero_add _).symm

/-- **At every moment of a campaign it goes on or is over.** -/
theorem outcome (hk : terms.policy.GivesUpAt k) (hc : Campaign terms before start lost inputs) :
    Trying terms.policy k lost (((Worker.new terms).after before).history (start :: inputs))
        (((Worker.new terms).after before).after (start :: inputs)) ∨
      Over k lost (((Worker.new terms).after before).history (start :: inputs))
        (((Worker.new terms).after before).after (start :: inputs)) := by
  -- The induction is on the last input.
  induction inputs using List.reverseRecOn with
  | nil => exact outcome_begin hk hc
  | append_singleton inputs i ih =>
    obtain ⟨now, input⟩ := i
    have hsit := situated_at terms before start inputs
    rw [← List.cons_append, history_concat, after_concat]
    cases takes : (((Worker.new terms).after before).after (start :: inputs)).takes input with
    | false =>
      -- An input that is not taken changes nothing.
      rw [seen, takes, step_of_not_takes now takes]
      simpa using ih hc.of_append
    | true =>
      obtain ht | ho := ih hc.of_append
      · exact ht.step hk hsit (coherent_at terms before start inputs) rfl hc.steady_at takes
          (hc.quiet (now, input) (by simp))
      · exact .inr (ho.step hsit (hc.ne_open_at ho.state))

end Campaign

/-! ## The course of a campaign -/

section Campaigns

variable {terms : Terms} {before : List (Nat × Input)} {start : Nat × Input} {lost k : Nat}
  {inputs : List (Nat × Input)}

/-- A worker that neither connects nor is closed waits for another attempt. -/
theorem Trying.awaiting {policy : RetryPolicy} {h : List Occurrence} {w : Worker} {up : Bool}
    (ht : Trying policy k lost h w) (hsit : w.Situated up) (idle : w.isConnecting = false) :
    w.Awaiting up := by
  have hstate := ht.state
  cases hsit with
  | closed s => simp [s.state] at hstate
  | waiting s => exact s
  | connecting s busy job => simp [isConnecting_of_job busy job] at idle
  | serving s => simp [s.state] at hstate
  | sending s => simp [s.state] at hstate

/-- When the attempts are spent or do not help, a setback ends them. -/
theorem Suffers.closes {policy : RetryPolicy} {w : Worker} {now : Nat} {fault : Fault} {t : Turn}
    (hs : w.Suffers now fault t) (hk : policy.GivesUpAt k) (hpolicy : w.terms.policy = policy)
    (bounded : w.attempt ≤ k) (hcause : w.attempt = k ∨ fault.isTransient = false) :
    t.worker.state = .closed ∧ w.FansOut fault t.effects ∧ t.connects = 0 := by
  have hnone := (hk.due_eq_none_iff bounded fault.kind now).2 hcause
  rw [← hpolicy] at hnone
  cases hs with
  | plans decision => simp [hnone] at decision
  | redials decision => simp [hnone] at decision
  | ends decision state idle connects fansOut => exact ⟨state, fansOut, connects⟩

theorem ne_zero_of_connect {t : Turn} {es es' : List Effect}
    (heffects : t.effects = es ++ .connect :: es') : t.connects ≠ 0 := by
  rw [Turn.connects, heffects, List.countP_append, List.countP_cons_of_pos (by rfl)]
  omega

namespace Campaign

/-- The connects of a campaign come after the waits. -/
theorem waits (hk : terms.policy.GivesUpAt k)
    (hc : Campaign terms before start lost inputs) {pre post : List Occurrence}
    (hp : ((Worker.new terms).after before).history (start :: inputs) =
      pre ++ .did .connect :: post) :
    History.setbacks pre = [] ∨ ∃ due,
      terms.policy.waitOver (History.setbacks pre) = some due ∧ due ≤ History.clock pre := by
  obtain ⟨earlier, now, input, es, es', hprefix, takes, heffects, rfl⟩ := effect_split hp
  have hconnects := ne_zero_of_connect heffects
  rw [History.setbacks_append, History.setbacks_took, History.clock_append, List.foldl_cons,
    History.foldl_clock_did]
  cases earlier with
  | nil =>
    -- The first connect of a campaign that began with a loss comes after that.
    obtain rfl : (now, input) = start := by simpa using hprefix
    obtain - | ⟨state, -, setback⟩ := hc.begins
    · exact .inl rfl
    · obtain ⟨due, hdue, hle⟩ := (hc.suffers_begin state takes setback).waited hconnects
      refine .inr ⟨due, ?_, hle⟩
      rw [hc.steady_begin.terms, hc.steady_begin.fresh state] at hdue
      rw [setback]
      exact hdue
  | cons i earlier =>
    rw [List.cons_append, List.cons_prefix_cons] at hprefix
    obtain ⟨rfl, rest, rfl⟩ := hprefix
    have hat := hc.of_append
    have hsit := situated_at terms before i earlier
    obtain ht | ho := hat.of_append.outcome hk
    · have htries := tries_step hsit ht.state (coherent_at terms before i earlier) hat.steady_at
        takes (hat.quiet (now, input) (by simp))
      exact .inr (ht.waited (by rw [hat.steady_at.terms]) htries hconnects)
    · rw [← connects_seen takes] at hconnects
      exact absurd (ho.quiet hsit now (hat.ne_open_at ho.state)).2.1 hconnects

/-- A setback that closes the connection is passed on, and nothing connects after it. -/
theorem ends_of_suffers (hk : terms.policy.GivesUpAt k) {w : Worker} {now : Nat} {input : Input}
    {fault : Fault} (hs : w.Suffers now fault (w.step now input)) (hpolicy : w.terms = terms)
    (bounded : w.attempt ≤ k) (hcause : w.attempt = k ∨ fault.isTransient = false) {up : Bool}
    (hsit : (w.step now input).worker.Situated up) {later : List (Nat × Input)}
    (hunopened : ∀ v now' reply, .took v now' (.command (.open reply)) ∈
      (w.step now input).worker.history later → v.state ≠ .closed) :
    w.FansOut fault (w.step now input).effects ∧
      History.connects ((w.step now input).effects.map .did ++
        (w.step now input).worker.history later) = 0 := by
  obtain ⟨hclosed, hfans, hconnects⟩ := hs.closes hk (by rw [hpolicy]) bounded hcause
  have heq := (hsit.dormant_of_closed hclosed).eq_resting
  refine ⟨hfans, ?_⟩
  rw [History.connects_append, History.connects_did, hconnects, Nat.zero_add]
  rw [heq] at hunopened ⊢
  exact connects_history_resting _ _ _ hunopened

/-- The setback that ends a campaign is passed on, and no connect follows. -/
theorem ends (hk : terms.policy.GivesUpAt k)
    (hc : Campaign terms before start lost inputs) {pre post : List Occurrence} {v : Worker}
    {now : Nat} {input : Input} {fault : Fault}
    (hp : ((Worker.new terms).after before).history (start :: inputs) =
      pre ++ .took v now input :: post)
    (hset : input.setback? = some fault)
    (hcause : (History.setbacks pre).length = k ∨ fault.isTransient = false) :
    v.FansOut fault (History.answers post) ∧ History.connects post = 0 := by
  obtain ⟨earlier, later, hinputs, rfl, rfl, takes, rfl⟩ := history_split hp
  rw [History.answers_did_append, History.answers_history, List.append_nil]
  cases earlier with
  | nil =>
    -- The campaign ends as it begins, with the loss of the link.
    rw [List.nil_append, List.cons.injEq] at hinputs
    obtain ⟨rfl, rfl⟩ := hinputs
    obtain - | ⟨state, -, -⟩ := hc.begins
    · cases hset
    · have hfresh := hc.steady_begin.fresh state
      refine ends_of_suffers hk (hc.suffers_begin state takes hset) hc.steady_begin.terms ?_ ?_
        (situated_at terms before (now, input) []) hc.unopened
      · rw [hfresh]
        exact Nat.zero_le k
      · rw [hfresh]
        exact hcause
  | cons i earlier =>
    rw [List.cons_append, List.cons.injEq] at hinputs
    obtain ⟨rfl, rfl⟩ := hinputs
    have hunopened := hc.unopened
    rw [history_append] at hunopened
    rw [List.append_cons] at hc
    have hat := hc.of_append
    have hsit := situated_at terms before start earlier
    have hsit' := situated_at terms before start (earlier ++ [(now, input)])
    rw [← List.cons_append, after_concat] at hsit'
    obtain ht | ho := hat.of_append.outcome hk
    · have htries := tries_step hsit ht.state (coherent_at terms before start earlier) hat.steady_at
        takes (hat.quiet (now, input) (by simp))
      rw [hset] at htries
      obtain - | - | ⟨-, suffers⟩ := htries
      refine ends_of_suffers hk suffers hat.steady_at.terms ?_ ?_ hsit' fun v now' reply hmem => ?_
      · rw [ht.counted]
        exact ht.bounded
      · rw [ht.counted]
        exact hcause
      · exact hunopened v now' reply (List.mem_append_right _ (List.mem_append_right _ hmem))
    · -- When the campaign is over no setback is suffered.
      have hnone := (ho.quiet hsit now (hat.ne_open_at ho.state)).2.2
      rw [setbacks_seen takes, hset] at hnone
      cases hnone

end Campaign

end Campaigns

end Worker

/-! ## A campaign that fails -/

namespace Outage

/-- The terms of a device that tries twice. -/
def terms : Terms where
  identity := ⟨"hub", "pump"⟩
  operationLimit := 30
  ackTimeout := 1000
  renewal := none
  policy := .ofOptions { baseDelay := 1, maxDelay := 1, maxDuration := 1 }

/-- The device is opened. -/
def start : Nat × Input := (0, .command (.open 1))

/-- It fails to connect, takes a reading on, waits, and takes too long to connect. -/
def inputs : List (Nat × Input) :=
  [(5, .connected (.error (.link .reset "refused"))),
    (6, .command (.submit (Renewal.reading 1) 101 90000000)), (2000005, .timer),
    (2000035, .overtime)]

end Outage

namespace Worker

end Worker

end HubLink
