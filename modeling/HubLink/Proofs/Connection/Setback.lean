import HubLink.Proofs.Connection.Attempts
import HubLink.Proofs.Retry.Policy

/-! # Setbacks

A setback is a connect that fails or a link that is lost. Either way the worker asks its policy, and
then plans another attempt, makes it at once because the wait is over already, or closes the
connection and passes the fault on to everyone who waits (`Worker.Suffers`). Until the link is up
again, nothing but setbacks and the ends of waits makes a difference to a worker that tries to
connect (`Worker.tries_step`). -/

namespace HubLink

/-! ## Readings -/

/-- The fault by which an input that is taken fails a connect or loses the link. -/
def Input.setback? : Input → Option Fault
  | .connected (.error fault) => some fault
  | .sent (.error fault) => if fault.breaksLink then some fault else none
  | .event (.ok (.disconnected fault)) | .event (.error fault) => some fault
  | .overtime => some .slowLink
  | _ => none

/-- Whether an input neither brings the link up nor closes the connection. -/
def Input.isQuiet (input : Input) : Bool :=
  !input.closes &&
    match input with
    | .connected (.ok ()) => false
    | _ => true

/-- Whether an effect starts connecting. -/
def Effect.isConnect : Effect → Bool
  | .connect => true
  | _ => false

namespace Occurrence

/-- The setback that is suffered, with its instant. -/
def setback? : Occurrence → Option (Nat × Fault)
  | .took _ now input => input.setback?.map (now, ·)
  | .did _ => none

/-- Whether connecting is started. -/
def isConnect : Occurrence → Bool
  | .did e => e.isConnect
  | .took .. => false

end Occurrence

namespace History

/-- The setbacks, in order, with their instants. -/
def setbacks (h : List Occurrence) : List (Nat × Fault) := h.filterMap (·.setback?)

/-- How often connecting was started. -/
def connects (h : List Occurrence) : Nat := h.countP (·.isConnect)

@[simp] theorem setbacks_append (h k : List Occurrence) :
    setbacks (h ++ k) = setbacks h ++ setbacks k :=
  List.filterMap_append

@[simp] theorem connects_append (h k : List Occurrence) :
    connects (h ++ k) = connects h + connects k :=
  List.countP_append

@[simp] theorem setbacks_did (es : List Effect) : setbacks (es.map .did) = [] := by
  simp [setbacks, Occurrence.setback?]

theorem setbacks_took (w : Worker) (now : Nat) (input : Input) (es : List Effect) :
    setbacks (.took w now input :: es.map .did) = (input.setback?.map (now, ·)).toList := by
  have hsplit : (.took w now input :: es.map .did : List Occurrence) =
      [.took w now input] ++ es.map .did := rfl
  rw [hsplit, setbacks_append, setbacks_did, List.append_nil]
  cases h : input.setback? <;> simp [setbacks, Occurrence.setback?, h]

end History

/-- How often a turn starts connecting. -/
def Turn.connects (t : Turn) : Nat := t.effects.countP (·.isConnect)

@[simp] theorem Turn.connects_andThen (t : Turn) (f : Worker → Turn) :
    (t.andThen f).connects = t.connects + (f t.worker).connects :=
  List.countP_append

theorem Turn.andThen_congr {t : Turn} {f g : Worker → Turn} (h : f t.worker = g t.worker) :
    t.andThen f = t.andThen g := by
  rw [Turn.andThen, Turn.andThen, h]

theorem History.connects_did (t : Turn) : connects (t.effects.map .did) = t.connects := by
  rw [connects, List.countP_map]
  rfl

theorem History.connects_took (w : Worker) (now : Nat) (input : Input) (t : Turn) :
    connects (.took w now input :: t.effects.map .did) = t.connects := by
  rw [connects, List.countP_cons_of_neg (by simp [Occurrence.isConnect])]
  exact connects_did t

namespace Worker

variable {w : Worker} {now : Nat} {fault : Fault}

/-! ## Turns that do not connect -/

theorem connects_enter (w : Worker) (state : ConnectionState) (reason : StatusReason) :
    (w.enter state reason).connects = 0 := by
  unfold enter
  split <;> rfl

theorem connects_track {α : Type} (w : Worker) (change : Change DeliveryTracker α) :
    (w.track change).connects = 0 := by
  simp [track, Turn.connects, Effect.isConnect]

theorem connects_answerWaiters (w : Worker) (result : Except Fault Unit) :
    (w.answerWaiters result).connects = 0 := by
  simp [answerWaiters, Turn.connects, Effect.isConnect]

theorem connects_giveUp (w : Worker) (fault : Fault) : (w.giveUp fault).connects = 0 := by
  rw [giveUp, Turn.connects_andThen, shut, Turn.connects_andThen, Turn.connects_andThen,
    connects_enter, connects_track, connects_answerWaiters]
  rfl

theorem connects_settle (w : Worker) (request : SettleRequest) :
    (w.settle request).connects = 0 := by
  unfold settle Turn.connects
  split <;> rfl

/-! ## What is left to do -/

/-- A closed connection leaves nothing to do but to answer. -/
theorem run_of_closed (hclosed : w.state = .closed) (now : Nat) (tasks : List Task) :
    (run now tasks w).worker = w ∧ (run now tasks w).connects = 0 := by
  induction tasks with
  | nil => exact ⟨rfl, rfl⟩
  | cons task tasks ih =>
    cases task with
    | flush =>
      rw [run, if_neg (by simp [hclosed])]
      exact ih
    | settle request =>
      rw [run, Turn.andThen_worker, Turn.connects_andThen, connects_settle, Nat.zero_add]
      exact ih
    | reconnect due =>
      rw [run, if_neg (by simp [hclosed])]
      exact ih
    | renew due =>
      rw [run, if_neg (by simp [hclosed])]
      exact ih

/-- **While the link is gone, what is left to do is to connect again when that is due.** -/
theorem run_of_reconnecting (hstate : w.state = .reconnecting) (now : Nat) (tasks : List Task)
    (htasks : ∀ due, .reconnect due ∈ tasks → due ≤ now) :
    ((run now tasks w).worker = w ∧ (run now tasks w).connects = 0) ∨
      (∃ due next, w.reconnectAt = some due ∧ due ≤ now ∧
        (run now tasks w).worker =
          ({ w with reconnectAt := none }.connect now .connected next).worker) ∧
        (run now tasks w).connects = 1 := by
  induction tasks with
  | nil => exact .inl ⟨rfl, rfl⟩
  | cons task tasks ih =>
    have hrest := ih fun due hmem => htasks due (List.mem_cons_of_mem _ hmem)
    cases task with
    | flush =>
      rw [run, if_neg (by simp [hstate])]
      exact hrest
    | settle request =>
      rw [run, Turn.andThen_worker, Turn.connects_andThen, connects_settle, Nat.zero_add]
      exact hrest
    | reconnect due =>
      rw [run]
      split
      · rename_i hdue
        refine .inr ⟨?_, rfl⟩
        cases hat : w.reconnectAt with
        | none => simp [hat, isDue] at hdue
        | some planned =>
          have hle : planned ≤ due := by simpa [hat, isDue] using hdue.2
          exact ⟨planned, tasks, rfl, hle.trans (htasks due (List.mem_cons_self ..)), rfl⟩
      · exact hrest
    | renew due =>
      rw [run, if_neg (by simp [hstate])]
      exact hrest

/-! ## The end of the attempts -/

theorem finalReason_of_isTransient (h : fault.isTransient) : finalReason fault = .retryExpired := by
  have hkind : fault.kind ≠ .unauthorized := by
    intro heq
    simp [Fault.isTransient, heq, FailureKind.isTransient] at h
  rw [finalReason, if_neg hkind, if_pos h]

/-- **A fault is passed on to everyone who waits**: the application learns that the connection is
closed, and whoever waits for it to open or for a message to be delivered is answered with the
fault. -/
structure FansOut (w : Worker) (fault : Fault) (es : List Effect) : Prop where
  /-- The application is told, and the reason is that it was tried often enough unless trying again
  does not help. -/
  told : ∃ reason, .tell (.status .closed reason) ∈ es ∧
    (fault.isTransient → reason = .retryExpired)
  /-- Everyone who waits for the connection to open is answered. -/
  waiters : ∀ reply ∈ w.waiters, .reply reply (.error fault) ∈ es
  /-- Every operation that is under way ends. -/
  pending : ∀ id p, w.tracker.pending? id = some p → .complete (p.resolve id (.error fault)) ∈ es

/-- Giving up passes the fault on. -/
theorem fansOut_giveUp (hstate : w.state ≠ .closed) (ht : w.tracker.Coherent) (fault : Fault) :
    w.FansOut fault (w.giveUp fault).effects := by
  have heffects : (w.giveUp fault).effects =
      [.release, .tell (.status .closed (finalReason fault))] ++
        (w.tracker.failAll fault).resolved.map .complete ++
          w.waiters.map (.reply · (.error fault)) := by
    simp [giveUp, shut, enter, release, forgetPlans, hstate, track, answerWaiters, Turn.andThen]
  rw [heffects]
  refine ⟨⟨finalReason fault, by simp, finalReason_of_isTransient⟩, ?_, ?_⟩
  · intro reply hmem
    refine List.mem_append_right _ (List.mem_map_of_mem hmem)
  · intro id p hp
    rw [(DeliveryTracker.failAll_eq ht fault).2]
    refine List.mem_append_left _ (List.mem_append_right _ (List.mem_map_of_mem ?_))
    exact List.mem_map.2 ⟨(id, p), SortedMap.get?_eq_some_iff.1 hp, rfl⟩

/-! ## One setback -/

/-- **What a setback leads to.** -/
inductive Suffers (w : Worker) (now : Nat) (fault : Fault) (t : Turn) : Prop where
  /-- Another attempt is planned. -/
  | plans {due : Nat} (decision : (w.terms.policy.decide fault.kind w.attempt).due now = some due)
      (state : t.worker.state = .reconnecting) (attempt : t.worker.attempt = w.attempt + 1)
      (planned : t.worker.reconnectAt = some due) (idle : t.worker.isConnecting = false)
      (connects : t.connects = 0)
  /-- The wait is over at once, and the link connects again. -/
  | redials {due : Nat} (decision : (w.terms.policy.decide fault.kind w.attempt).due now = some due)
      (elapsed : due ≤ now) (state : t.worker.state = .reconnecting)
      (attempt : t.worker.attempt = w.attempt + 1) (connecting : t.worker.isConnecting)
      (connects : t.connects = 1)
  /-- The connection is closed. -/
  | ends (decision : (w.terms.policy.decide fault.kind w.attempt).due now = none)
      (state : t.worker.state = .closed) (idle : t.worker.isConnecting = false)
      (connects : t.connects = 0) (fansOut : w.FansOut fault t.effects)

/-- What a turn that ends with the link closed keeps for the decision about another attempt. -/
structure Prepares (w : Worker) (fault : Fault) (t : Turn) : Prop where
  terms : t.worker.terms = w.terms
  attempt : t.worker.attempt = w.attempt
  waiters : t.worker.waiters = w.waiters
  coherent : t.worker.tracker.Coherent
  pending : ∀ id p, w.tracker.pending? id = some p →
    t.worker.tracker.pending? id = some p ∨ .complete (p.resolve id (.error fault)) ∈ t.effects
  idle : t.worker.busy = none
  state : t.worker.state = .reconnecting ∨ fault.isTransient = false ∧ t.worker.state ≠ .closed
  connects : t.connects = 0

theorem isConnecting_of_idle (idle : w.busy = none) : w.isConnecting = false := by
  rw [isConnecting, idle]

/-- The connection is closed because of a fault, and nothing is left to do. -/
theorem Prepares.ends {t : Turn} (hp : w.Prepares fault t)
    (decision : (w.terms.policy.decide fault.kind w.attempt).due now = none) (tasks : List Task) :
    w.Suffers now fault ((t.andThen (·.giveUp fault)).andThen (run now tasks)) := by
  have hstate : (t.worker.giveUp fault).worker.state = .closed := by
    rw [giveUp_worker]
    rfl
  have hopen : t.worker.state ≠ .closed := by
    obtain hre | ⟨-, hne⟩ := hp.state
    · simp [hre]
    · exact hne
  have hfans := fansOut_giveUp hopen hp.coherent fault
  obtain ⟨hworker, hconnects⟩ := run_of_closed hstate now tasks
  refine .ends decision ?_ ?_ ?_ ⟨?_, fun reply hmem => ?_, fun id p hid => ?_⟩
  · rw [Turn.andThen_worker, Turn.andThen_worker, hworker, hstate]
  · rw [Turn.andThen_worker, Turn.andThen_worker, hworker, giveUp_worker]
    exact isConnecting_of_idle hp.idle
  · rw [Turn.connects_andThen, Turn.connects_andThen, Turn.andThen_worker, hconnects,
      connects_giveUp, hp.connects]
  · obtain ⟨reason, htold, hreason⟩ := hfans.told
    exact ⟨reason, List.mem_append_left _ (List.mem_append_right _ htold), hreason⟩
  · rw [← hp.waiters] at hmem
    exact List.mem_append_left _ (List.mem_append_right _ (hfans.waiters reply hmem))
  · -- An operation ended before, or ends now.
    refine List.mem_append_left _ (List.mem_append.2 ?_)
    exact (hp.pending id p hid).symm.imp_right (hfans.pending id p)

/-- Another attempt is planned, and made at once if the wait is over already. -/
theorem Prepares.goesOn {t : Turn} (hp : w.Prepares fault t)
    (hstate : t.worker.state = .reconnecting) {due : Nat}
    (decision : (w.terms.policy.decide fault.kind w.attempt).due now = some due) {tasks : List Task}
    (htasks : ∀ due, .reconnect due ∈ tasks → due ≤ now) :
    w.Suffers now fault
      ((t.andThen fun v =>
        { worker := { v with attempt := v.attempt + 1, reconnectAt := some due } }).andThen
          (run now tasks)) := by
  obtain ⟨hworker, hconnects⟩ | ⟨⟨due', next, hat, helapsed, hworker⟩, hconnects⟩ :=
    run_of_reconnecting (w := { t.worker with
      attempt := t.worker.attempt + 1, reconnectAt := some due }) hstate now tasks htasks
  · refine .plans decision ?_ ?_ ?_ ?_ ?_
    · rw [Turn.andThen_worker, Turn.andThen_worker, hworker, hstate]
    · rw [Turn.andThen_worker, Turn.andThen_worker, hworker, hp.attempt]
    · rw [Turn.andThen_worker, Turn.andThen_worker, hworker]
    · rw [Turn.andThen_worker, Turn.andThen_worker, hworker]
      exact isConnecting_of_idle hp.idle
    · rw [Turn.connects_andThen, Turn.connects_andThen, Turn.andThen_worker, hconnects, hp.connects]
      rfl
  · obtain rfl : due = due' := Option.some.inj hat
    refine .redials decision helapsed ?_ ?_ ?_ ?_
    · rw [Turn.andThen_worker, Turn.andThen_worker, hworker]
      exact hstate
    · rw [Turn.andThen_worker, Turn.andThen_worker, hworker, ← hp.attempt]
      rfl
    · rw [Turn.andThen_worker, Turn.andThen_worker, hworker]
      rfl
    · rw [Turn.connects_andThen, Turn.connects_andThen, Turn.andThen_worker, hconnects, hp.connects]
      rfl

/-- **The decision about another attempt, and what is left to do after it.** -/
theorem Prepares.suffers {t : Turn} (hp : w.Prepares fault t) (now : Nat) (tasks : List Task)
    (htasks : ∀ due, .reconnect due ∈ tasks → due ≤ now) :
    w.Suffers now fault ((t.andThen (·.planReconnect now fault)).andThen (run now tasks)) := by
  have hdecide : t.worker.terms.policy.decide fault.kind t.worker.attempt =
      w.terms.policy.decide fault.kind w.attempt := by rw [hp.terms, hp.attempt]
  cases hd : w.terms.policy.decide fault.kind w.attempt with
  | giveUp =>
    have hplan : t.andThen (·.planReconnect now fault) = t.andThen (·.giveUp fault) :=
      Turn.andThen_congr (by rw [planReconnect, hdecide, hd])
    rw [hplan]
    exact hp.ends (by rw [hd]; rfl) tasks
  | retry after =>
    have hplan : t.andThen (·.planReconnect now fault) = t.andThen fun v =>
        { worker :=
            { v with
              attempt := v.attempt + 1, reconnectAt := some (deadlineAfter now after) } } :=
      Turn.andThen_congr (by rw [planReconnect, hdecide, hd])
    rw [hplan]
    refine hp.goesOn ?_ (by rw [hd]; rfl) htasks
    -- Only a failure that trying again may cure is given another attempt.
    refine hp.state.resolve_right fun hnot => ?_
    have hcurable : fault.isTransient := RetryPolicy.isTransient_of_retry hd
    simp [hcurable] at hnot

/-! ## Setbacks in steps -/

/-- What the tracker ends with the fault before the decision is passed on, too. -/
theorem Prepares.of_track {α : Type} {change : Change DeliveryTracker α} {f : Worker → Turn}
    (hp : (w.track change).worker.Prepares fault (f (w.track change).worker))
    (hpending : ∀ id p, w.tracker.pending? id = some p →
      change.state.pending? id = some p ∨ p.resolve id (.error fault) ∈ change.resolved) :
    w.Prepares fault ((w.track change).andThen f) where
  terms := hp.terms
  attempt := hp.attempt
  waiters := hp.waiters
  coherent := hp.coherent
  pending id p hid := by
    rw [Turn.andThen_worker, Turn.andThen_effects, List.mem_append]
    obtain hstays | hends := hpending id p hid
    · exact (hp.pending id p hstays).imp_right .inr
    · exact .inr (.inl (List.mem_map_of_mem hends))
  idle := hp.idle
  state := hp.state
  connects := by rw [Turn.connects_andThen, connects_track, hp.connects]

/-- The link is closed after a failed connect, before the decision. -/
theorem prepares_connectFailed (hstate : w.state = .opening ∨ w.state = .reconnecting)
    (ht : w.tracker.Coherent) (idle : w.busy = none) :
    w.Prepares fault
      (w.release.andThen fun v =>
        if v.state = .opening ∧ fault.isTransient then v.enter .reconnecting .communicationError
        else { worker := v }) := by
  rw [Turn.andThen, show w.release.worker = w from rfl]
  split
  · rename_i hfirst
    have hworker := enter_worker w .reconnecting .communicationError
    refine ⟨?_, ?_, ?_, ?_, fun id p hid => .inl ?_, ?_, .inl ?_, ?_⟩
    · rw [hworker]
    · rw [hworker]
    · rw [hworker]
    · rw [hworker]
      exact ht
    · rw [hworker]
      exact hid
    · rw [hworker]
      exact idle
    · rw [hworker]
    · exact (Turn.connects_andThen w.release (·.enter .reconnecting .communicationError)).trans
        (by rw [connects_enter]; rfl)
  · rename_i hnot
    refine ⟨rfl, rfl, rfl, ht, fun id p hid => .inl hid, idle, ?_, rfl⟩
    -- A first connect stays in its state only after a fault that trying again does not cure.
    obtain hopening | hre := hstate
    · exact .inr ⟨by simpa [hopening] using hnot, by simp [hopening]⟩
    · exact .inl hre

/-- A connect failed. -/
theorem suffers_connectEnded (hstate : w.state = .opening ∨ w.state = .reconnecting)
    (ht : w.tracker.Coherent) (idle : w.busy = none) {b : Busy}
    (hb : ∀ due, .reconnect due ∈ afterwards b → due ≤ now) (reason : StatusReason) :
    w.Suffers now fault (w.connectEnded now b reason (.error fault)) :=
  (prepares_connectFailed hstate ht idle).suffers now _ hb

/-- The link of an open connection is closed before the decision. -/
theorem prepares_linkLost (ht : w.tracker.Coherent) (idle : w.busy = none) (fault : Fault) :
    w.Prepares fault
      (w.release.andThen fun v =>
        { v with renewAt := none, queue := [] }.enter .reconnecting .connectionLost) where
  terms := by rw [Turn.andThen_worker, enter_worker]; rfl
  attempt := by rw [Turn.andThen_worker, enter_worker]; rfl
  waiters := by rw [Turn.andThen_worker, enter_worker]; rfl
  coherent := by rw [Turn.andThen_worker, enter_worker]; exact ht
  pending id p hid := by rw [Turn.andThen_worker, enter_worker]; exact .inl hid
  idle := by rw [Turn.andThen_worker, enter_worker]; exact idle
  state := by rw [Turn.andThen_worker, enter_worker]; exact .inl rfl
  connects := by rw [Turn.connects_andThen, connects_enter]; rfl

/-- The link was lost. -/
theorem suffers_linkLost (hopen : w.state = .open) (ht : w.tracker.Coherent) (idle : w.busy = none) :
    w.Suffers now fault (w.linkLost now fault) := by
  have hs := (prepares_linkLost ht idle fault).suffers now [] (by simp)
  rw [linkLost, if_pos hopen]
  simpa [Turn.andThen, run] using hs

/-- The link was lost with a message. -/
theorem suffers_sendEnded (hopen : w.state = .open) (ht : w.tracker.Coherent) (idle : w.busy = none)
    {b : Busy} (hb : ∀ due, .reconnect due ∈ afterwards b → due ≤ now) (id : Nat)
    (hbreaks : fault.breaksLink) :
    w.Suffers now fault (w.sendEnded now b id (.error fault)) := by
  have hpending : ∀ k p, w.tracker.pending? k = some p →
      (w.tracker.sendFailed w.terms.policy id fault now).state.pending? k = some p ∨
        p.resolve k (.error fault) ∈
          (w.tracker.sendFailed w.terms.policy id fault now).resolved := by
    intro k p hk
    obtain ⟨-, heq⟩ | ⟨p', hp', heq⟩ | ⟨m, retryAt, -, heq⟩ :=
      DeliveryTracker.sendFailed_eq ht w.terms.policy id fault now
    · rw [heq]
      exact .inl hk
    · -- The message itself may have failed for good.
      rw [heq, DeliveryTracker.pending?_retire]
      by_cases hkid : k = id
      · subst hkid
        obtain rfl : p = p' := Option.some.inj (hk.symm.trans hp')
        exact .inr (List.mem_singleton_self _)
      · rw [if_neg hkid]
        exact .inl hk
    · rw [heq]
      exact .inl hk
  -- Once the failure is put down, the link is lost as it is without a message.
  have hlost :
      ((w.track (w.tracker.sendFailed w.terms.policy id fault now)).andThen fun v =>
        if fault.breaksLink then v.linkLost now fault else { worker := v }) =
      ((w.track (w.tracker.sendFailed w.terms.policy id fault now)).andThen fun v =>
        v.release.andThen fun v =>
          { v with renewAt := none, queue := [] }.enter .reconnecting .connectionLost).andThen
        (·.planReconnect now fault) := by
    rw [Turn.andThen_assoc]
    refine Turn.andThen_congr ?_
    rw [if_pos hbreaks, linkLost, if_pos (by exact hopen)]
  have hcoherent := ht.sendFailed w.terms.policy id fault now
  rw [sendEnded, hlost]
  refine Prepares.suffers (.of_track ?_ hpending) now _ hb
  exact prepares_linkLost
    (w := (w.track (w.tracker.sendFailed w.terms.policy id fault now)).worker) hcoherent idle fault

/-- What is suffered does not depend on what the link was busy with. -/
theorem Suffers.of_idle {t : Turn} (hs : Suffers { w with busy := none } now fault t) :
    w.Suffers now fault t := by
  cases hs with
  | plans decision state attempt planned idle connects =>
    exact .plans decision state attempt planned idle connects
  | redials decision elapsed state attempt connecting connects =>
    exact .redials decision elapsed state attempt connecting connects
  | ends decision state idle connects fansOut =>
    exact .ends decision state idle connects ⟨fansOut.told, fansOut.waiters, fansOut.pending⟩

/-- **An open connection loses its link.** -/
theorem suffers_step_of_open {up : Bool} (hs : w.Situated up) (hopen : w.state = .open)
    (ht : w.tracker.Coherent) {terms : Terms} (steady : w.Steady terms (· ≤ now)) {input : Input}
    (takes : w.takes input) (hset : input.setback? = some fault) :
    w.Suffers now fault (w.step now input) := by
  have going := going_of_takes takes
  cases hb : w.busy with
  | none =>
    rw [step_of_idle going hb]
    cases input with
    | event e =>
      rw [stepAtRest, if_pos hopen]
      cases e with
      | error fault' =>
        obtain rfl : fault' = fault := Option.some.inj hset
        exact suffers_linkLost hopen ht hb
      | ok happening =>
        cases happening with
        | disconnected fault' =>
          obtain rfl : fault' = fault := Option.some.inj hset
          exact suffers_linkLost hopen ht hb
        | acknowledged | rejected | notification => cases hset
    | connected | sent | overtime => simp [Worker.takes, isConnecting, isSending, hb] at takes
    | command | abandoned | timer => cases hset
  | some b =>
    rw [step_of_busy going hb]
    have hdue := steady.due_afterwards hb
    obtain ⟨reason, s, job⟩ | ⟨id, next, s, job, -⟩ := hs.of_busy hb
    · obtain hstate | hstate := s.state <;> simp [hstate] at hopen
    · refine Suffers.of_idle ?_
      cases input with
      | sent result =>
        simp only [stepBusy, job]
        cases result with
        | ok => cases hset
        | error fault' =>
          simp only [Input.setback?, Option.ite_none_right_eq_some, Option.some.injEq] at hset
          obtain ⟨hbreaks, rfl⟩ := hset
          exact suffers_sendEnded (w := { w with busy := none }) hopen ht rfl hdue id hbreaks
      | overtime =>
        obtain rfl : Fault.slowLink = fault := Option.some.inj hset
        simp only [stepBusy, job]
        exact suffers_sendEnded (w := { w with busy := none }) hopen ht rfl hdue id rfl
      | event => simp [Worker.takes, isListening, hb] at takes
      | connected =>
        obtain ⟨_, _, _, _⟩ := b
        subst job
        simp [Worker.takes, isConnecting, hb] at takes
      | command | abandoned | timer => cases hset

/-! ## Steps between setbacks -/

/-- **What a step leads to while the worker tries to connect**, given the setback it suffers. -/
inductive Tries (w : Worker) (now : Nat) (t : Turn) : Option Fault → Prop where
  /-- The worker goes on waiting or connecting. -/
  | keeps (state : t.worker.state = w.state) (attempt : t.worker.attempt = w.attempt)
      (reconnectAt : t.worker.reconnectAt = w.reconnectAt)
      (connecting : t.worker.isConnecting = w.isConnecting) (connects : t.connects = 0) :
      Tries w now t none
  /-- The wait is over, and the link connects. -/
  | dials {due : Nat} (waiting : w.isConnecting = false) (planned : w.reconnectAt = some due)
      (elapsed : due ≤ now) (state : t.worker.state = w.state)
      (attempt : t.worker.attempt = w.attempt) (connecting : t.worker.isConnecting)
      (connects : t.connects = 1) : Tries w now t none
  /-- A connect fails. -/
  | fails {fault : Fault} (connecting : w.isConnecting) (suffers : w.Suffers now fault t) :
      Tries w now t (some fault)

theorem tries_track {α : Type} (change : Change DeliveryTracker α) :
    Tries w now (w.track change) none :=
  .keeps rfl rfl rfl rfl (connects_track w change)

/-- A worker that is woken while it waits for another attempt only looks whether that is due. -/
theorem wake_of_awaiting {up : Bool} (s : w.Awaiting up) (now : Nat) :
    w.wake now = (w.track (w.tracker.expire now)).andThen
      (run now [.flush, .reconnect now, .renew now]) := by
  have hne : (w.track (w.tracker.expire now)).worker.state ≠ .open := by simp [track, s.state]
  rw [wake, Turn.andThen_congr (f := fun w => if w.state = .open then _ else _) (if_neg hne)]
  simp only [Turn.andThen, List.append_nil]

/-- The end of a wait for another attempt is looked for after the deadlines. -/
theorem tries_wake {up : Bool} (s : w.Awaiting up) : Tries w now (w.wake now) none := by
  have hconnects : (w.wake now).connects =
      (run now [.flush, .reconnect now, .renew now]
        (w.track (w.tracker.expire now)).worker).connects := by
    rw [wake_of_awaiting s, Turn.connects_andThen, connects_track, Nat.zero_add]
  have hworker := congrArg Turn.worker (wake_of_awaiting s now)
  rw [Turn.andThen_worker] at hworker
  obtain ⟨hrun, hnone⟩ | ⟨⟨due, next, hat, helapsed, hrun⟩, hone⟩ :=
    run_of_reconnecting (w := (w.track (w.tracker.expire now)).worker) s.state now
      [.flush, .reconnect now, .renew now] (by simp)
  · rw [hrun] at hworker
    rw [hnone] at hconnects
    refine .keeps ?_ ?_ ?_ ?_ hconnects
    all_goals
      rw [hworker]
      rfl
  · rw [hrun] at hworker
    rw [hone] at hconnects
    refine .dials (isConnecting_of_idle s.idle) hat helapsed ?_ ?_ ?_ hconnects
    all_goals
      rw [hworker]
      rfl

theorem isConnecting_of_job {b : Busy} (busy : w.busy = some b) {reason : StatusReason}
    (job : b.job = .connecting reason) : w.isConnecting := by
  obtain ⟨_, _, _, _⟩ := b
  subst job
  rw [isConnecting, busy]

/-- While the link connects, only the end of the connect makes a difference. -/
theorem tries_stepBusy (hstate : w.state = .opening ∨ w.state = .reconnecting)
    (ht : w.tracker.Coherent) {b : Busy} (busy : w.busy = some b) {reason : StatusReason}
    (job : b.job = .connecting reason) (hdue : ∀ due, .reconnect due ∈ afterwards b → due ≤ now)
    {input : Input} (takes : w.takes input) (quiet : input.isQuiet) :
    Tries w now (w.stepBusy now b input) input.setback? := by
  have hconnecting := isConnecting_of_job busy job
  have hfails (fault : Fault) :
      Tries w now ({ w with busy := none }.connectEnded now b reason (.error fault))
        (some fault) :=
    .fails hconnecting
      (.of_idle (suffers_connectEnded (w := { w with busy := none }) hstate ht rfl hdue reason))
  cases input with
  | command c =>
    cases c with
    | «open» reply =>
      simp only [stepBusy, commandWhileBusy, job]
      exact .keeps rfl rfl rfl rfl rfl
    | close => cases quiet
    | submit message completion deadline =>
      simp only [stepBusy, commandWhileBusy, job]
      cases (w.tracker.submit message completion deadline).value <;>
        exact .keeps rfl rfl rfl rfl (by rw [Turn.connects_andThen, connects_track]; rfl)
    | cancel id => exact tries_track _
    | settle request =>
      refine .keeps rfl rfl rfl ?_ rfl
      rw [hconnecting]
      exact isConnecting_of_job (b := { b with deferred := b.deferred ++ [request] }) rfl job
  | abandoned => cases quiet
  | event e => simp [Worker.takes, isListening, busy] at takes
  | timer => exact tries_track _
  | connected result =>
    cases result with
    | ok => cases quiet
    | error fault =>
      simp only [stepBusy, job]
      exact hfails fault
  | sent result =>
    obtain ⟨_, _, _, _⟩ := b
    subst job
    simp [Worker.takes, isSending, busy] at takes
  | overtime =>
    simp only [stepBusy, job]
    exact hfails .slowLink

/-- While another attempt is planned, only the end of the wait makes a difference. -/
theorem tries_stepAtRest {up : Bool} (s : w.Awaiting up) {input : Input} (takes : w.takes input)
    (quiet : input.isQuiet) : Tries w now (w.stepAtRest now input) input.setback? := by
  cases input with
  | command c =>
    cases c with
    | «open» reply =>
      simp only [stepAtRest, commandAtRest, s.state]
      exact .keeps s.state.symm rfl rfl rfl rfl
    | close => cases quiet
    | submit message completion deadline =>
      have hne : (w.track (w.tracker.submit message completion deadline)).worker.state ≠ .open := by
        simp [track, s.state]
      rw [stepAtRest, commandAtRest, if_neg (by simp [s.state])]
      dsimp only [Turn.andThen]
      cases (w.tracker.submit message completion deadline).value with
      | ok =>
        rw [if_neg hne, List.append_nil]
        exact tries_track _
      | error =>
        rw [List.append_nil]
        exact tries_track _
    | cancel id => exact tries_track _
    | settle request => exact .keeps rfl rfl rfl rfl (connects_settle w request)
  | abandoned => cases quiet
  | event e => simp [Worker.takes, isListening, s.state] at takes
  | timer => exact tries_wake s
  | connected | sent | overtime =>
    simp [Worker.takes, isConnecting, isSending, s.idle] at takes

/-- **Until the link is up again, only setbacks and the ends of waits make a difference.** -/
theorem tries_step {up : Bool} (hs : w.Situated up)
    (hstate : w.state = .opening ∨ w.state = .reconnecting) (ht : w.tracker.Coherent)
    {terms : Terms} (steady : w.Steady terms (· ≤ now)) {input : Input} (takes : w.takes input)
    (quiet : input.isQuiet) : Tries w now (w.step now input) input.setback? := by
  have going := going_of_takes takes
  cases hb : w.busy with
  | none =>
    rw [step_of_idle going hb]
    obtain (s | s) | ⟨s, -⟩ := hs.of_idle hb
    · simp [s.state] at hstate
    · exact tries_stepAtRest s takes quiet
    · simp [s.state] at hstate
  | some b =>
    rw [step_of_busy going hb]
    obtain ⟨reason, s, job⟩ | ⟨id, next, s, -, -⟩ := hs.of_busy hb
    · exact tries_stepBusy hstate ht hb job (steady.due_afterwards hb) takes quiet
    · simp [s.state] at hstate

end Worker

end HubLink
