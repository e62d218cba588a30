import HubLink.Proofs.Connection.Turn

/-! # Situations of a worker

Between steps a worker is in one of five situations: *dormant* while its connection is closed,
*awaiting* the time of another attempt, *dialing* while the link connects, and *serving* an open
link, at rest or with a message at the link. A situation ties the state to the link being up or
down, to the plans, the queue and the waiters, and says what the tracker holds.

Turns *land*: they are followed by a course and end in a situation (`Lands`). What is left to do
lands by induction on the tasks, once while the link is down (`Worker.lands_run_offline`) and once
while it is up (`Worker.lands_run_serving`). -/

namespace HubLink

open Relation

/-- A message was handed to a link. -/
def Tracked.IsSent (m : Tracked) : Prop := m.message.state = .sent ∧ m.sentAt.isSome

theorem Tracked.isSent_handOver (m : Tracked) (now : Nat) : (m.handOver now).IsSent := ⟨rfl, rfl⟩

/-- Whether the queue is handed over before anything else that changes the connection. -/
def Task.flushesFirst : List Task → Bool
  | .flush :: _ => true
  | .settle _ :: tasks => flushesFirst tasks
  | _ => false

namespace Worker

/-- Settling what was deferred does not keep the queue from being handed over. -/
theorem flushesFirst_afterwards {b : Busy} {next : List Task} (hb : b.next = .flush :: next) :
    Task.flushesFirst (afterwards b) := by
  rw [afterwards, hb]
  induction b.deferred with
  | nil => rfl
  | cons request deferred ih => exact ih

/-! ## Situations -/

/-- The connection is closed and nothing is under way. -/
structure Dormant (up : Bool) (w : Worker) : Prop where
  down : up = false
  state : w.state = .closed
  tracker : w.tracker = .empty
  waiters : w.waiters = []
  queue : w.queue = []
  reconnectAt : w.reconnectAt = none
  renewAt : w.renewAt = none
  idle : w.busy = none

/-- Another attempt to connect is planned. -/
structure Awaiting (up : Bool) (w : Worker) : Prop where
  down : up = false
  state : w.state = .reconnecting
  planned : w.reconnectAt.isSome
  renewAt : w.renewAt = none
  queue : w.queue = []
  idle : w.busy = none
  going : w.stopped = false

/-- The link is about to connect or connecting. -/
structure Dialing (up : Bool) (w : Worker) : Prop where
  down : up = false
  state : w.state = .opening ∨ w.state = .reconnecting
  reconnectAt : w.reconnectAt = none
  renewAt : w.renewAt = none
  queue : w.queue = []
  going : w.stopped = false

/-- The link is up, and every message under way was handed over or is queued. -/
structure Serving (up : Bool) (w : Worker) : Prop where
  up : up = true
  state : w.state = .open
  reconnectAt : w.reconnectAt = none
  waiters : w.waiters = []
  covered : ∀ id m, w.tracker.message? id = some m → m.IsSent ∨ id ∈ w.queue
  going : w.stopped = false

/-- **Where a worker is between steps**, given whether its link is up. -/
inductive Situated (up : Bool) (w : Worker) : Prop where
  /-- The connection is closed. -/
  | closed (s : w.Dormant up)
  /-- Another attempt is planned. -/
  | waiting (s : w.Awaiting up)
  /-- The link is connecting. -/
  | connecting {b : Busy} {reason : StatusReason} (s : w.Dialing up) (busy : w.busy = some b)
      (job : b.job = .connecting reason)
  /-- The link is up and at rest. -/
  | serving (s : w.Serving up) (clear : w.queue = []) (idle : w.busy = none)
  /-- The link is up and takes a message; then the queue is handed over. -/
  | sending {b : Busy} {id : Nat} {next : List Task} (s : w.Serving up) (busy : w.busy = some b)
      (job : b.job = .sending id) (flush : b.next = .flush :: next)

/-- The link is down and at rest. -/
def Offline (up : Bool) (w : Worker) : Prop := w.Dormant up ∨ w.Awaiting up

theorem Offline.situated {up : Bool} {w : Worker} (hs : w.Offline up) : w.Situated up :=
  hs.elim .closed .waiting

theorem Offline.down {up : Bool} {w : Worker} (hs : w.Offline up) : up = false :=
  hs.elim (·.down) (·.down)

theorem Offline.state_ne {up : Bool} {w : Worker} (hs : w.Offline up) : w.state ≠ .open := by
  obtain s | s := hs <;> simp [s.state]

/-- A busy link is connecting, or up with a message. -/
theorem Situated.of_busy {up : Bool} {w : Worker} {b : Busy} (hs : w.Situated up)
    (busy : w.busy = some b) :
    (∃ reason, w.Dialing up ∧ b.job = .connecting reason) ∨
      ∃ id next, w.Serving up ∧ b.job = .sending id ∧ b.next = .flush :: next := by
  cases hs with
  | closed s => simp [s.idle] at busy
  | waiting s => simp [s.idle] at busy
  | connecting s hb job =>
    obtain rfl : _ = b := Option.some.inj (hb.symm.trans busy)
    exact .inl ⟨_, s, job⟩
  | serving s clear idle => simp [idle] at busy
  | sending s hb job flush =>
    obtain rfl : _ = b := Option.some.inj (hb.symm.trans busy)
    exact .inr ⟨_, _, s, job, flush⟩

/-- A link that is connecting is busy with that, and the worker is dialing. -/
theorem Situated.of_isConnecting {up : Bool} {w : Worker} (hs : w.Situated up)
    (h : w.isConnecting) :
    ∃ b reason, w.busy = some b ∧ b.job = .connecting reason ∧ w.Dialing up := by
  rw [isConnecting] at h
  split at h
  · rename_i hb
    obtain ⟨_, s, -⟩ | ⟨_, _, _, job, -⟩ := hs.of_busy hb
    · exact ⟨_, _, hb, rfl, s⟩
    · cases job
  · cases h

/-- A link that is not busy is down, or up with nothing queued. -/
theorem Situated.of_idle {up : Bool} {w : Worker} (hs : w.Situated up) (idle : w.busy = none) :
    w.Offline up ∨ w.Serving up ∧ w.queue = [] := by
  cases hs with
  | closed s => exact .inl (.inl s)
  | waiting s => exact .inl (.inr s)
  | connecting s busy job => simp [idle] at busy
  | serving s clear _ => exact .inr ⟨s, clear⟩
  | sending s busy job flush => simp [idle] at busy

/-- A worker whose connection is closed is dormant. -/
theorem Situated.dormant_of_closed {up : Bool} {w : Worker} (hs : w.Situated up)
    (hclosed : w.state = .closed) : w.Dormant up := by
  cases hs with
  | closed s => exact s
  | waiting s => simp [s.state] at hclosed
  | connecting s _ _ => obtain hstate | hstate := s.state <;> simp [hstate] at hclosed
  | serving s _ _ => simp [s.state] at hclosed
  | sending s _ _ _ => simp [s.state] at hclosed

/-- A worker that has stopped is dormant. -/
theorem Situated.dormant_of_stopped {up : Bool} {w : Worker} (hs : w.Situated up)
    (hstop : w.stopped) : w.Dormant up := by
  cases hs with
  | closed s => exact s
  | waiting s => simp [s.going] at hstop
  | connecting s _ _ => simp [s.going] at hstop
  | serving s _ _ => simp [s.going] at hstop
  | sending s _ _ _ => simp [s.going] at hstop

/-- Serving goes on while messages are queued and less is under way. -/
theorem Serving.of_within {up : Bool} {w : Worker} (s : w.Serving up) {tracker : DeliveryTracker}
    {queue : List Nat} (ht : tracker.Within w.tracker) (hq : w.queue ⊆ queue) :
    Serving up { w with tracker, queue } where
  up := s.up
  state := s.state
  reconnectAt := s.reconnectAt
  waiters := s.waiters
  covered id m hm := by
    obtain ⟨m', hm', hmsg, hsent⟩ := ht id m hm
    refine (s.covered id m' hm').imp (fun hs => ?_) (fun hmem => hq hmem)
    rw [Tracked.IsSent, hmsg, hsent]
    exact hs
  going := s.going

/-- An offline worker stays offline while less is under way. -/
theorem Offline.of_within {up : Bool} {w : Worker} (hs : w.Offline up) {tracker : DeliveryTracker}
    (hc : tracker.Coherent) (ht : tracker.Within w.tracker) : Offline up { w with tracker } := by
  obtain s | s := hs
  · -- Nothing is within nothing.
    have hempty : tracker = .empty := DeliveryTracker.Within.eq_empty hc (s.tracker ▸ ht)
    exact .inl { s with tracker := hempty }
  · exact .inr { s with }

/-- A situation lasts while less and less is under way. -/
theorem Situated.of_within {up : Bool} {w : Worker} (hs : w.Situated up) {tracker : DeliveryTracker}
    (hc : tracker.Coherent) (ht : tracker.Within w.tracker) :
    Situated up { w with tracker } := by
  cases hs with
  | closed s => exact (Offline.of_within (.inl s) hc ht).situated
  | waiting s => exact (Offline.of_within (.inr s) hc ht).situated
  | connecting s busy job => exact .connecting { s with } busy job
  | serving s clear idle => exact .serving (s.of_within ht fun _ hk => hk) clear idle
  | sending s busy job flush => exact .sending (s.of_within ht fun _ hk => hk) busy job flush

end Worker

/-! ## Landing -/

/-- **A turn is followed by a course that ends in a situation.** -/
structure Lands (h : List Occurrence) (w : Worker) (t : Turn) : Prop where
  follows : Follows h w t
  situated : t.worker.Situated (History.linkUp (h ++ t.effects.map .did))

namespace Lands

variable {h : List Occurrence} {w v : Worker} {t : Turn}

/-- The last turn lands. -/
theorem andThen {f : Worker → Turn} (ht : Follows h w t)
    (hf : Lands (h ++ t.effects.map .did) t.worker (f t.worker)) : Lands h w (t.andThen f) where
  follows := ht.andThen hf.follows
  situated := by
    have hs := hf.situated
    rw [List.append_assoc, ← List.map_append] at hs
    exact hs

/-- Changes besides the tracker and the queue come first. -/
theorem of_aside (ht : v.tracker = w.tracker) (hq : v.queue = w.queue) (hterms : v.terms = w.terms)
    (hl : Lands h v t) : Lands h w t where
  follows := hl.follows.of_aside ht hq hterms
  situated := hl.situated

/-- A turn that does nothing. -/
theorem rest (hs : w.Situated (History.linkUp h)) : Lands h w { worker := w } where
  follows := .rest
  situated := by simpa using hs

end Lands

namespace Worker

variable {h : List Occurrence} {w : Worker} {fault : Fault}

/-! ## Tasks -/

theorem releases_settle (w : Worker) (request : SettleRequest) :
    (w.settle request).releases = false := by
  unfold settle Turn.releases
  split <;> rfl

/-- An inbound message is settled while the link is up. -/
theorem follows_settle (hup : w.state = .open → History.linkUp h = true)
    (request : SettleRequest) : Follows h w (w.settle request) := by
  unfold settle
  split
  · rename_i hopen
    refine ReflTransGen.single (.did rfl ?_ fun _ _ => hup hopen)
    rintro ⟨⟩
  · exact .news (by simp [Effect.isNews])

/-- Settling does not touch the link. -/
theorem linkUp_settle (h : List Occurrence) (w : Worker) (request : SettleRequest) :
    History.linkUp (h ++ (w.settle request).effects.map .did) = History.linkUp h := by
  rw [Turn.linkUp_after, releases_settle, Bool.not_false, Bool.and_true]

theorem lands_connect (hs : w.Dialing (History.linkUp h)) (now : Nat) (reason : StatusReason)
    (next : List Task) : Lands h w (w.connect now reason next) where
  follows := by
    refine ReflTransGen.trans (.single (.did rfl (fun _ => hs.down) ?_))
      (.single (.aside rfl rfl rfl))
    rintro _ ⟨⟩
  situated := by
    refine .connecting { hs with down := ?_ } rfl rfl
    simp [connect, start, Occurrence.linkUp, hs.down]

/-- **What is left to do lands while the link is down.** The link connects if that is due. -/
theorem lands_run_offline (now : Nat) (tasks : List Task)
    (hs : w.Offline (History.linkUp h)) : Lands h w (run now tasks w) := by
  induction tasks generalizing h with
  | nil => exact .rest hs.situated
  | cons task tasks ih =>
    cases task with
    | flush =>
      -- What is queued waits for the link.
      rw [run, if_neg hs.state_ne]
      exact ih hs
    | settle request =>
      rw [run]
      refine .andThen (follows_settle (fun hopen => absurd hopen hs.state_ne) request) (ih ?_)
      rw [linkUp_settle]
      exact hs
    | reconnect due =>
      rw [run]
      split
      · rename_i hdue
        obtain s | s := hs
        · rw [s.state] at hdue
          cases hdue.1
        · -- The tasks that are left wait until the link has connected or failed to.
          refine .of_aside (v := { w with reconnectAt := none }) rfl rfl rfl
            (lands_connect ?_ now .connected tasks)
          exact { s with state := .inr s.state, reconnectAt := rfl }
      · exact ih hs
    | renew due =>
      rw [run, if_neg fun hdue => hs.state_ne hdue.1]
      exact ih hs

/-- Handing over the first queued message leaves the others queued. -/
theorem Serving.of_nextToSend {up : Bool} (s : w.Serving up) {now id : Nat} {message : Outbound}
    {tracker : DeliveryTracker} {queue : List Nat}
    (hnext : nextToSend w.tracker now w.queue = some (id, message, tracker, queue)) :
    Serving up { w with tracker, queue } := by
  obtain ⟨skipped, m, hq, hskip, -, -, rfl⟩ := nextToSend_eq_some hnext
  refine { s with covered := fun k x hx => ?_ }
  rw [DeliveryTracker.message?_insert] at hx
  by_cases hk : id = k
  · -- The message that is handed over.
    rw [if_pos hk, Option.some.injEq] at hx
    exact .inl (hx ▸ m.isSent_handOver now)
  · rw [if_neg hk] at hx
    refine (s.covered k x hx).imp_right fun hmem => ?_
    rw [hq, List.mem_append, List.mem_cons] at hmem
    obtain hmem | rfl | hmem := hmem
    · -- What was skipped is not under way.
      rw [hskip k hmem] at hx
      cases hx
    · exact absurd rfl hk
    · exact hmem

/-- When nothing queued is under way, every message was handed over. -/
theorem Serving.of_nextToSend_none {up : Bool} (s : w.Serving up) {now : Nat}
    (hnext : nextToSend w.tracker now w.queue = none) : Serving up { w with queue := [] } := by
  refine { s with covered := fun k x hx => .inl ?_ }
  obtain hsent | hmem := s.covered k x hx
  · exact hsent
  · rw [nextToSend_eq_none.1 hnext k hmem] at hx
    cases hx

/-- A fresh token is presented over a new link. -/
theorem lands_renew (hs : w.Serving (History.linkUp h)) (clear : w.queue = []) (now : Nat)
    (next : List Task) :
    Lands h w
      ((({ w with renewAt := none }.release).andThen (·.enter .reconnecting .tokenRenewal)).andThen
        (·.connect now .tokenRenewal next)) := by
  have hrenewed : Follows h { w with renewAt := none }
      (({ w with renewAt := none }.release).andThen (·.enter .reconnecting .tokenRenewal)) := by
    have hne : w.state ≠ .reconnecting := by simp [hs.state]
    rw [release, Turn.andThen, enter, if_neg hne]
    exact ReflTransGen.trans (.single (.renewed clear)) (.single (.aside rfl rfl rfl))
  refine .of_aside (v := { w with renewAt := none }) rfl rfl rfl (.andThen hrenewed ?_)
  rw [Turn.andThen_worker, enter_worker]
  refine lands_connect ?_ now _ next
  rw [Turn.linkUp_after, Turn.releases_andThen]
  exact
    { down := by simp [release, Turn.releases, Effect.isRelease]
      state := .inr rfl
      reconnectAt := hs.reconnectAt
      renewAt := rfl
      queue := clear
      going := hs.going }

/-- **What is left to do lands while the link is up**, provided that the queue is empty or handed
over before anything else. -/
theorem lands_run_serving (now : Nat) (tasks : List Task) (hs : w.Serving (History.linkUp h))
    (idle : w.busy = none) (hq : Task.flushesFirst tasks ∨ w.queue = []) :
    Lands h w (run now tasks w) := by
  induction tasks generalizing h w with
  | nil => exact .rest (.serving hs (hq.resolve_left Bool.false_ne_true) idle)
  | cons task tasks ih =>
    cases task with
    | flush =>
      rw [run, if_pos hs.state]
      cases hnext : nextToSend w.tracker now w.queue with
      | none =>
        -- The flush is over, and the queue stays empty.
        have hl := ih (hs.of_nextToSend_none hnext) idle (.inr rfl)
        exact { hl with follows :=
          ReflTransGen.head (.cleared (.inr (nextToSend_eq_none.1 hnext))) hl.follows }
      | some r =>
        -- The link takes a message, and the flush goes on when it is done.
        obtain ⟨id, message, tracker, queue⟩ := r
        refine ⟨?_, ?_⟩
        · exact ReflTransGen.trans (.single (.sent hs.up hnext)) (.single (.aside rfl rfl rfl))
        · refine .sending { hs.of_nextToSend hnext with up := ?_ } rfl rfl rfl
          simp [start, Occurrence.linkUp, hs.up]
    | settle request =>
      rw [run]
      refine .andThen (follows_settle (fun _ => hs.up) request) (ih ?_ idle hq)
      rw [linkUp_settle]
      exact hs
    | reconnect due =>
      rw [run, if_neg (by simp [hs.state])]
      exact ih hs idle (.inr (hq.resolve_left Bool.false_ne_true))
    | renew due =>
      -- No flush is left, so that nothing is queued.
      have clear : w.queue = [] := hq.resolve_left Bool.false_ne_true
      rw [run]
      split
      · exact lands_renew hs clear now tasks
      · exact ih hs idle (.inr clear)

/-! ## The link gone -/

/-- A worker whose link was closed because of a fault plans another attempt or gives up; either way
it is offline. -/
theorem offline_planReconnect {t : Turn} (hfollows : Follows h w t)
    (hdown : History.linkUp (h ++ t.effects.map .did) = false) (ht : t.worker.tracker.Coherent)
    (hstate : t.worker.state = .reconnecting ∨ fault.isTransient = false)
    (hrenew : t.worker.renewAt = none) (hqueue : t.worker.queue = [])
    (idle : t.worker.busy = none) (going : t.worker.stopped = false)
    (hf : History.OfLink h fault) (now : Nat) :
    Follows h w (t.andThen (·.planReconnect now fault)) ∧
      (t.worker.planReconnect now fault).worker.Offline
        (History.linkUp (h ++ (t.andThen (·.planReconnect now fault)).effects.map .did)) := by
  refine ⟨hfollows.andThen (follows_planReconnect ht now (hf.append _)), ?_⟩
  rw [Turn.andThen_effects, List.map_append, ← List.append_assoc, Turn.linkUp_after, hdown,
    Bool.false_and]
  -- A fault that is given another attempt is transient, so that the worker is reconnecting.
  obtain heq | ⟨hcurable, due, heq⟩ := planReconnect_eq t.worker now fault
  · rw [heq, giveUp_worker]
    exact .inl ⟨rfl, rfl, rfl, rfl, rfl, rfl, rfl, idle⟩
  · rw [heq]
    exact .inr ⟨rfl, hstate.resolve_right (by simp [hcurable]), rfl, hrenew, hqueue, idle, going⟩

/-- After a failed connect the link is closed, and the worker is connecting again unless trying
again does not help. -/
theorem connectFailed_eq (hs : w.state = .opening ∨ w.state = .reconnecting) (now : Nat)
    (fault : Fault) : ∃ state, w.connectFailed now fault =
      (w.release.andThen (·.enter state .communicationError)).andThen
          (·.planReconnect now fault) ∧
        (state = .reconnecting ∨ fault.isTransient = false) := by
  by_cases hc : w.state = .opening ∧ fault.isTransient
  · refine ⟨.reconnecting, ?_, .inl rfl⟩
    simp only [connectFailed, release, Turn.andThen, hc, and_self, ↓reduceIte]
  · refine ⟨w.state, ?_, ?_⟩
    · simp only [connectFailed, release, Turn.andThen, hc, enter, ↓reduceIte]
    · -- A first connect stays in its state only after a fault that is not transient.
      obtain hopening | hre := hs
      · exact .inr (by simpa [hopening] using hc)
      · exact .inl hre

/-- **Connecting failed**: the worker is offline. -/
theorem offline_connectFailed (hs : w.Dialing (History.linkUp h)) (idle : w.busy = none)
    (ht : w.tracker.Coherent) (now : Nat) (hf : History.OfLink h fault) :
    Follows h w (w.connectFailed now fault) ∧ (w.connectFailed now fault).worker.Offline
      (History.linkUp (h ++ (w.connectFailed now fault).effects.map .did)) := by
  obtain ⟨state, heq, hstate⟩ := connectFailed_eq hs.state now fault
  have hworker :
      (w.release.andThen (·.enter state .communicationError)).worker = { w with state } := by
    rw [Turn.andThen_worker, enter_worker]
    rfl
  rw [heq]
  refine offline_planReconnect (follows_release.andThen (follows_enter ?_)) ?_ ?_ ?_ ?_ ?_ ?_ ?_
    hf now
  · cases state <;> rfl
  · rw [Turn.linkUp_after, hs.down, Bool.false_and]
  all_goals rw [hworker]
  · exact ht
  · exact hstate
  · exact hs.renewAt
  · exact hs.queue
  · exact idle
  · exact hs.going

/-- **The link was lost**: the worker is offline. -/
theorem offline_linkLost (hs : w.Serving (History.linkUp h)) (idle : w.busy = none)
    (ht : w.tracker.Coherent) (now : Nat) (hf : History.OfLink h fault) :
    Follows h w (w.linkLost now fault) ∧ (w.linkLost now fault).worker.Offline
      (History.linkUp (h ++ (w.linkLost now fault).effects.map .did)) := by
  have hdown : History.linkUp (h ++ w.release.effects.map .did) = false := by
    simp [release, Occurrence.linkUp]
  rw [linkLost, if_pos hs.state]
  refine offline_planReconnect (follows_release.andThen ?_) ?_ ?_ ?_ ?_ ?_ ?_ ?_ hf now
  · -- The queue is emptied once the link is down.
    refine .of_cleared hdown
      (.of_aside (v := { w with renewAt := none, queue := [] }) rfl rfl rfl ?_)
    exact follows_enter rfl
  · rw [Turn.andThen_effects, List.map_append, ← List.append_assoc, Turn.linkUp_after, hdown,
      Bool.false_and]
  all_goals rw [Turn.andThen_worker, enter_worker]
  · exact ht
  · exact .inl rfl
  · exact idle
  · exact hs.going

/-- **Closing the connection**: the worker is dormant. -/
theorem dormant_close (hd : w.state = .closed → History.linkUp h = false) (idle : w.busy = none)
    (ht : w.tracker.Coherent) (hc : ∀ id p, Cause h id p (.error .cancelled)) :
    Follows h w w.close ∧
      w.close.worker.Dormant (History.linkUp (h ++ w.close.effects.map .did)) := by
  refine ⟨follows_close ht hd hc, ?_⟩
  rw [close_worker, Turn.linkUp_after, releases_close]
  refine ⟨?_, rfl, rfl, rfl, rfl, rfl, rfl, idle⟩
  -- A closed connection had its link down before; any other has it closed now.
  by_cases hclosed : w.state = .closed
  · rw [hd hclosed, Bool.false_and]
  · simp [hclosed]

/-! ## The link up -/

/-- When the link is up, the waiters are answered and everything under way is queued. -/
theorem connectionUp_eq (w : Worker) (now : Nat) (reason : StatusReason) :
    w.connectionUp now reason =
      (({ w with
          attempt := 0, reconnectAt := none, renewAt := w.terms.renewal.map (deadlineAfter now)
          queue := w.tracker.outstanding }.enter .open reason).andThen
        (·.answerWaiters (.ok ()))) := by
  by_cases hopen : w.state = .open <;>
    simp only [connectionUp, enter, answerWaiters, Turn.andThen, hopen, ↓reduceIte, List.append_nil]

/-- **Connecting succeeded**: everything under way is handed over before anything else. -/
theorem lands_connectionUp (hs : History.linkUp h = true) (idle : w.busy = none)
    (going : w.stopped = false) (now : Nat) (reason : StatusReason) (tasks : List Task) :
    Lands h { w with queue := w.tracker.outstanding }
      ((w.connectionUp now reason).andThen (run now (.flush :: tasks))) := by
  rw [connectionUp_eq]
  refine .of_aside (v := { w with
      attempt := 0, reconnectAt := none, renewAt := w.terms.renewal.map (deadlineAfter now)
      queue := w.tracker.outstanding }) rfl rfl rfl ?_
  refine .andThen ((follows_enter rfl).andThen (follows_answerWaiters _))
    (lands_run_serving now _ ?_ ?_ (.inl rfl))
  · rw [Turn.linkUp_after, Turn.releases_andThen, releases_enter, releases_answerWaiters, hs,
      Turn.andThen_worker, enter_worker]
    exact
      { up := rfl
        state := rfl
        reconnectAt := rfl
        waiters := rfl
        covered := fun id m hm => .inr (DeliveryTracker.mem_outstanding.2 (by
          rw [show w.tracker.message? id = some m from hm]
          rfl))
        going := going }
  · rw [Turn.andThen_worker, enter_worker]
    exact idle

end Worker

end HubLink
