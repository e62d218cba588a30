import HubLink.Proofs.Connection.Runs
import Mathlib.Data.List.Induction

/-! # Attempts to connect

What stays the same about a worker from step to step: its terms never change, an open connection
counts no failed attempts, and a reconnect that is left to do was due at the time of an earlier
input (`Worker.steady_of_run`). -/

namespace HubLink

namespace Worker

/-- **What every step keeps**, given what holds of the instants of the inputs. -/
structure Steady (terms : Terms) (P : Nat → Prop) (w : Worker) : Prop where
  /-- The terms are these. -/
  terms : w.terms = terms
  /-- While the connection is open no attempt has failed. -/
  fresh : w.state = .open → w.attempt = 0
  /-- What is left to do dates from an input. -/
  due : ∀ b, w.busy = some b → ∀ due, .reconnect due ∈ b.next → P due

section Turns

variable {terms : Terms} {P : Nat → Prop} {w : Worker}

/-- A worker that is left alone, or closes its connection, stays steady. -/
theorem Steady.of_closed (hs : w.Steady terms P) {v : Worker} (hterms : v.terms = w.terms)
    (hstate : v.state = .closed) (hbusy : v.busy = w.busy) : v.Steady terms P where
  terms := hterms.trans hs.terms
  fresh hopen := by simp [hstate] at hopen
  due := by
    rw [hbusy]
    exact hs.due

theorem steady_track (hs : w.Steady terms P) {α : Type} (change : Change DeliveryTracker α) :
    (w.track change).worker.Steady terms P := { hs with }

theorem steady_enter (hs : w.Steady terms P) {state : ConnectionState} (reason : StatusReason)
    (hstate : state ≠ .open) : (w.enter state reason).worker.Steady terms P := by
  rw [enter_worker]
  exact { hs with fresh := fun hopen => absurd hopen hstate }

/-- Another attempt is counted only while the connection is not open. -/
theorem steady_planReconnect (hs : w.Steady terms P) (hstate : w.state ≠ .open) (now : Nat)
    (fault : Fault) : (w.planReconnect now fault).worker.Steady terms P := by
  obtain heq | ⟨-, due, heq⟩ := planReconnect_eq w now fault
  · rw [heq, giveUp_worker]
    exact hs.of_closed rfl rfl rfl
  · rw [heq]
    exact { hs with fresh := fun hopen => absurd hopen hstate }

theorem steady_connectFailed (hs : w.Steady terms P) (hstate : w.state ≠ .open) (now : Nat)
    (fault : Fault) : (w.connectFailed now fault).worker.Steady terms P := by
  rw [connectFailed, Turn.andThen_worker, Turn.andThen_worker]
  split
  · refine steady_planReconnect (steady_enter hs _ (by simp)) ?_ now fault
    rw [enter_worker]
    simp
  · exact steady_planReconnect hs hstate now fault

theorem steady_linkLost (hs : w.Steady terms P) (now : Nat) (fault : Fault) :
    (w.linkLost now fault).worker.Steady terms P := by
  rw [linkLost]
  split
  · rw [Turn.andThen_worker, Turn.andThen_worker]
    refine steady_planReconnect (steady_enter ?_ _ (by simp)) ?_ now fault
    · exact { hs with }
    · rw [enter_worker]
      simp
  · exact hs

/-- A connect that succeeds forgets the failed ones. -/
theorem steady_connectionUp (hs : w.Steady terms P) (now : Nat) (reason : StatusReason) :
    (w.connectionUp now reason).worker.Steady terms P := by
  rw [connectionUp_eq, Turn.andThen_worker, enter_worker]
  exact { hs with fresh := fun _ => rfl }

theorem steady_run (hs : w.Steady terms P) (now : Nat) {tasks : List Task}
    (htasks : ∀ due, .reconnect due ∈ tasks → P due) : (run now tasks w).worker.Steady terms P := by
  induction tasks generalizing w with
  | nil => exact hs
  | cons task tasks ih =>
    have hrest : ∀ due, .reconnect due ∈ tasks → P due :=
      fun due hmem => htasks due (List.mem_cons_of_mem _ hmem)
    cases task with
    | flush =>
      rw [run]
      split
      · split
        · -- What is left to do is put off until the message is handed over.
          refine { hs with due := ?_ }
          rintro b ⟨⟩ due hmem
          exact htasks due hmem
        · exact ih { hs with } hrest
      · exact ih hs hrest
    | settle request => exact ih hs hrest
    | reconnect due =>
      rw [run]
      split
      · refine { hs with due := ?_ }
        rintro b ⟨⟩
        exact hrest
      · exact ih hs hrest
    | renew due =>
      rw [run]
      split
      · rw [Turn.andThen_worker, Turn.andThen_worker, enter_worker]
        refine ⟨hs.terms, fun hopen => ?_, ?_⟩
        · cases hopen
        · rintro b ⟨⟩
          exact hrest
      · exact ih hs hrest

/-- What a busy worker has left to do afterwards. -/
theorem Steady.due_afterwards (hs : w.Steady terms P) {b : Busy} (busy : w.busy = some b) :
    ∀ due, .reconnect due ∈ afterwards b → P due := by
  intro due hmem
  rw [afterwards, List.mem_append] at hmem
  refine hs.due b busy due (hmem.resolve_left fun hsettle => ?_)
  simp at hsettle

/-- A worker whose link is done with its work. -/
theorem Steady.idle (hs : w.Steady terms P) : Steady terms P { w with busy := none } where
  terms := hs.terms
  fresh := hs.fresh
  due := by rintro b ⟨⟩

theorem steady_resendAll (hs : w.Steady terms P) (now : Nat) (ids : List Nat) :
    (resendAll now ids w).worker.Steady terms P := by
  induction ids generalizing w with
  | nil => exact hs
  | cons id ids ih =>
    rw [resendAll, Turn.andThen_worker, resend, Turn.andThen_worker]
    refine ih ?_
    dsimp only [enqueue]
    split
    · split
      · exact { hs with }
      · exact { hs with }
    · exact { hs with }

/-! ## Steps -/

theorem steady_interrupted (hs : w.Steady terms P) {b : Busy}
    (hb : ∀ due, .reconnect due ∈ afterwards b → P due) (now : Nat) (reply : Option Nat) :
    (w.interrupted now b reply).worker.Steady terms P := by
  rw [interrupted, Turn.andThen_worker, Turn.andThen_worker, close_worker]
  refine steady_run ?_ now hb
  cases reply with
  | none => exact hs.of_closed rfl rfl rfl
  | some reply => exact hs.of_closed rfl rfl rfl

theorem steady_connectEnded (hs : w.Steady terms P) (hstate : w.state ≠ .open) {b : Busy}
    (hb : ∀ due, .reconnect due ∈ afterwards b → P due) (now : Nat) (reason : StatusReason)
    (result : Except Fault Unit) : (w.connectEnded now b reason result).worker.Steady terms P := by
  cases result with
  | ok =>
    refine steady_run (steady_connectionUp hs now reason) now fun due hmem => ?_
    exact hb due (by simpa using hmem)
  | error fault => exact steady_run (steady_connectFailed hs hstate now fault) now hb

theorem steady_sendEnded (hs : w.Steady terms P) {b : Busy}
    (hb : ∀ due, .reconnect due ∈ afterwards b → P due) (now id : Nat)
    (result : Except Fault SendOutcome) : (w.sendEnded now b id result).worker.Steady terms P := by
  unfold sendEnded
  rw [Turn.andThen_worker]
  refine steady_run ?_ now hb
  split
  · exact steady_track hs _
  · exact hs
  · rw [Turn.andThen_worker]
    split
    · exact steady_linkLost (steady_track hs _) now _
    · exact steady_track hs _

theorem steady_stepBusy (hs : w.Steady terms P) {up : Bool} (hsit : w.Situated up) {b : Busy}
    (busy : w.busy = some b) (now : Nat) (input : Input) :
    (w.stepBusy now b input).worker.Steady terms P := by
  have hb := hs.due_afterwards busy
  -- A worker whose link is connecting is not open.
  have hstate {reason : StatusReason} (job : b.job = .connecting reason) : w.state ≠ .open := by
    obtain ⟨_, s, -⟩ | ⟨_, _, -, hjob, -⟩ := hsit.of_busy busy
    · obtain hopening | hre := s.state
      · simp [hopening]
      · simp [hre]
    · simp [job] at hjob
  cases input with
  | command c =>
    cases c with
    | «open» reply =>
      rw [stepBusy, commandWhileBusy]
      split
      · exact hs
      · exact { hs with }
    | close reply => exact steady_interrupted hs.idle hb now (some reply)
    | submit message completion deadline =>
      rw [stepBusy, commandWhileBusy, Turn.andThen_worker]
      split
      · exact { hs with }
      · exact { hs with }
    | cancel id => exact steady_track hs _
    | settle request =>
      refine ⟨hs.terms, hs.fresh, ?_⟩
      rintro _ ⟨⟩
      exact hs.due b busy
  | abandoned => exact steady_interrupted hs.idle hb now none
  | event e => exact hs
  | timer => exact steady_track hs _
  | connected result =>
    rw [stepBusy]
    split
    · rename_i job
      exact steady_connectEnded hs.idle (hstate job) hb now _ result
    · exact hs
  | sent result =>
    rw [stepBusy]
    split
    · exact steady_sendEnded hs.idle hb now _ result
    · exact hs
  | overtime =>
    rw [stepBusy]
    split
    · rename_i job
      exact steady_connectEnded hs.idle (hstate job) hb now _ _
    · exact steady_sendEnded hs.idle hb now _ _

theorem steady_stepAtRest (hs : w.Steady terms P) {now : Nat} (hnow : P now) (input : Input) :
    (w.stepAtRest now input).worker.Steady terms P := by
  cases input with
  | command c =>
    cases c with
    | «open» reply =>
      rw [stepAtRest, commandAtRest]
      split
      · exact hs
      · exact { hs with }
      · exact { hs with }
      · split
        · exact hs
        · rw [Turn.andThen_worker, enter_worker]
          refine ⟨hs.terms, fun _ => rfl, ?_⟩
          rintro b ⟨⟩
          simp
    | close reply =>
      rw [stepAtRest, commandAtRest, Turn.andThen_worker, close_worker]
      exact hs.of_closed rfl rfl rfl
    | submit message completion deadline =>
      rw [stepAtRest, commandAtRest]
      split
      · exact hs
      · rw [Turn.andThen_worker]
        split
        · split
          · refine steady_run ?_ now (by simp)
            rw [enqueue]
            split
            · exact { hs with }
            · exact { hs with }
          · exact { hs with }
        · exact { hs with }
    | cancel id => exact steady_track hs _
    | settle request => exact hs
  | abandoned =>
    rw [stepAtRest, Turn.andThen_worker, close_worker]
    exact hs.of_closed rfl rfl rfl
  | timer =>
    rw [stepAtRest, wake, Turn.andThen_worker, Turn.andThen_worker]
    refine steady_run ?_ now ?_
    · split
      · exact steady_resendAll (steady_track hs _) now _
      · exact steady_track hs _
    · -- What a wake leaves to do was due when it began.
      intro due hmem
      obtain rfl : due = now := by simpa using hmem
      exact hnow
  | event e =>
    rw [stepAtRest]
    split
    · unfold eventAtRest
      split
      · exact steady_track hs _
      · exact steady_track hs _
      · exact hs
      · exact steady_linkLost hs now _
      · exact steady_linkLost hs now _
    · exact hs
  | connected | sent | overtime => exact hs

/-- **Every step of a worker in a situation keeps it steady.** -/
theorem steady_step (hs : w.Steady terms P) {up : Bool} (hsit : w.Situated up) {now : Nat}
    (hnow : P now) (input : Input) : (w.step now input).worker.Steady terms P := by
  rw [step]
  split
  · exact hs
  · split
    · rename_i busy
      exact steady_stepBusy hs hsit busy now input
    · exact steady_stepAtRest hs hnow input

end Turns

/-! ## Runs -/

/-- **Along every run from the beginning the worker is steady.** -/
theorem steady_of_run (terms : Terms) {P : Nat → Prop} {inputs : List (Nat × Input)}
    (hinputs : ∀ i ∈ inputs, P i.1) : ((Worker.new terms).after inputs).Steady terms P := by
  -- The induction is on the last input, as the situation is known of every run.
  induction inputs using List.reverseRecOn with
  | nil => exact ⟨rfl, fun _ => rfl, by rintro b ⟨⟩⟩
  | append_singleton inputs i ih =>
    rw [after_concat]
    refine steady_step (ih fun j hj => hinputs j (by simp [hj])) (situated_of_run terms inputs) ?_ _
    exact hinputs i (by simp)

/-- The terms never change. -/
theorem terms_of_run (terms : Terms) (inputs : List (Nat × Input)) :
    ((Worker.new terms).after inputs).terms = terms :=
  (steady_of_run terms (P := fun _ => True) fun _ _ => trivial).terms

end Worker

end HubLink
