import HubLink.Proofs.Connection.Runs

/-! # Workers at rest

Whenever the link of a worker is not busy, its state, its plans, its queue, its waiters and its
tracker agree, whatever happened before (`Worker.atRest_of_run`). Nothing is forgotten: a worker
that waits has planned another attempt, and one that serves has handed over everything under way. -/

namespace HubLink

namespace Worker

/-- **What holds of a worker whose link is not busy.** -/
structure AtRest (w : Worker) : Prop where
  /-- The first attempt to connect is never put off. -/
  notOpening : w.state ≠ .opening
  /-- While the connection is closed nothing is under way, nobody waits and nothing is planned. -/
  closed : w.state = .closed →
    w.tracker.isEmpty ∧ w.tracker.registry.isEmpty ∧ w.waiters = [] ∧ w.queue = [] ∧
      w.reconnectAt = none ∧ w.renewAt = none
  /-- While the link is gone another attempt is planned, and nothing else. -/
  reconnecting : w.state = .reconnecting →
    w.reconnectAt.isSome ∧ w.renewAt = none ∧ w.queue = []
  /-- While the link is up every message under way was handed over. -/
  serving : w.state = .open →
    w.reconnectAt = none ∧ w.waiters = [] ∧ w.queue = [] ∧
      ∀ id m, w.tracker.message? id = some m → m.message.state = .sent ∧ m.sentAt.isSome

theorem Dormant.atRest {up : Bool} {w : Worker} (s : w.Dormant up) : w.AtRest where
  notOpening := by simp [s.state]
  closed _ := by
    rw [s.tracker]
    exact ⟨rfl, rfl, s.waiters, s.queue, s.reconnectAt, s.renewAt⟩
  reconnecting h := by simp [s.state] at h
  serving h := by simp [s.state] at h

theorem Awaiting.atRest {up : Bool} {w : Worker} (s : w.Awaiting up) : w.AtRest where
  notOpening := by simp [s.state]
  closed h := by simp [s.state] at h
  reconnecting _ := ⟨s.planned, s.renewAt, s.queue⟩
  serving h := by simp [s.state] at h

theorem Serving.atRest {up : Bool} {w : Worker} (s : w.Serving up) (clear : w.queue = []) :
    w.AtRest where
  notOpening := by simp [s.state]
  closed h := by simp [s.state] at h
  reconnecting h := by simp [s.state] at h
  serving _ := by
    refine ⟨s.reconnectAt, s.waiters, clear, fun id m hm => ?_⟩
    -- With an empty queue a message can be covered only by having been handed over.
    refine (s.covered id m hm).resolve_right ?_
    rw [clear]
    exact List.not_mem_nil

/-- **After any inputs, a worker whose link is not busy is at rest.** -/
theorem atRest_of_run (terms : Terms) (inputs : List (Nat × Input))
    (idle : ((Worker.new terms).after inputs).busy = none) :
    ((Worker.new terms).after inputs).AtRest := by
  obtain (s | s) | ⟨s, clear⟩ := (situated_of_run terms inputs).of_idle idle
  · exact s.atRest
  · exact s.atRest
  · exact s.atRest clear

/-- After the renewal the device is at rest on an open link with a reading under way. -/
theorem atRest_after_renewal :
    ((Worker.new Renewal.terms).after (Renewal.before ++ Renewal.onLink)).state = .open ∧
      ((Worker.new Renewal.terms).after (Renewal.before ++ Renewal.onLink)).tracker.outstanding =
        [2] ∧
      ((Worker.new Renewal.terms).after (Renewal.before ++ Renewal.onLink)).busy = none ∧
      ((Worker.new Renewal.terms).after (Renewal.before ++ Renewal.onLink)).AtRest :=
  ⟨rfl, rfl, rfl, atRest_of_run Renewal.terms (Renewal.before ++ Renewal.onLink) rfl⟩

end Worker

end HubLink
