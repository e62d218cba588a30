import HubLink.Proofs.Connection.Attempts

/-! # Closed connections

A worker whose connection is closed starts afresh: however it came to be closed, it answers whatever
happens from then on as a worker does that has done nothing yet (`Worker.reactions_of_closed`). Of
all that happened before only the number of failed attempts is left, and the next opening forgets
it. The two workers are compared step by step, along a relation that every step keeps
(`Worker.Alike.step`). -/

namespace HubLink

/-- **What the surroundings of a worker see of a step.** -/
structure Reaction where
  /-- What is to be done, in order. -/
  effects : List Effect
  /-- When the worker wants to be woken. -/
  wake : Option Nat
  /-- When what the link does has taken too long. -/
  limit : Option Nat
  /-- Whether the worker listens to its link. -/
  listens : Bool
  /-- Whether the link is connecting. -/
  connecting : Bool
  /-- Whether the link is taking a message. -/
  sending : Bool
  /-- Where the connection stands. -/
  state : ConnectionState
  /-- Whether the work is over. -/
  stopped : Bool

namespace Worker

/-- What is seen of a worker after it wanted something done. -/
def reaction (w : Worker) (effects : List Effect) : Reaction where
  effects
  wake := w.nextWake
  limit := w.busy.map (·.limit)
  listens := w.isListening
  connecting := w.isConnecting
  sending := w.isSending
  state := w.state
  stopped := w.stopped

/-- What is seen of a worker while it is given inputs, step by step. -/
def reactions (w : Worker) : List (Nat × Input) → List Reaction
  | [] => []
  | (now, input) :: rest =>
    (w.step now input).worker.reaction (w.step now input).effects ::
      (w.step now input).worker.reactions rest

/-- A worker whose connection is closed and of whose past only the number of failed attempts is
left. -/
def resting (terms : Terms) (attempt : Nat) (stopped : Bool) : Worker := { terms, attempt, stopped }

/-- Nothing else is left of the past of a dormant worker. -/
theorem Dormant.eq_resting {up : Bool} {w : Worker} (s : w.Dormant up) :
    w = resting w.terms w.attempt w.stopped := by
  obtain ⟨terms, state, attempt, tracker, waiters, queue, reconnectAt, renewAt, busy, stopped⟩ := w
  obtain ⟨-, rfl, rfl, rfl, rfl, rfl, rfl, rfl⟩ := s
  rfl

/-- **Two workers that are the same**, except that closed ones may count different attempts. -/
inductive Alike : Worker → Worker → Prop where
  /-- The same worker. -/
  | same (w : Worker) : Alike w w
  /-- Two workers with closed connections. -/
  | resting (terms : Terms) (a b : Nat) (stopped : Bool) :
      Alike (resting terms a stopped) (resting terms b stopped)

/-- Nothing that is seen of a worker shows how many attempts have failed. -/
theorem Alike.reaction {v w : Worker} (ha : Alike v w) (effects : List Effect) :
    v.reaction effects = w.reaction effects := by
  cases ha with
  | same => rfl
  | resting => rfl

end Worker

/-- Two turns that ask for the same and end with workers that are alike. -/
structure Turn.Alike (t u : Turn) : Prop where
  /-- What is to be done is the same. -/
  effects : t.effects = u.effects
  /-- The workers are alike. -/
  worker : t.worker.Alike u.worker

namespace Worker

/-- Opening a closed connection forgets the failed attempts. -/
theorem alike_open (terms : Terms) (a b now reply : Nat) :
    Turn.Alike ((resting terms a false).commandAtRest now (.open reply))
      ((resting terms b false).commandAtRest now (.open reply)) := by
  simp only [commandAtRest, resting]
  cases terms.identity.validate with
  | error fault => exact ⟨rfl, .resting terms a b false⟩
  | ok => exact ⟨rfl, .same _⟩

/-- Whatever else happens to a closed connection, it stays closed. -/
theorem alike_stepAtRest (terms : Terms) (a b now : Nat) (input : Input) :
    Turn.Alike ((resting terms a false).stepAtRest now input)
      ((resting terms b false).stepAtRest now input) := by
  cases input with
  | command c =>
    cases c with
    | «open» reply => exact alike_open terms a b now reply
    | close | submit | cancel | settle => exact ⟨rfl, .resting terms a b false⟩
  | abandoned => exact ⟨rfl, .resting terms a b true⟩
  | event | timer | connected | sent | overtime => exact ⟨rfl, .resting terms a b false⟩

/-- **Workers that are alike answer alike** and stay so. -/
theorem Alike.step {v w : Worker} (ha : Alike v w) (now : Nat) (input : Input) :
    Turn.Alike (v.step now input) (w.step now input) := by
  cases ha with
  | same => exact ⟨rfl, .same _⟩
  | resting terms a b stopped =>
    cases stopped with
    | true => exact ⟨rfl, .resting terms a b true⟩
    | false => exact alike_stepAtRest terms a b now input

/-- Workers that are alike are seen to do the same, whatever happens to them. -/
theorem Alike.reactions {v w : Worker} (ha : Alike v w) (inputs : List (Nat × Input)) :
    v.reactions inputs = w.reactions inputs := by
  induction inputs generalizing v w with
  | nil => rfl
  | cons i inputs ih =>
    obtain ⟨now, input⟩ := i
    obtain ⟨heffects, hworker⟩ := ha.step now input
    rw [Worker.reactions, Worker.reactions, heffects, hworker.reaction, ih hworker]

/-- **A closed connection starts afresh.** After any run that leaves the connection closed, a worker
that has not stopped cannot be told from one that has done nothing yet: nothing distinguishes them
now, and whatever happens to both, they do the same. -/
theorem reactions_of_closed (terms : Terms) (before : List (Nat × Input))
    (hclosed : ((Worker.new terms).after before).state = .closed)
    (going : ((Worker.new terms).after before).stopped = false) (inputs : List (Nat × Input)) :
    ((Worker.new terms).after before).reaction [] = (Worker.new terms).reaction [] ∧
      ((Worker.new terms).after before).reactions inputs = (Worker.new terms).reactions inputs := by
  have heq := ((situated_of_run terms before).dormant_of_closed hclosed).eq_resting
  -- What is left of the past, the attempts, shows nowhere.
  rw [terms_of_run, going] at heq
  have halike : Alike ((Worker.new terms).after before) (Worker.new terms) := by
    rw [heq]
    exact .resting terms _ 0 false
  exact ⟨halike.reaction [], halike.reactions inputs⟩

end Worker

namespace Renewal

/-- The device fails to connect, and its connection is closed before another attempt. -/
def retreat : List (Nat × Input) :=
  [(0, .command (.open 1)), (1, .connected (.error .slowLink)), (2, .command (.close 2))]

/-- It is opened again, and fails to connect again. -/
def comeback : List (Nat × Input) :=
  [(3, .command (.open 3)), (4, .connected (.error .slowLink))]

end Renewal

namespace Worker

/-- After the retreat an attempt is still counted, but the comeback does not show it. -/
theorem reactions_after_retreat :
    ((Worker.new Renewal.terms).after Renewal.retreat).state = .closed ∧
      ((Worker.new Renewal.terms).after Renewal.retreat).stopped = false ∧
      ((Worker.new Renewal.terms).after Renewal.retreat).attempt = 1 ∧
      ((Worker.new Renewal.terms).after Renewal.retreat).reactions Renewal.comeback =
        (Worker.new Renewal.terms).reactions Renewal.comeback := by
  have hclosed : ((Worker.new Renewal.terms).after Renewal.retreat).state = .closed := by
    decide +kernel
  have going : ((Worker.new Renewal.terms).after Renewal.retreat).stopped = false := by
    decide +kernel
  exact ⟨hclosed, going, by decide +kernel, (reactions_of_closed _ _ hclosed going _).2⟩

end Worker

end HubLink
