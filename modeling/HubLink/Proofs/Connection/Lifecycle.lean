import HubLink.Proofs.Connection.Narration
import HubLink.Proofs.Options.Checked
import Mathlib.Data.List.Chain

/-! # The life of a connection

The states that a worker tells the application follow a path of few edges, each with few reasons
(`Worker.lifecycle_of_run`). That is read off what is warranted: every change of the state that is
told is an edge from the state told before (`Warranted.edge`), so the changes told one after the
other are a path (`History.isChain_transitions`). -/

namespace HubLink

/-! ## Edges -/

/-- The reasons for which a connection passes from one state to another. -/
def reasons : ConnectionState → ConnectionState → List StatusReason
  | .closed, .opening => [.clientOpen]
  | .opening, .open => [.connected]
  | .opening, .reconnecting => [.communicationError]
  | .opening, .closed => [.clientClose, .badCredential, .communicationError]
  | .open, .reconnecting => [.connectionLost, .tokenRenewal]
  | .open, .closed => [.clientClose]
  | .reconnecting, .open => [.connected, .tokenRenewal]
  | .reconnecting, .closed => [.clientClose, .badCredential, .retryExpired, .communicationError]
  | _, _ => []

/-- **One status may follow another**: its reason is among those for the change of the state. A
token is told to be renewed only directly after it was told that it is being renewed. -/
structure Edge (p q : Status) : Prop where
  reason : q.2 ∈ reasons p.1 q.1
  renewed : q = (.open, .tokenRenewal) → p = (.reconnecting, .tokenRenewal)

/-- It was tried often enough exactly if trying again may cure the fault that ended the
connection. -/
theorem Worker.finalReason_eq_retryExpired_iff (fault : Fault) :
    Worker.finalReason fault = .retryExpired ↔ fault.isTransient := by
  constructor
  · intro h
    by_contra hno
    unfold finalReason at h
    rw [if_neg hno] at h
    split at h <;> cases h
  · exact finalReason_of_isTransient

/-- The reasons for which a fault ends a connection that was up before. -/
theorem Worker.finalReason_mem (fault : Fault) :
    finalReason fault ∈ reasons .reconnecting .closed := by
  unfold finalReason
  split
  · simp [reasons]
  · split <;> simp [reasons]

/-- A fault that trying again does not cure may end the first connect. -/
theorem Worker.finalReason_mem_of_opening {fault : Fault} (h : fault.isTransient = false) :
    finalReason fault ∈ reasons .opening .closed := by
  have hne : finalReason fault ≠ .retryExpired := by
    rw [Ne, finalReason_eq_retryExpired_iff, h]
    exact Bool.false_ne_true
  have hmem := finalReason_mem fault
  simp only [reasons, List.mem_cons, List.not_mem_nil, or_false] at hmem ⊢
  rcases hmem with h | h | h | h
  · exact .inl h
  · exact .inr (.inl h)
  · exact absurd h hne
  · exact .inr (.inr h)

namespace Warranted

variable {terms : Terms} {xs : List (Nat × Input)} {q : Status} {state : ConnectionState}
  {reason : StatusReason}

/-- **A status that is warranted may follow the one told last.** -/
theorem edge (h : Warranted terms xs q (.tell (.status state reason))) :
    Edge q (state, reason) := by
  cases h with
  | silent hsilent => cases hsilent
  | opening last hstate =>
    refine ⟨?_, by rintro ⟨⟩⟩
    simp [reasons, hstate]
  | connected last hstate which =>
    obtain rfl | ⟨rfl, rfl⟩ := which
    · refine ⟨?_, by rintro ⟨⟩⟩
      rcases hstate with hstate | hstate <;> simp [reasons, hstate]
    · exact ⟨by simp [reasons], fun _ => rfl⟩
  | stumbled last setback hstate =>
    refine ⟨?_, by rintro ⟨⟩⟩
    simp [reasons, hstate]
  | lost last setback hstate =>
    refine ⟨?_, by rintro ⟨⟩⟩
    simp [reasons, hstate]
  | renewing hstate renewable since waking elapsed =>
    refine ⟨?_, by rintro ⟨⟩⟩
    simp [reasons, hstate]
  | closed last closes hstate =>
    -- Whatever the state is, the caller may close the connection.
    refine ⟨?_, by rintro ⟨⟩⟩
    obtain ⟨current, told⟩ := q
    cases current with
    | closed => exact absurd rfl hstate
    | opening | «open» | reconnecting => simp [reasons]
  | failed last setback hstate =>
    refine ⟨?_, by rintro ⟨⟩⟩
    rcases hstate with hstate | ⟨hstate, hfinal⟩
    · rw [hstate]
      exact Worker.finalReason_mem _
    · rw [hstate]
      exact Worker.finalReason_mem_of_opening hfinal

/-- **Why a connection is told to be closed**: for the caller, or because of a fault of the link. -/
theorem cause_of_closed (h : Warranted terms xs q (.tell (.status .closed reason))) :
    ∃ i, xs.getLast? = some i ∧
      (i.2.closes ∧ reason = .clientClose ∨
        ∃ fault, i.2.setback? = some fault ∧ reason = Worker.finalReason fault) := by
  cases h with
  | silent hsilent => cases hsilent
  | closed last closes => exact ⟨_, last, .inl ⟨closes, rfl⟩⟩
  | failed last setback => exact ⟨_, last, .inr ⟨_, setback, rfl⟩⟩

/-- **When a token is told to be renewed**: not before its time has come since the last connect. -/
theorem due_of_renewing (h : Warranted terms xs q (.tell (.status .reconnecting .tokenRenewal))) :
    ∃ connect renewal due input, Inputs.lastConnect xs = some connect ∧
      terms.renewal = some renewal ∧ (due, input) ∈ xs ∧ deadlineAfter connect renewal ≤ due := by
  cases h with
  | silent hsilent => cases hsilent
  | renewing hstate renewable since waking elapsed =>
    exact ⟨_, _, _, _, since, renewable, waking, elapsed⟩

end Warranted

/-! ## Paths -/

/-- The status that is told. -/
def Occurrence.status? : Occurrence → Option Status
  | .did (.tell (.status state reason)) => some (state, reason)
  | _ => none

namespace History

/-- The states that were told, in order, each with its reason. -/
def transitions (h : List Occurrence) : List Status := h.filterMap (·.status?)

@[simp] theorem transitions_append (h k : List Occurrence) :
    transitions (h ++ k) = transitions h ++ transitions k :=
  List.filterMap_append

/-- An occurrence tells a status, or leaves it as it was. -/
theorem transitions_concat (h : List Occurrence) (o : Occurrence) :
    transitions (h ++ [o]) = transitions h ∧ status (h ++ [o]) = status h ∨
      ∃ state reason, o = .did (.tell (.status state reason)) ∧
        transitions (h ++ [o]) = transitions h ++ [(state, reason)] ∧
          status (h ++ [o]) = (state, reason) := by
  rw [transitions_append, status_append]
  match o with
  | .took .. => exact .inl ⟨by simp [transitions, Occurrence.status?], rfl⟩
  | .did (.tell (.status state reason)) => exact .inr ⟨state, reason, rfl, rfl, rfl⟩
  | .did .connect | .did (.send _) | .did (.settle _) | .did .release | .did (.reply ..)
  | .did (.complete _) | .did (.tell (.notification _)) =>
    exact .inl ⟨by simp [transitions, Occurrence.status?], rfl⟩

/-- The status told last is the last of the states that were told. -/
theorem getLast?_transitions (h : List Occurrence) :
    ((.closed, .clientClose) :: transitions h).getLast? = some (status h) := by
  induction h using List.reverseRecOn with
  | nil => rfl
  | append_singleton h o ih =>
    obtain ⟨htransitions, hstatus⟩ | ⟨state, reason, -, htransitions, hstatus⟩ :=
      transitions_concat h o
    · rw [htransitions, hstatus]
      exact ih
    · rw [htransitions, hstatus, ← List.cons_append, List.getLast?_concat]

/-- **The states that were told are a path** if each may follow the one told before. -/
theorem isChain_transitions {h : List Occurrence} {r : Status → Status → Prop}
    (hstep : ∀ pre state reason post, h = pre ++ .did (.tell (.status state reason)) :: post →
      r (status pre) (state, reason)) :
    ((.closed, .clientClose) :: transitions h).IsChain r := by
  -- The induction is on the end of what was seen: a status that is told follows the last one.
  induction h using List.reverseRecOn with
  | nil => exact List.isChain_singleton _
  | append_singleton h o ih =>
    have hbefore := ih fun pre state reason post hp =>
      hstep pre state reason (post ++ [o]) (by simp [hp])
    obtain ⟨htransitions, -⟩ | ⟨state, reason, rfl, htransitions, -⟩ := transitions_concat h o
    · rw [htransitions]
      exact hbefore
    · rw [htransitions, ← List.cons_append, List.isChain_append]
      refine ⟨hbefore, List.isChain_singleton _, ?_⟩
      intro p hp q hq
      rw [getLast?_transitions] at hp
      obtain rfl : status h = p := Option.some.inj hp
      obtain rfl : (state, reason) = q := Option.some.inj hq
      exact hstep h state reason [] rfl

end History

/-! ## Instants -/

/-- When the instants of the inputs do not go back, none of them is after the last. -/
theorem Inputs.le_last {xs : List (Nat × Input)} (hmono : xs.Pairwise (·.1 ≤ ·.1))
    {i j : Nat × Input} (hi : i ∈ xs) (last : xs.getLast? = some j) : i.1 ≤ j.1 := by
  obtain ⟨ys, rfl⟩ := List.getLast?_eq_some_iff.1 last
  rw [List.pairwise_append] at hmono
  rcases List.mem_append.1 hi with hi | hi
  · exact hmono.2.2 i hi j (List.mem_singleton_self j)
  · obtain rfl := List.mem_singleton.1 hi
    exact Nat.le_refl _

/-! ## The life of a connection -/

/-- **The life of a connection**, given the inputs of a worker with these terms. -/
structure Lifecycle (terms : Terms) (inputs : List (Nat × Input)) : Prop where
  /-- The states that are told are a path from closed on. -/
  path : ((.closed, .clientClose) ::
    History.transitions ((Worker.new terms).history inputs)).IsChain Edge
  /-- The state told last is the state. -/
  current : (History.status ((Worker.new terms).history inputs)).1 =
    ((Worker.new terms).after inputs).state
  /-- A token is renewed only if it can be, and not before its time has come since the last connect,
  provided that time does not go back. With sound settings that is after 85 percent of the lifetime
  of the token, as doubles compute them. -/
  renewing : ∀ pre post,
    (Worker.new terms).history inputs =
      pre ++ .did (.tell (.status .reconnecting .tokenRenewal)) :: post →
    (History.taken pre).Pairwise (·.1 ≤ ·.1) →
      ∃ connect renewal now input, Inputs.lastConnect (History.taken pre) = some connect ∧
        (History.taken pre).getLast? = some (now, input) ∧ terms.renewal = some renewal ∧
        deadlineAfter connect renewal ≤ now ∧
        ∀ identity o renewable, terms = .ofOptions identity o renewable → o.validate = .ok () →
          renewable ∧ o.Ripe connect now
  /-- A connection is closed for the caller or because of a fault, and the reason is that it was
  tried often enough exactly if trying again may cure the fault. -/
  closing : ∀ pre reason post,
    (Worker.new terms).history inputs =
      pre ++ .did (.tell (.status .closed reason)) :: post →
    ∃ now input, (History.taken pre).getLast? = some (now, input) ∧
      (input.closes ∧ reason = .clientClose ∨
        ∃ fault, input.setback? = some fault ∧ reason = Worker.finalReason fault ∧
          (reason = .retryExpired ↔ fault.isTransient))

namespace Worker

/-- A token that is renewed can be renewed, and its time has come. -/
theorem renewing_of_run {terms : Terms} {inputs : List (Nat × Input)} {pre post : List Occurrence}
    (h : (Worker.new terms).history inputs =
      pre ++ .did (.tell (.status .reconnecting .tokenRenewal)) :: post)
    (hmono : (History.taken pre).Pairwise (·.1 ≤ ·.1)) :
    ∃ connect renewal now input, Inputs.lastConnect (History.taken pre) = some connect ∧
      (History.taken pre).getLast? = some (now, input) ∧ terms.renewal = some renewal ∧
      deadlineAfter connect renewal ≤ now ∧
      ∀ identity o renewable, terms = .ofOptions identity o renewable → o.validate = .ok () →
        renewable ∧ o.Ripe connect now := by
  obtain ⟨connect, renewal, due, input, since, renewable, waking, elapsed⟩ :=
    (warranted_of_run h).due_of_renewing
  obtain ⟨last, hlast⟩ : ∃ last, (History.taken pre).getLast? = some last :=
    ⟨_, List.getLast?_eq_some_getLast (List.ne_nil_of_mem waking)⟩
  have hdue : deadlineAfter connect renewal ≤ last.1 :=
    elapsed.trans (Inputs.le_last hmono waking hlast)
  refine ⟨connect, renewal, last.1, last.2, since, hlast, renewable, hdue, ?_⟩
  rintro identity o can rfl hvalid
  cases can with
  | false => cases renewable
  | true =>
    obtain rfl : o.renewalTime = renewal := Option.some.inj renewable
    -- The time that the settings give is less than a year, so no deadline cuts it short.
    have hchecked := ClientOptions.checked_of_validate hvalid
    rw [hchecked.deadlineAfter_renewalTime] at hdue
    exact ⟨rfl, hchecked.ripe hdue⟩

/-- **The life of a connection.** Along every run the states that are told are a path of edges, a
token is renewed only when it is time, and the reason of every end is the kind of its fault. -/
theorem lifecycle_of_run (terms : Terms) (inputs : List (Nat × Input)) :
    Lifecycle terms inputs where
  path := History.isChain_transitions fun _ _ _ _ h => (warranted_of_run h).edge
  current := (accords_of_run terms inputs).1.state
  renewing _ _ h hmono := renewing_of_run h hmono
  closing pre reason post h := by
    obtain ⟨⟨now, input⟩, last, hcause⟩ := (warranted_of_run h).cause_of_closed
    refine ⟨now, input, last, ?_⟩
    obtain hcaller | ⟨fault, setback, rfl⟩ := hcause
    · exact .inl hcaller
    · exact .inr ⟨fault, setback, rfl, finalReason_eq_retryExpired_iff fault⟩

end Worker

/-- The device connects, and connects again to renew its token. -/
example : History.transitions
    ((Worker.new Renewal.terms).history (Renewal.before ++ Renewal.onLink)) =
      [(.opening, .clientOpen), (.open, .connected), (.reconnecting, .tokenRenewal),
        (.open, .tokenRenewal)] := by
  decide +kernel

/-! ## A token that lives for eight weeks -/

namespace LongLived

/-- The settings of a device. -/
def options : ClientOptions := { tokenLifetime := 4934479 }

/-- Whom it connects. -/
def identity : Identity := ⟨"hub", "pump"⟩

/-- It connects at once, and is woken when its token is to be renewed. -/
def inputs : List (Nat × Input) :=
  [(0, .command (.open 1)), (0, .connected (.ok ())), (4194307149999999, .timer)]

/-- What is seen of it. -/
def history : List Occurrence := (Worker.new (.ofOptions identity options true)).history inputs

end LongLived

namespace Worker

/-- **A token may be renewed before 85 percent of its lifetime**, though the settings are sound:
that of the device is renewed a nanosecond earlier. -/
theorem not_exactly_of_longLived :
    ¬∀ identity o inputs pre post, o.validate = .ok () →
      (Worker.new (.ofOptions identity o true)).history inputs =
        pre ++ .did (.tell (.status .reconnecting .tokenRenewal)) :: post →
      (History.taken pre).Pairwise (·.1 ≤ ·.1) →
        ∃ connect now input, Inputs.lastConnect (History.taken pre) = some connect ∧
          (History.taken pre).getLast? = some (now, input) ∧
          100 * connect + 85 * Duration.ofSeconds o.tokenLifetime ≤ 100 * now := by
  intro hall
  -- The renewal is told as the ninth occurrence, when the device was woken.
  obtain ⟨connect, now, input, hconnect, hlast, hle⟩ := hall LongLived.identity LongLived.options
    LongLived.inputs (LongLived.history.take 8) (LongLived.history.drop 9) (by rfl) (by rfl)
    (by decide +kernel)
  have hfirst : Inputs.lastConnect (History.taken (LongLived.history.take 8)) = some 0 := by
    decide +kernel
  have hwoken : (History.taken (LongLived.history.take 8)).getLast? =
      some (4194307149999999, .timer) := by
    rfl
  obtain rfl := Option.some.inj (hfirst.symm.trans hconnect)
  obtain ⟨rfl, -⟩ := Prod.mk.inj (Option.some.inj (hwoken.symm.trans hlast))
  exact absurd hle (by decide)

end Worker

end HubLink
