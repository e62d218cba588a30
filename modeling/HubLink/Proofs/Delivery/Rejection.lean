import HubLink.Proofs.Delivery.Due
import HubLink.Proofs.Delivery.Handling

/-! # The answer to a failed send

When a message could not be sent, a policy decides what becomes of it, and the tracker answers with
the state that the message is in now: failed, or sent and due again after the policy's delay. The
answer is true of every message that was handed over (`DeliveryTracker.reportsTruly_iff`). Of one
that was not, it may say that it is sent, while it stays pending and is never due. -/

namespace HubLink

/-- A request that is not about a message leaves its delivery alone or ends it. -/
theorem TrackerRequest.leaves_of_others {r : TrackerRequest} {id : Nat} (h : r.isAbout id = false)
    (d : Option Delivery) : r.leaves id d = d ∨ r.leaves id d = none := by
  cases r with
  | about r =>
    have hne : r.id ≠ id := of_decide_eq_false h
    exact .inl (if_neg hne)
  | expire now =>
    cases d with
    | none => exact .inr rfl
    | some d => cases hexpired : d.waits.isExpired now <;> simp [leaves, Option.filter, hexpired]
  | failAll fault => exact .inr rfl

namespace DeliveryTracker

variable {t : DeliveryTracker} {policy : RetryPolicy} {id now : Nat} {fault : Fault}

/-- Requests that are not about a message leave its delivery alone or end it. -/
theorem delivery?_after_of_others (ht : t.Coherent) {later : List TrackerRequest}
    (hothers : ∀ r ∈ later, r.isAbout id = false) :
    (t.after later).delivery? id = t.delivery? id ∨ (t.after later).delivery? id = none := by
  induction later generalizing t with
  | nil => exact .inl rfl
  | cons r later ih =>
    obtain ⟨hr, hlater⟩ := List.forall_mem_cons.1 hothers
    have hnext := delivery?_next ht r id
    rcases ih (ht.next r) hlater with hkept | hgone
    · rcases TrackerRequest.leaves_of_others hr (t.delivery? id) with h | h
      · exact .inl (hkept.trans (hnext.trans h))
      · exact .inr (hkept.trans (hnext.trans h))
    · exact .inr hgone

/-- **A message that is sent and has an instant set for it is due from that instant on**, as long as
it is under way and nothing is asked about it. -/
theorem mem_dueForResend_after (ht : t.Coherent) {d : Delivery} (hd : t.delivery? id = some d)
    (hsent : d.tracked.message.state = .sent) {due : Nat} (hdue : d.tracked.retryAt = some due)
    {later : List TrackerRequest} (hothers : ∀ r ∈ later, r.isAbout id = false)
    (hid : id ∈ (t.after later).outstanding) (instant ackTimeout : Nat) :
    id ∈ (t.after later).dueForResend instant ackTimeout ↔ due ≤ instant := by
  have hlater := ht.after later
  have hkept : (t.after later).delivery? id = some d := by
    rcases delivery?_after_of_others ht hothers with hkept | hgone
    · exact hkept.trans hd
    · exact absurd hid (hlater.notMem_outstanding_iff.2 hgone)
  have hresend : d.tracked.resendAt ackTimeout = some due := by
    rw [Tracked.resendAt, if_pos hsent, hdue]
    rfl
  rw [mem_dueForResend, hlater.message?_eq, hkept]
  simp [hresend, isDue]

/-! ## What is reported and what is so -/

/-- **The answer to a failed send tells what becomes of the message**: `change` is what the tracker
`t` makes of it at an instant. -/
structure Reports (t : DeliveryTracker) (policy : RetryPolicy) (id : Nat) (fault : Fault)
    (now : Nat) (change : Change DeliveryTracker (Option DeliveryState)) : Prop where
  /-- A message that is said to have failed is gone, and its completion ends with the fault. -/
  failed : change.value = some .failed →
    id ∉ change.state.outstanding ∧
      ∃ p, t.pending? id = some p ∧ change.resolved = [p.resolve id (.error fault)]
  /-- A message that is said to be sent is so, the same operation waits for it, and none ends. -/
  sent : change.value = some .sent →
    change.state.state? id = some .sent ∧ change.state.pending? id = t.pending? id ∧
      change.resolved = []
  /-- As long as it is under way and nothing is asked about it, it is due from the end of the
  policy's delay on, whatever the timeout of confirmations. -/
  due : change.value = some .sent →
    ∃ m delay, t.message? id = some m ∧
      policy.decide fault.kind m.message.retryCount = .retry delay ∧
      ∀ later : List TrackerRequest, (∀ r ∈ later, r.isAbout id = false) →
        id ∈ (change.state.after later).outstanding → ∀ instant ackTimeout,
          id ∈ (change.state.after later).dueForResend instant ackTimeout ↔
            deadlineAfter now delay ≤ instant
  /-- Nothing changes for the others. -/
  others : ∀ k, k ≠ id →
    change.state.message? k = t.message? k ∧ change.state.pending? k = t.pending? k

/-- A message that was sent before it failed is reported truly. -/
theorem Coherent.reports (ht : t.Coherent)
    (hsent : (t.sendFailed policy id fault now).value = some .sent → t.state? id = some .sent) :
    Reports t policy id fault now (t.sendFailed policy id fault now) := by
  obtain ⟨hd, heq⟩ | ⟨d, hd, hdecide, heq⟩ | ⟨d, delay, hd, hdecide, heq⟩ :=
    sendFailed_cases ht policy id fault now
  · rw [heq]
    exact ⟨nofun, nofun, nofun, fun k hk => ⟨rfl, rfl⟩⟩
  · rw [heq]
    refine ⟨fun _ => ⟨?_, d.waits, (delivery?_eq_some_iff.1 hd).2, rfl⟩, nofun, nofun,
      fun k hk => ?_⟩
    · rw [mem_outstanding, message?_put, if_pos rfl]
      exact nofun
    · rw [message?_put, pending?_put, if_neg hk, if_neg hk]
      exact ⟨rfl, rfl⟩
  · rw [heq] at hsent ⊢
    obtain ⟨hbefore, hwaits⟩ := delivery?_eq_some_iff.1 hd
    have hmessage : d.tracked.message.state = .sent := by
      have hstate := hsent rfl
      rw [ht.state?_eq, hd] at hstate
      exact Option.some.inj hstate
    have hplanned : (t.put id (some (d.planned (deadlineAfter now delay)))).Coherent := by
      refine ht.put fun x hx => ?_
      obtain rfl := Option.some.inj hx
      show d.tracked.message.id = id
      exact ht.id_of_delivery hd
    have hget : (t.put id (some (d.planned (deadlineAfter now delay)))).delivery? id =
        some (d.planned (deadlineAfter now delay)) := by
      rw [delivery?_put, if_pos rfl]
    refine ⟨nofun, fun _ => ⟨?_, ?_, rfl⟩, fun _ => ⟨d.tracked, delay, hbefore, hdecide, ?_⟩,
      fun k hk => ?_⟩
    · rw [hplanned.state?_eq, hget]
      exact congrArg some hmessage
    · rw [pending?_put, if_pos rfl, hwaits]
      rfl
    · intro later hothers hid
      exact mem_dueForResend_after hplanned hget hmessage rfl hothers hid
    · rw [message?_put, pending?_put, if_neg hk, if_neg hk]
      exact ⟨rfl, rfl⟩

/-- **Whatever was asked of a tracker, its answer to a failed send is true** exactly if a message
that it says is sent was sent before. Of a message that was handed to no link yet it says so as
well. -/
theorem reportsTruly_iff (requests : List TrackerRequest) (policy : RetryPolicy) (id : Nat)
    (fault : Fault) (now : Nat) :
    Reports (ofRequests requests) policy id fault now
        ((ofRequests requests).sendFailed policy id fault now) ↔
      (((ofRequests requests).sendFailed policy id fault now).value = some .sent →
        (ofRequests requests).state? id = some .sent) := by
  have ht := coherent_ofRequests requests
  constructor
  · intro h hvalue
    have hafter := (h.sent hvalue).1
    obtain ⟨-, heq⟩ | ⟨d, -, -, heq⟩ | ⟨d, delay, hd, -, heq⟩ :=
      sendFailed_cases ht policy id fault now
    · rw [heq] at hvalue
      cases hvalue
    · rw [heq] at hvalue
      cases hvalue
    · -- The message itself is as it was before.
      rw [ht.state?_eq, hd]
      rw [heq, state?, show SortedMap.get? _ id = _ from message?_put .., if_pos rfl] at hafter
      exact hafter
  · exact ht.reports

/-- The reading is submitted and not handed over yet. -/
def unsent : DeliveryTracker := ofRequests [.about (.submit (.reading 1) 10 60000)]

/-- The hub's connection breaks. -/
def brokenOff : Fault := .link .reset "reset"

/-- **A message that was not handed over is said to be sent**, although it is pending and not due,
not even when its deadline has passed. -/
theorem not_reports_unsent :
    (unsent.sendFailed (.ofOptions {}) 1 brokenOff 0).value = some .sent ∧
      (unsent.sendFailed (.ofOptions {}) 1 brokenOff 0).state.state? 1 = some .pending ∧
      (unsent.sendFailed (.ofOptions {}) 1 brokenOff 0).state.dueForResend 60000 60000 = [] ∧
      ¬ Reports unsent (.ofOptions {}) 1 brokenOff 0
        (unsent.sendFailed (.ofOptions {}) 1 brokenOff 0) := by
  have hvalue : (unsent.sendFailed (.ofOptions {}) 1 brokenOff 0).value = some .sent := by
    decide +kernel
  have hstate : (unsent.sendFailed (.ofOptions {}) 1 brokenOff 0).state.state? 1 =
      some .pending := by
    decide +kernel
  refine ⟨hvalue, hstate, by decide +kernel, fun h => ?_⟩
  have hsent := (h.sent hvalue).1
  rw [hstate] at hsent
  cases hsent

end DeliveryTracker

end HubLink
