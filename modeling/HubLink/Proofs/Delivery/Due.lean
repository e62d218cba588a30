import HubLink.Proofs.Delivery.Reading

/-! # What is due in a tracker

The earliest of some instants is due exactly when one of them is (`isDue_earliestOf`). So the
earliest deadline of a tracker is due exactly when an operation is overdue, and the earliest resend
exactly when a message is to be sent again. What is not due is left alone: expiring with nothing
overdue changes nothing (`DeliveryTracker.expire_of_not_isDue`). -/

namespace HubLink

/-! ## The earliest instant -/

theorem isDue_eq_true_iff {due : Option Nat} {now : Nat} :
    isDue due now = true ↔ ∃ t, due = some t ∧ t ≤ now := by
  cases due with
  | none => simp [isDue]
  | some t => simp [isDue]

/-- The earlier of two instants is due exactly when one of them is. -/
@[simp] theorem isDue_earliest (a b : Option Nat) (now : Nat) :
    isDue (earliest a b) now = (isDue a now || isDue b now) := by
  cases a with
  | none => simp [earliest, isDue]
  | some a =>
    cases b with
    | none => simp [earliest, isDue]
    | some b =>
      rw [Bool.eq_iff_iff]
      simp only [earliest, isDue, Bool.or_eq_true, decide_eq_true_eq]
      omega

/-- **The earliest of some instants is due exactly when one of them is.** -/
theorem isDue_earliestOf (instants : List Nat) (now : Nat) :
    isDue (earliestOf instants) now = instants.any (· ≤ now) := by
  -- The fold is generalised over the earliest instant met so far.
  have hfold (e : Option Nat) :
      isDue (instants.foldl (fun e t => earliest e (some t)) e) now =
        (isDue e now || instants.any (· ≤ now)) := by
    induction instants generalizing e with
    | nil => simp
    | cons t instants ih =>
      rw [List.foldl_cons, ih, isDue_earliest, List.any_cons, Bool.or_assoc]
      rfl
  rw [earliestOf, hfold]
  rfl

namespace DeliveryTracker

variable {t : DeliveryTracker} {now ackTimeout : Nat}

/-! ## Deadlines -/

/-- **The earliest deadline is due exactly when an operation is overdue.** -/
theorem isDue_nextDeadline_iff :
    isDue t.nextDeadline now = true ↔ ∃ id p, t.pending? id = some p ∧ p.deadline ≤ now := by
  have heq : isDue t.nextDeadline now =
      (t.registry.pending.values.map (·.deadline)).any (· ≤ now) := isDue_earliestOf _ _
  rw [heq, List.any_eq_true]
  simp only [SortedMap.values, List.map_map, List.mem_map, decide_eq_true_eq]
  constructor
  · rintro ⟨_, ⟨⟨id, p⟩, hmem, rfl⟩, hle⟩
    exact ⟨id, p, SortedMap.get?_eq_some_iff.2 hmem, hle⟩
  · rintro ⟨id, p, hp, hle⟩
    exact ⟨p.deadline, ⟨(id, p), SortedMap.get?_eq_some_iff.1 hp, rfl⟩, hle⟩

/-- **Before the earliest deadline expiring changes nothing.** -/
theorem expire_of_not_isDue (h : isDue t.nextDeadline now = false) :
    t.expire now = { state := t, value := [] } := by
  have hnone : t.overdue now = [] := by
    rw [List.eq_nil_iff_forall_not_mem]
    intro e he
    obtain ⟨hp, hle⟩ := pending?_of_mem_overdue he
    rw [isDue_nextDeadline_iff.2 ⟨e.1, e.2, hp, hle⟩] at h
    cases h
  rw [expire_eq, hnone]
  rfl

/-- Expiring at the earliest deadline or later ends an overdue operation with a timeout. -/
theorem expire_resolves (h : isDue t.nextDeadline now = true) :
    ∃ id p, t.pending? id = some p ∧ p.deadline ≤ now ∧
      p.resolve id (.error .timeout) ∈ (t.expire now).resolved := by
  obtain ⟨id, p, hp, hle⟩ := isDue_nextDeadline_iff.1 h
  refine ⟨id, p, hp, hle, ?_⟩
  rw [expire_eq]
  refine List.mem_map.2 ⟨(id, p), List.mem_filter.2 ⟨SortedMap.get?_eq_some_iff.1 hp, ?_⟩, rfl⟩
  simpa [PendingCorrelation.isExpired] using hle

/-! ## Resends -/

/-- A message is listed to be sent again exactly when its time has come. -/
theorem mem_dueForResend {id : Nat} :
    id ∈ t.dueForResend now ackTimeout ↔
      ∃ m, t.message? id = some m ∧ isDue (m.resendAt ackTimeout) now = true := by
  rw [dueForResend, SortedMap.mem_keys, Option.isSome_iff_exists]
  simp only [SortedMap.get?_filter, Option.filter_eq_some_iff, message?]

/-- **The earliest resend is due exactly when a message is to be sent again.** -/
theorem isDue_nextResend_iff :
    isDue (t.nextResend ackTimeout) now = true ↔ ∃ id, id ∈ t.dueForResend now ackTimeout := by
  rw [nextResend, isDue_earliestOf, List.any_eq_true]
  simp only [SortedMap.values, List.mem_filterMap, List.mem_map, decide_eq_true_eq,
    mem_dueForResend, isDue_eq_true_iff]
  constructor
  · rintro ⟨due, ⟨m, ⟨⟨id, _⟩, hmem, rfl⟩, hdue⟩, hle⟩
    exact ⟨id, _, SortedMap.get?_eq_some_iff.2 hmem, due, hdue, hle⟩
  · rintro ⟨id, m, hm, due, hdue, hle⟩
    exact ⟨due, ⟨m, ⟨(id, m), SortedMap.get?_eq_some_iff.1 hm, rfl⟩, hdue⟩, hle⟩

end DeliveryTracker

end HubLink
