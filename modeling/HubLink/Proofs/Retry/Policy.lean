import HubLink.Retry.Policy

/-! # Budgets of retry policies

When a policy gives up. Failures that trying again does not cure are never given another attempt;
for all others only the number of the attempt counts (`RetryPolicy.isFinal_decide`), so a policy
with a budget gives up at one attempt, whatever failed. -/

namespace HubLink

/-- The instant at which the wait after a failure at an instant is over, if there is to be another
attempt. -/
def Decision.due (d : Decision) (now : Nat) : Option Nat :=
  match d with
  | .giveUp => none
  | .retry after => some (deadlineAfter now after)

namespace Curve

variable {α : Type} [DelayNumber α]

/-- Delays that exceed the budget within some attempts exceed it within more. -/
theorem exceedsWithin_of_le (c : Curve α) {left left' n : Nat} {delay spent : α} (h : left ≤ left')
    (hexceeds : c.exceedsWithin left n delay spent) : c.exceedsWithin left' n delay spent := by
  induction left generalizing left' n delay spent with
  | zero => cases hexceeds
  | succ left ih =>
    obtain ⟨left', rfl⟩ : ∃ more, left' = more + 1 := ⟨left' - 1, by omega⟩
    rw [exceedsWithin] at hexceeds ⊢
    split
    · rfl
    · rename_i hbudget
      rw [if_neg hbudget] at hexceeds
      exact ih (by omega) hexceeds

/-- **A budget that is exhausted stays exhausted.** -/
theorem isExhausted_of_le (c : Curve α) {n n' : Nat} (h : n ≤ n') (hspent : c.isExhausted n) :
    c.isExhausted n' :=
  c.exceedsWithin_of_le (Nat.succ_le_succ h) hspent

end Curve

namespace RetryPolicy

/-- **A policy gives up at an attempt**: transient failures are given another attempt before it, and
none at it. -/
structure GivesUpAt (p : RetryPolicy) (k : Nat) : Prop where
  /-- At this attempt it is over. -/
  final : ∀ kind : FailureKind, kind.isTransient → (p.decide kind k).isFinal
  /-- Before it is not. -/
  least : ∀ n < k, ∀ kind : FailureKind, kind.isTransient → (p.decide kind n).isFinal = false

/-- A failure that trying again does not cure is given no other attempt. -/
theorem decide_of_not_isTransient (p : RetryPolicy) {kind : FailureKind}
    (h : kind.isTransient = false) (n : Nat) : p.decide kind n = .giveUp := by
  simp [decide, Curve.decide, h]

/-- Whether it is over for transient failures depends on the budget only. -/
theorem isFinal_decide (p : RetryPolicy) {kind : FailureKind} (h : kind.isTransient) (n : Nat) :
    (p.decide kind n).isFinal = p.curve.isExhausted n := by
  unfold decide Curve.decide
  rw [h, Bool.not_true, Bool.false_or]
  cases p.curve.isExhausted n with
  | true => rfl
  | false =>
    rw [if_neg Bool.false_ne_true]
    split
    · rfl
    · rfl

/-- A policy gives up at the first attempt at which its budget is exhausted. -/
theorem givesUpAt_of_isExhausted {p : RetryPolicy} {k : Nat} (hk : p.curve.isExhausted k)
    (hlt : ∀ n < k, p.curve.isExhausted n = false) : p.GivesUpAt k where
  final _ hkind := (p.isFinal_decide hkind k).trans hk
  least n hn _ hkind := (p.isFinal_decide hkind n).trans (hlt n hn)

/-- Until a policy gives up, only failures that trying again does not cure end the attempts. -/
theorem GivesUpAt.due_eq_none_iff {p : RetryPolicy} {k n : Nat} (hp : p.GivesUpAt k) (hn : n ≤ k)
    (kind : FailureKind) (now : Nat) :
    (p.decide kind n).due now = none ↔ n = k ∨ kind.isTransient = false := by
  have hdue : (p.decide kind n).due now = none ↔ (p.decide kind n).isFinal = true := by
    cases p.decide kind n <;> simp [Decision.due, Decision.isFinal]
  rw [hdue]
  cases hkind : kind.isTransient with
  | false => simp [p.decide_of_not_isTransient hkind, Decision.isFinal]
  | true =>
    obtain rfl | hlt := Nat.eq_or_lt_of_le hn
    · simp [hp.final kind hkind]
    · simp [hp.least n hlt kind hkind, Nat.ne_of_lt hlt]

/-- When the wait after the last of some setbacks is over, if there is to be another attempt. Each
setback counts as one attempt. -/
def waitOver (p : RetryPolicy) (setbacks : List (Nat × Fault)) : Option Nat :=
  setbacks.getLast?.bind fun s => (p.decide s.2.kind (setbacks.length - 1)).due s.1

theorem waitOver_concat (p : RetryPolicy) (setbacks : List (Nat × Fault)) (s : Nat × Fault) :
    p.waitOver (setbacks ++ [s]) = (p.decide s.2.kind setbacks.length).due s.1 := by
  simp [waitOver]

end RetryPolicy

end HubLink
