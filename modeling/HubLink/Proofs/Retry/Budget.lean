import HubLink.Proofs.Retry.Rising

/-! # Budgets that run out

Giving up is for good, and settings with the same budget give up alike: at the same attempt, or
never (`RetryPolicy.givesUpAlike_of_sharesBudget`). The delays are added up as they are before they
are spread, so neither the jitter nor the seed has a say (`Curve.SpendsAlike.isExhausted_eq`), nor
has the failure, as long as trying again may help against it. Over exact numbers the attempt is the
first one with which the capped delays add up to more than the budget
(`Curve.isExhausted_make_iff`). -/

namespace HubLink

namespace Curve

/-! ## Delays before they are spread -/

section Any

variable {α : Type} [DelayNumber α] {c c' : Curve α}

/-- Curves that differ in their jitters at most. -/
structure SpendsAlike (c c' : Curve α) : Prop where
  /-- The first delays are the same. -/
  base : c.base = c'.base
  /-- So are the longest ones. -/
  cap : c.cap = c'.cap
  /-- The delays may add up to the same. -/
  budget : c.budget = c'.budget

namespace SpendsAlike

variable (h : c.SpendsAlike c')
include h

theorem capped_eq (x : α) : c.capped x = c'.capped x := by
  rw [capped, capped, h.cap]

theorem exceedsWithin_eq (left n : Nat) (delay spent : α) :
    c.exceedsWithin left n delay spent = c'.exceedsWithin left n delay spent := by
  induction left generalizing n delay spent with
  | zero => rfl
  | succ left ih =>
    rw [exceedsWithin, exceedsWithin, h.budget, h.capped_eq, ih]

/-- **Curves that differ in their jitters exhaust their budgets alike.** -/
theorem isExhausted_eq (n : Nat) : c.isExhausted n = c'.isExhausted n := by
  rw [isExhausted, isExhausted, h.base, h.exceedsWithin_eq]

end SpendsAlike

end Any

/-! ## Exact budgets -/

section Exact

variable {c : Curve ℚ}

/-- No delay is negative unless the base or the cap is. -/
theorem capped_exponential_nonneg (hbase : 0 ≤ c.base) (hcap : 0 ≤ c.cap) (n : Nat) :
    0 ≤ c.capped (c.exponential n) := by
  rw [capped_eq_min, exponential_eq]
  apply le_min
  · positivity
  · exact hcap

theorem spent_mono (hbase : 0 ≤ c.base) (hcap : 0 ≤ c.cap) : Monotone c.spent := by
  apply monotone_nat_of_le_succ
  intro n
  rw [spent_succ]
  linarith [c.capped_exponential_nonneg hbase hcap n]

/-- Delays that exceed the budget at some attempt exceed it with those of all later ones. -/
theorem budget_lt_spent_of_exceedsWithin (hbase : 0 ≤ c.base) (hcap : 0 ≤ c.cap) {left n : Nat}
    (h : c.exceedsWithin left n (c.exponential n) (c.spent n) = true) :
    c.budget < c.spent (n + left) := by
  induction left generalizing n with
  | zero => cases h
  | succ left ih =>
    rw [exceedsWithin, ← spent_succ, double_exponential] at h
    split at h
    · rename_i hbudget
      -- Nothing that is spent later is given back.
      exact lt_of_lt_of_le hbudget (spent_mono hbase hcap (by omega))
    · have hlater := ih h
      rwa [Nat.add_assoc, Nat.add_comm 1] at hlater

/-- **A budget is exhausted by the attempt with which the capped delays exceed it.** -/
theorem isExhausted_make_iff (base cap budget : Nat) (jitter : ℚ) (n : Nat) :
    (make base cap budget jitter).isExhausted n = true ↔
      (budget : ℚ) < (make base cap budget jitter).spent (n + 1) := by
  have hbase : (0 : ℚ) ≤ (make base cap budget jitter).base := Nat.cast_nonneg _
  have hcap : (0 : ℚ) ≤ (make base cap budget jitter).cap := Nat.cast_nonneg _
  have hbudget : (make base cap budget jitter).budget = (budget : ℚ) := rfl
  rw [← hbudget]
  constructor
  · intro h
    have hzero : spent (make base cap budget jitter) 0 = DelayNumber.ofNat 0 :=
      (Finset.sum_range_zero _).trans Nat.cast_zero.symm
    rw [isExhausted, ← hzero] at h
    have hlt := budget_lt_spent_of_exceedsWithin hbase hcap h
    rwa [Nat.zero_add] at hlt
  · intro hlt
    by_contra hroom
    have hle := spent_le_of_not_isExhausted _ (Bool.eq_false_of_not_eq_true hroom)
    exact absurd hlt (not_lt.2 hle)

/-- 100, 200, 400 and 800 fit into 2000 together, and the next delay does not fit beside them. -/
example : (make 100 1000 2000 (0 : ℚ)).isExhausted 3 = false ∧
    (make 100 1000 2000 (0 : ℚ)).isExhausted 4 = true := by
  decide +kernel

end Exact

end Curve

/-! ## Policies -/

/-- Settings that differ in jitter and seed at most. -/
structure RetryOptions.SharesBudget (o o' : RetryOptions) : Prop where
  /-- The first delays are the same. -/
  baseDelay : o.baseDelay = o'.baseDelay
  /-- So are the longest ones. -/
  maxDelay : o.maxDelay = o'.maxDelay
  /-- The delays may add up to the same. -/
  maxDuration : o.maxDuration = o'.maxDuration

namespace RetryPolicy

/-- **Two policies give up alike, and for good.** -/
structure GivesUpAlike (p p' : RetryPolicy) : Prop where
  /-- What one of them has given up at an attempt, the other does not try again at this attempt or a
  later one, whatever failed. -/
  permanent : ∀ kind kind' : FailureKind, kind.isTransient → kind'.isTransient →
    ∀ a b, a ≤ b → (p.decide kind a).isFinal → (p'.decide kind' b).isFinal
  /-- What trying again does not cure is never tried again. -/
  hopeless : ∀ kind : FailureKind, kind.isTransient = false →
    ∀ n, (p.decide kind n).isFinal ∧ (p'.decide kind n).isFinal
  /-- Both give everything else up at one attempt, or both try for ever. -/
  together : (∃ k, p.GivesUpAt k ∧ p'.GivesUpAt k) ∨
    ∀ kind : FailureKind, kind.isTransient →
      ∀ n, (p.decide kind n).isFinal = false ∧ (p'.decide kind n).isFinal = false

/-- A policy gives up at some attempt, or its budget is never exhausted. -/
theorem exists_givesUpAt_or (p : RetryPolicy) :
    (∃ k, p.GivesUpAt k) ∨ ∀ n, p.curve.isExhausted n = false := by
  by_cases h : ∃ n, p.curve.isExhausted n = true
  · refine .inl ⟨Nat.find h, givesUpAt_of_isExhausted (Nat.find_spec h) fun n hn => ?_⟩
    exact Bool.eq_false_of_not_eq_true (Nat.find_min h hn)
  · refine .inr fun n => ?_
    rw [not_exists] at h
    exact Bool.eq_false_of_not_eq_true (h n)

/-- **Policies with the same budget give up alike**, whatever their jitters and seeds are. -/
theorem givesUpAlike_of_sharesBudget {o o' : RetryOptions} (h : o.SharesBudget o') :
    (ofOptions o).GivesUpAlike (ofOptions o') := by
  have halike : (ofOptions o).curve.SpendsAlike (ofOptions o').curve := by
    constructor
    · show DelayNumber.ofNat (max o.baseDelay 1) = _
      rw [h.baseDelay]
      rfl
    · show DelayNumber.ofNat (max o.maxDelay (max o.baseDelay 1)) = _
      rw [h.maxDelay, h.baseDelay]
      rfl
    · show DelayNumber.ofNat o.maxDuration = _
      rw [h.maxDuration]
      rfl
  -- With the same budgets the same attempts are the last ones for all that may be cured.
  have hsame (kind kind' : FailureKind) (hkind : kind.isTransient) (hkind' : kind'.isTransient)
      (n : Nat) :
      ((ofOptions o).decide kind n).isFinal = ((ofOptions o').decide kind' n).isFinal := by
    rw [isFinal_decide _ hkind, isFinal_decide _ hkind', halike.isExhausted_eq]
  refine ⟨?_, ?_, ?_⟩
  · intro kind kind' hkind hkind' a b hab hfinal
    rw [hsame kind kind' hkind hkind', isFinal_decide _ hkind'] at hfinal
    rw [isFinal_decide _ hkind']
    exact Curve.isExhausted_of_le _ hab hfinal
  · intro kind hkind n
    rw [decide_of_not_isTransient _ hkind, decide_of_not_isTransient _ hkind]
    exact ⟨rfl, rfl⟩
  · rcases exists_givesUpAt_or (ofOptions o) with ⟨k, hk⟩ | hnever
    · refine .inl ⟨k, hk, ?_, ?_⟩
      · intro kind hkind
        rw [← hsame kind kind hkind hkind]
        exact hk.final kind hkind
      · intro n hn kind hkind
        rw [← hsame kind kind hkind hkind]
        exact hk.least n hn kind hkind
    · refine .inr fun kind hkind n => ?_
      rw [← hsame kind kind hkind hkind, isFinal_decide _ hkind]
      exact ⟨hnever n, hnever n⟩

/-- Settings without jitter. -/
def steadyOptions : RetryOptions where
  baseDelay := 100
  maxDelay := 1000
  maxDuration := 2000
  jitter := 0

/-- The same settings with jitter. -/
def swayingOptions : RetryOptions := { steadyOptions with jitter := 0.3, seed := 7 }

/-- What is given up without jitter at attempt four, after a reset, is not tried again with jitter
at attempt nine, although the hub is only busy and says when to come back. -/
theorem givesUpAlike_steady_swaying :
    steadyOptions.SharesBudget swayingOptions ∧
      ((ofOptions steadyOptions).decide .transportReset 3).isFinal = false ∧
      ((ofOptions steadyOptions).decide .transportReset 4).isFinal = true ∧
      ((ofOptions swayingOptions).decide (.throttled (some 5)) 9).isFinal = true ∧
      (ofOptions steadyOptions).GivesUpAlike (ofOptions swayingOptions) := by
  have hshares : steadyOptions.SharesBudget swayingOptions := ⟨rfl, rfl, rfl⟩
  have halike := givesUpAlike_of_sharesBudget hshares
  have hfour : ((ofOptions steadyOptions).decide .transportReset 4).isFinal = true := by
    decide +kernel
  have hnine := halike.permanent .transportReset (.throttled (some 5)) rfl rfl 4 9 (by decide) hfour
  exact ⟨hshares, by decide +kernel, hfour, hnine, halike⟩

end RetryPolicy

end HubLink
