import HubLink.Proofs.Retry.Policy
import HubLink.Text.Decimal
import Mathlib.Algebra.Field.GeomSum
import Mathlib.Data.Rat.Floor
import Mathlib.Tactic.Linarith
import Mathlib.Tactic.NormNum

/-! # Delays that do not decrease

Over exact numbers no attempt waits less than one before it, however the delays are spread
(`Curve.delay_le_delay`). While the exponential doubles, a spread of a third does not undo a
doubling. When it no longer doubles, a delay could be shorter than the one before it if it were not
capped; but a budget of 64 bits is exhausted by then, unless the cap is so low that the spread makes
no difference any more (`Curve.cap_le_of_not_isExhausted`). -/

namespace HubLink

/-- Rational numbers are delays that are computed with exactly. -/
instance : DelayNumber ℚ where
  ofNat n := n
  third := 1 / 3
  whole x := ⌊x⌋₊
  decideLt := inferInstance

/-- A failure that trying again may help against, and that does not say when. -/
structure FailureKind.LacksHint (kind : FailureKind) : Prop where
  /-- Trying again may help. -/
  isTransient : kind.isTransient = true
  /-- Nothing is said about when. -/
  unhinted : ∀ after, kind ≠ .throttled (some after)

namespace Curve

section Any

variable {α : Type} [DelayNumber α] (c : Curve α) (spread : Nat → α)

/-- Without a hint the wait follows the curve until the budget is exhausted. -/
theorem decide_of_lacksHint {kind : FailureKind} (h : kind.LacksHint) (n : Nat) :
    c.decide spread kind n =
      if c.isExhausted n then .giveUp
      else .retry (Duration.ofMillis (c.backoff (spread n) n)) := by
  rw [decide, h.isTransient, Bool.not_true, Bool.false_or]
  exact h.unhinted

/-- Such a failure is given another attempt exactly while the budget is not exhausted. -/
theorem isFinal_decide_of_lacksHint {kind : FailureKind} (h : kind.LacksHint) (n : Nat) :
    (c.decide spread kind n).isFinal = c.isExhausted n := by
  rw [c.decide_of_lacksHint spread h]
  cases c.isExhausted n <;> rfl

/-- Attempts before one that the budget has room for have room too. -/
theorem not_isExhausted_of_le {n n' : Nat} (h : n ≤ n') (hroom : c.isExhausted n' = false) :
    c.isExhausted n = false := by
  by_contra hspent
  rw [c.isExhausted_of_le h (Bool.eq_true_of_not_eq_false hspent)] at hroom
  cases hroom

/-- The exponential is doubled from one attempt to the next, up to the last doubling. -/
theorem double_exponential (n : Nat) : double n (c.exponential n) = c.exponential (n + 1) := by
  unfold exponential
  rcases Nat.lt_or_ge n lastDoubling with hlt | hge
  · rw [Nat.min_eq_left (Nat.le_of_lt hlt), Nat.min_eq_left hlt, List.range_succ,
      List.foldl_append, List.foldl_cons, List.foldl_nil]
  · rw [Nat.min_eq_right hge, Nat.min_eq_right (Nat.le_succ_of_le hge), double,
      if_neg (Nat.not_lt.2 hge)]

end Any

/-! ## Exact delays -/

section Exact

variable (c : Curve ℚ)

theorem capped_eq_min (x : ℚ) : c.capped x = min x c.cap := by
  rw [capped]
  split
  · rename_i h
    exact (min_eq_left (le_of_lt h)).symm
  · rename_i h
    exact (min_eq_right (not_lt.1 h)).symm

/-- The exponential is the base times a power of two. -/
theorem exponential_eq (n : Nat) : c.exponential n = c.base * 2 ^ min n lastDoubling := by
  induction n with
  | zero => simp [exponential]
  | succ n ih =>
    rw [← double_exponential, ih, double]
    split
    · rename_i h
      rw [Nat.min_eq_left (Nat.le_of_lt h), Nat.min_eq_left h, pow_succ]
      ring
    · rename_i h
      rw [Nat.min_eq_right (Nat.not_lt.1 h), Nat.min_eq_right (Nat.le_succ_of_le (Nat.not_lt.1 h))]

/-- What the capped delays of the first attempts add up to. -/
def spent (n : Nat) : ℚ := ∑ k ∈ Finset.range n, c.capped (c.exponential k)

theorem spent_succ (n : Nat) : c.spent (n + 1) = c.spent n + c.capped (c.exponential n) :=
  Finset.sum_range_succ _ n

/-- Delays that do not exceed the budget within some attempts fit into it together. -/
theorem spent_le_of_exceedsWithin {left n : Nat}
    (h : c.exceedsWithin (left + 1) n (c.exponential n) (c.spent n) = false) :
    c.spent (n + left + 1) ≤ c.budget := by
  induction left generalizing n with
  | zero =>
    rw [exceedsWithin, ← spent_succ] at h
    split at h
    · cases h
    · rename_i hbudget
      exact not_lt.1 hbudget
  | succ left ih =>
    rw [exceedsWithin, ← spent_succ, double_exponential] at h
    split at h
    · cases h
    · have hle := ih h
      rwa [Nat.add_right_comm n 1] at hle

/-- **A budget that is not exhausted has room for all delays so far.** -/
theorem spent_le_of_not_isExhausted {n : Nat} (h : c.isExhausted n = false) :
    c.spent (n + 1) ≤ c.budget := by
  have hzero : c.spent 0 = DelayNumber.ofNat 0 :=
    (Finset.sum_range_zero _).trans Nat.cast_zero.symm
  rw [isExhausted, ← hzero] at h
  have hle := c.spent_le_of_exceedsWithin h
  rwa [Nat.zero_add] at hle

/-- Delays that are all below the cap are spent as they are. -/
theorem spent_of_le_cap {n : Nat} (hn : n ≤ lastDoubling)
    (hcap : ∀ k < n, c.exponential k ≤ c.cap) : c.spent n = c.base * (2 ^ n - 1) := by
  have hterm : ∀ k ∈ Finset.range n, c.capped (c.exponential k) = c.base * 2 ^ k := by
    intro k hk
    have hlt := Finset.mem_range.1 hk
    rw [capped_eq_min, min_eq_left (hcap k hlt), exponential_eq,
      Nat.min_eq_left (Nat.le_of_lt (Nat.lt_of_lt_of_le hlt hn))]
  rw [spent, Finset.sum_congr rfl hterm, ← Finset.mul_sum, geom_sum_eq (by norm_num)]
  norm_num

/-- What is waited, in whole milliseconds: the spread exponential up to the cap. -/
theorem backoff_eq (s : ℚ) (n : Nat) :
    c.backoff s n = ⌊min (c.exponential n * (1 + s * c.jitter)) c.cap⌋₊ := by
  have hone : (DelayNumber.ofNat 1 : ℚ) = 1 := Nat.cast_one
  rw [backoff, capped_eq_min, hone]
  rfl

end Exact

/-! ## Delays of a curve that was made from settings -/

/-- What is known of a curve made from settings, with a budget of 64 bits. -/
structure IsMade (c : Curve ℚ) : Prop where
  /-- The first delay is at least a millisecond. -/
  one_le_base : 1 ≤ c.base
  /-- Delays are not shortened where they should be lengthened. -/
  jitter_nonneg : 0 ≤ c.jitter
  /-- They are shortened and lengthened by a third at most. -/
  jitter_le : c.jitter ≤ 1 / 3
  /-- The budget is a number of 64 bits. -/
  budget_lt : c.budget < 2 ^ 64

theorem clampJitter_mem (x : ℚ) : 0 ≤ clampJitter x ∧ clampJitter x ≤ 1 / 3 := by
  have hzero : (DelayNumber.ofNat 0 : ℚ) = 0 := Nat.cast_zero
  have hthird : (DelayNumber.third : ℚ) = 1 / 3 := rfl
  rw [clampJitter, hzero, hthird]
  split
  · norm_num
  · split
    · norm_num
    · rename_i hnonneg hle
      exact ⟨not_lt.1 hnonneg, not_lt.1 hle⟩

theorem isMade_make (base cap : Nat) {budget : Nat} (h : budget < Text.bound64) (jitter : ℚ) :
    (make base cap budget jitter).IsMade where
  one_le_base := by
    change (1 : ℚ) ≤ ((max base 1 : Nat) : ℚ)
    exact_mod_cast Nat.le_max_right base 1
  jitter_nonneg := (clampJitter_mem jitter).1
  jitter_le := (clampJitter_mem jitter).2
  budget_lt := by
    change ((budget : Nat) : ℚ) < 2 ^ 64
    exact_mod_cast h

namespace IsMade

variable {c : Curve ℚ} (hc : c.IsMade)
include hc

theorem exponential_pos (n : Nat) : 0 < c.exponential n := by
  rw [exponential_eq]
  have := hc.one_le_base
  positivity

/-- The exponential never shrinks. -/
theorem exponential_le {m n : Nat} (h : m ≤ n) : c.exponential m ≤ c.exponential n := by
  have hbase := hc.one_le_base
  rw [exponential_eq, exponential_eq]
  refine mul_le_mul_of_nonneg_left ?_ (by linarith)
  exact pow_le_pow_right₀ (by norm_num) (min_le_min_right _ h)

/-- It is at least twice as long at a later attempt, as long as it is doubled. -/
theorem two_mul_exponential_le {m n : Nat} (h : m < n) (hm : m < lastDoubling) :
    2 * c.exponential m ≤ c.exponential n := by
  have hsucc : c.exponential (m + 1) = 2 * c.exponential m := by
    rw [← double_exponential, double, if_pos hm, two_mul]
  rw [← hsucc]
  exact hc.exponential_le h

/-- The spread shortens a delay by a third at most. -/
theorem two_thirds_le {s : ℚ} (hs : -1 ≤ s) : 2 / 3 ≤ 1 + s * c.jitter := by
  have hshare : -1 * c.jitter ≤ s * c.jitter := mul_le_mul_of_nonneg_right hs hc.jitter_nonneg
  linarith [hc.jitter_le]

/-- It lengthens a delay by a third at most. -/
theorem le_four_thirds {s : ℚ} (hs : s ≤ 1) : 1 + s * c.jitter ≤ 4 / 3 := by
  have hshare : s * c.jitter ≤ 1 * c.jitter := mul_le_mul_of_nonneg_right hs hc.jitter_nonneg
  linarith [hc.jitter_le]

/-- **Past the last doubling the cap is so low that the spread does not get below it**, or the
budget is exhausted. -/
theorem cap_le_of_not_isExhausted {n : Nat} (hn : lastDoubling ≤ n)
    (h : c.isExhausted n = false) : c.cap ≤ c.exponential n * (2 / 3) := by
  have hbase := hc.one_le_base
  have hlongest (k : Nat) (hk : lastDoubling ≤ k) : c.exponential k = c.base * 2 ^ 64 := by
    rw [exponential_eq, Nat.min_eq_right hk]
    rfl
  rw [hlongest n hn]
  by_contra! hcap
  -- Then the cap cuts no delay off before the last doubling, so these are almost the whole budget,
  -- and the next does not fit beside them.
  have hbelow : ∀ k < lastDoubling, c.exponential k ≤ c.cap := by
    intro k hk
    have hdouble := hc.two_mul_exponential_le hk hk
    rw [hlongest lastDoubling le_rfl] at hdouble
    linarith
  have hspent : c.spent lastDoubling = c.base * (2 ^ 64 - 1) := c.spent_of_le_cap le_rfl hbelow
  have hnext : c.base * 2 ^ 64 * (2 / 3) ≤ c.capped (c.exponential lastDoubling) := by
    rw [capped_eq_min, hlongest lastDoubling le_rfl]
    exact le_min (by linarith) hcap.le
  have hroom := c.spent_le_of_not_isExhausted (c.not_isExhausted_of_le hn h)
  rw [spent_succ, hspent] at hroom
  linarith [hc.budget_lt]

/-- **No delay is shorter than one before it** while the budget has room, however they are
spread. -/
theorem backoff_le_backoff {m n : Nat} (hmn : m ≤ n) (h : c.isExhausted n = false)
    {s : Nat → ℚ} (hs : ∀ k, -1 ≤ s k ∧ s k ≤ 1) :
    c.backoff (s m) m ≤ c.backoff (s n) n := by
  obtain rfl | hlt := Nat.eq_or_lt_of_le hmn
  · exact le_rfl
  have hpos := hc.exponential_pos
  have hshort := hc.two_thirds_le (hs n).1
  rw [backoff_eq, backoff_eq]
  refine Nat.floor_le_floor ?_
  rcases Nat.lt_or_ge m lastDoubling with hm | hm
  · -- A doubling outweighs what the spread takes off one delay and adds to the other.
    refine min_le_min_right _ ?_
    calc c.exponential m * (1 + s m * c.jitter)
        ≤ c.exponential m * (4 / 3) :=
          mul_le_mul_of_nonneg_left (hc.le_four_thirds (hs m).2) (hpos m).le
      _ = 2 * c.exponential m * (2 / 3) := by ring
      _ ≤ c.exponential n * (2 / 3) :=
          mul_le_mul_of_nonneg_right (hc.two_mul_exponential_le hlt hm) (by norm_num)
      _ ≤ c.exponential n * (1 + s n * c.jitter) :=
          mul_le_mul_of_nonneg_left hshort (hpos n).le
  · -- The later delay is the cap.
    have hcap := hc.cap_le_of_not_isExhausted (hm.trans hmn) h
    have hle : c.cap ≤ c.exponential n * (1 + s n * c.jitter) :=
      hcap.trans (mul_le_mul_of_nonneg_left hshort (hpos n).le)
    rw [min_eq_right hle]
    exact min_le_right _ _

end IsMade

/-- **The wait after a failure is never shorter than after one before it, and never longer than the
cap**, whatever failed and however the delays are spread, as long as there is another attempt and
nobody says when to make it. -/
theorem delay_le_delay (base cap : Nat) {budget : Nat} (hbudget : budget < Text.bound64)
    (jitter : ℚ) {spread : Nat → ℚ} (hspread : ∀ n, -1 ≤ spread n ∧ spread n ≤ 1)
    {kind kind' : FailureKind} (hkind : kind.LacksHint) (hkind' : kind'.LacksHint) {a b : Nat}
    (hab : a ≤ b)
    (h : ((make base cap budget jitter).decide spread kind' b).isFinal = false) :
    ((make base cap budget jitter).decide spread kind a).isFinal = false ∧
      ((make base cap budget jitter).decide spread kind a).delay ≤
        ((make base cap budget jitter).decide spread kind' b).delay ∧
      ((make base cap budget jitter).decide spread kind' b).delay ≤
        Duration.ofMillis (max cap (max base 1)) := by
  have hmade := isMade_make base cap hbudget jitter
  have hcap : (make base cap budget jitter).cap = ((max cap (max base 1) : Nat) : ℚ) := rfl
  generalize make base cap budget jitter = c at h hmade hcap ⊢
  rw [isFinal_decide_of_lacksHint c spread hkind'] at h
  have ha : c.isExhausted a = false := c.not_isExhausted_of_le hab h
  have hmono := hmade.backoff_le_backoff hab h hspread
  have hbound : c.backoff (spread b) b ≤ max cap (max base 1) := by
    rw [backoff_eq, ← Nat.floor_natCast (R := ℚ) (max cap (max base 1)), ← hcap]
    exact Nat.floor_le_floor (min_le_right _ _)
  rw [decide_of_lacksHint c spread hkind, decide_of_lacksHint c spread hkind', ha, h]
  exact ⟨rfl, Nat.mul_le_mul_right _ hmono, Nat.mul_le_mul_right _ hbound⟩

/-! ## A curve that has stopped doubling -/

/-- A spread that shortens the delays of even attempts and lengthens those of odd ones. -/
def swinging (n : Nat) : ℚ := if n % 2 = 0 then -1 else 1

/-- The wait of an even attempt past the last doubling is no shorter than that of the odd attempt
before it: both are the cap. -/
theorem delay_le_delay_swinging :
    ((make 1 1000 100000 (1 / 2)).decide swinging .transportReset 65).isFinal = false ∧
      ((make 1 1000 100000 (1 / 2)).decide swinging .transportReset 65).delay ≤
        ((make 1 1000 100000 (1 / 2)).decide swinging .networkTimeout 66).delay ∧
      ((make 1 1000 100000 (1 / 2)).decide swinging .networkTimeout 66).delay ≤
        Duration.ofMillis 1000 := by
  have hspread (n : Nat) : -1 ≤ swinging n ∧ swinging n ≤ 1 := by
    rw [swinging]
    split <;> norm_num
  have hreset : FailureKind.transportReset.LacksHint := ⟨rfl, nofun⟩
  have htimeout : FailureKind.networkTimeout.LacksHint := ⟨rfl, nofun⟩
  exact delay_le_delay 1 1000 (by decide) (1 / 2) hspread hreset htimeout (by decide)
    (by decide +kernel)

end Curve

end HubLink
