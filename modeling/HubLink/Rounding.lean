/-! # Rounding

What doubles make of whole numbers, computed with whole numbers only. A double keeps 53 binary
digits; of a number that has more it keeps the nearest one that has not, and of two as near the one
whose last digit is even. A fraction of doubles is brought to a common power of two beforehand, so
that rounding never leaves the whole numbers. A rounded number is at most half a unit away from what
it stands for (`nearest_bounds`, `toDouble_bounds`). -/

namespace HubLink.Rounding

/-- The whole number nearest to `n / d`, the even one of two as near. -/
def nearest (n d : Nat) : Nat :=
  if d < 2 * (n % d) ∨ 2 * (n % d) = d ∧ n / d % 2 = 1 then n / d + 1 else n / d

/-- Rounding is off by half at most. -/
theorem nearest_bounds (n : Nat) {d : Nat} (hd : 0 < d) :
    2 * (nearest n d * d) ≤ 2 * n + d ∧ 2 * n ≤ 2 * (nearest n d * d) + d := by
  have hmod : n % d < d := Nat.mod_lt n hd
  have hdiv : n / d * d + n % d = n := by
    rw [Nat.mul_comm]
    exact Nat.div_add_mod n d
  have hsucc : (n / d + 1) * d = n / d * d + d := Nat.succ_mul ..
  unfold nearest
  split <;> omega

@[simp] theorem nearest_one (n : Nat) : nearest n 1 = n := by
  simp [nearest, Nat.mod_one]

/-- A one with so many binary digits behind it. -/
def unit (k : Nat) : Nat := 1 <<< k

theorem unit_pos (k : Nat) : 0 < unit k := by
  rw [unit, Nat.one_shiftLeft]
  exact Nat.two_pow_pos k

theorem unit_mono {k l : Nat} (h : k ≤ l) : unit k ≤ unit l := by
  rw [unit, unit, Nat.one_shiftLeft, Nat.one_shiftLeft]
  exact Nat.pow_le_pow_right (by decide) h

/-- How many binary digits a double keeps. -/
def digits : Nat := 53

/-- How many binary digits of a number a double drops. -/
def dropped (n : Nat) : Nat := n.log2 + 1 - digits

theorem dropped_le {n k : Nat} (h : n < unit (digits + k)) : dropped n ≤ k := by
  rw [unit, Nat.one_shiftLeft] at h
  rw [dropped]
  rcases Nat.eq_zero_or_pos n with rfl | hpos
  · exact Nat.zero_le k
  · have hlt := (Nat.log2_lt (Nat.ne_of_gt hpos)).2 h
    omega

/-- The double nearest to a whole number. -/
def toDouble (n : Nat) : Nat := nearest n (unit (dropped n)) * unit (dropped n)

/-- A number with as many digits as a double keeps is a double. -/
theorem toDouble_of_lt {n : Nat} (h : n < unit digits) : toDouble n = n := by
  have hdropped : dropped n = 0 := Nat.le_zero.1 (dropped_le h)
  rw [toDouble, hdropped]
  show nearest n 1 * 1 = n
  rw [nearest_one, Nat.mul_one]

/-- A double is off by half a unit of its last digit at most. -/
theorem toDouble_bounds {n k : Nat} (h : n < unit (digits + k)) :
    2 * toDouble n ≤ 2 * n + unit k ∧ 2 * n ≤ 2 * toDouble n + unit k := by
  have hunit := unit_mono (dropped_le h)
  have hnearest := nearest_bounds n (unit_pos (dropped n))
  rw [toDouble]
  omega

end HubLink.Rounding
