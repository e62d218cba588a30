import HubLink.Options.Basic

/-! # Checked settings

What the check of the settings finds out about their numbers, and what follows for the times that
are computed from them: a token lives for a year at most, so the calendar takes its lifetime as it
is and the time to renew it comes within the year. That time is 85 percent of the lifetime but for
what is lost by multiplying doubles (`Checked.ripe`). -/

namespace HubLink

open Duration (year perSecond perMilli)
open Rounding

namespace ClientOptions

/-- What the check finds out about the numbers of the settings. -/
structure Checked (o : ClientOptions) : Prop where
  positive : ∀ p ∈ o.positive, 0 < p.2
  lifetime : o.tokenLifetime ≤ maxTokenLifetime
  capacity : 0 < o.eventCapacity

theorem validate_eq_ok_iff {o : ClientOptions} : o.validate = .ok () ↔ o.defect? = none := by
  rw [validate]
  cases o.defect? <;> simp

/-- **Settings that pass the check are checked.** -/
theorem checked_of_validate {o : ClientOptions} (h : o.validate = .ok ()) : o.Checked := by
  rw [validate_eq_ok_iff, defect?] at h
  split at h
  · cases h
  · rename_i hfind
    split at h
    · cases h
    · rename_i hlifetime
      split at h
      · cases h
      · rename_i hcapacity
        refine ⟨fun p hp => ?_, Nat.le_of_not_gt hlifetime, Nat.pos_of_ne_zero hcapacity⟩
        have hnot := List.find?_eq_none.1 hfind p hp
        simpa [Nat.pos_iff_ne_zero] using hnot

/-- The longest lifetime of which 85 percent are less than `2 ^ 22` seconds. -/
def exactLifetime : Nat := 4934475

/-- **The token of a link is to be renewed** at `now`, given when the link came up. -/
structure Ripe (o : ClientOptions) (connect now : Nat) : Prop where
  /-- The time has come that is computed from the settings. -/
  elapsed : connect + o.renewalTime ≤ now
  /-- That is after 85 percent of the lifetime, or three nanoseconds earlier at most. -/
  nearly : 100 * connect + 85 * Duration.ofSeconds o.tokenLifetime ≤ 100 * (now + 3)
  /-- It is not earlier if the token does not live too long, nor on a clock that shows whole
  milliseconds. -/
  exactly : o.tokenLifetime ≤ exactLifetime ∨ perMilli ∣ connect ∧ perMilli ∣ now →
    100 * connect + 85 * Duration.ofSeconds o.tokenLifetime ≤ 100 * now

namespace Checked

variable {o : ClientOptions}

theorem pollInterval_pos (h : o.Checked) : 0 < o.pollInterval :=
  h.positive ("https_poll_interval_ms", o.pollInterval) (by simp [ClientOptions.positive])

/-- The calendar takes a checked lifetime as it is. -/
theorem tokenSpan_eq (h : o.Checked) : o.tokenSpan = o.tokenLifetime := by
  have hle := h.lifetime
  rw [maxTokenLifetime] at hle
  exact Int.bmod_eq_of_le (by rw [Text.bound64]; omega) (by rw [Text.bound64]; omega)

/-- How far the time to renew a token is off when a double drops `k` binary digits of the product:
by half of a unit of each rounding, and by what 0.85 as a double is too small. -/
theorem renewalTime_bounds_of_lt (h : o.Checked) (k : Nat)
    (hk : renewalShare * o.tokenLifetime < unit (digits + k)) :
    2 * unit digits * o.renewalTime ≤
        2 * unit digits * (850000000 * o.tokenLifetime) + perSecond * unit k + unit digits ∧
      2 * unit digits * (850000000 * o.tokenLifetime) ≤
        2 * unit digits * o.renewalTime + perSecond * unit k + unit digits +
          400000000 * o.tokenLifetime := by
  have hle := h.lifetime
  rw [maxTokenLifetime] at hle
  have hdigits : unit digits = 9007199254740992 := rfl
  have hlifetime : toDouble o.tokenLifetime = o.tokenLifetime :=
    toDouble_of_lt (by rw [hdigits]; omega)
  have hproduct := toDouble_bounds hk
  have hnearest := nearest_bounds
    (toDouble (renewalShare * o.tokenLifetime) * perSecond) (unit_pos digits)
  rw [renewalTime, hlifetime]
  simp only [renewalShare, perSecond, hdigits] at hproduct hnearest ⊢
  omega

/-- **When a checked token is renewed**: after 85 percent of its lifetime, to within three
nanoseconds. -/
theorem renewalTime_bounds (h : o.Checked) :
    85 * Duration.ofSeconds o.tokenLifetime ≤ 100 * (o.renewalTime + 3) ∧
      100 * o.renewalTime ≤ 85 * Duration.ofSeconds o.tokenLifetime + 300 := by
  have hle := h.lifetime
  rw [maxTokenLifetime] at hle
  have hoff := h.renewalTime_bounds_of_lt 25 (by
    simp only [renewalShare, digits, unit, Nat.reduceAdd, Nat.reduceShiftLeft]
    omega)
  simp only [Duration.ofSeconds, perSecond, digits, unit, Nat.reduceShiftLeft] at hoff ⊢
  omega

/-- A token that does not live too long is renewed after exactly 85 percent of its lifetime. -/
theorem renewalTime_eq (h : o.Checked) (hexact : o.tokenLifetime ≤ exactLifetime) :
    100 * o.renewalTime = 85 * Duration.ofSeconds o.tokenLifetime := by
  rw [exactLifetime] at hexact
  have hoff := h.renewalTime_bounds_of_lt 22 (by
    simp only [renewalShare, digits, unit, Nat.reduceAdd, Nat.reduceShiftLeft]
    omega)
  simp only [Duration.ofSeconds, perSecond, digits, unit, Nat.reduceShiftLeft] at hoff ⊢
  omega

/-- **A checked token is renewed within a year**, without any clamping. -/
theorem renewalTime_le (h : o.Checked) : o.renewalTime ≤ year := by
  have hle := h.lifetime
  have hbounds := h.renewalTime_bounds
  rw [maxTokenLifetime] at hle
  simp only [year, Duration.ofSeconds, perSecond] at hbounds ⊢
  omega

/-- No deadline cuts the time of a checked token short. -/
theorem deadlineAfter_renewalTime (h : o.Checked) (connect : Nat) :
    deadlineAfter connect o.renewalTime = connect + o.renewalTime := by
  rw [deadlineAfter, Nat.min_eq_left h.renewalTime_le]

theorem ripe (h : o.Checked) {connect now : Nat} (elapsed : connect + o.renewalTime ≤ now) :
    o.Ripe connect now where
  elapsed := elapsed
  nearly := by
    have hbounds := h.renewalTime_bounds
    omega
  exactly := by
    rintro (hexact | ⟨hconnect, hnow⟩)
    · calc 100 * connect + 85 * Duration.ofSeconds o.tokenLifetime
          = 100 * (connect + o.renewalTime) := by rw [Nat.mul_add, h.renewalTime_eq hexact]
        _ ≤ 100 * now := Nat.mul_le_mul_left 100 elapsed
    · -- 85 percent of whole seconds are whole milliseconds, so three nanoseconds less are too few.
      obtain ⟨a, rfl⟩ := hconnect
      obtain ⟨b, rfl⟩ := hnow
      have hbounds := h.renewalTime_bounds
      simp only [Duration.ofSeconds, perSecond, perMilli] at hbounds elapsed ⊢
      have hmillis : a + 850 * o.tokenLifetime ≤ b := by omega
      omega

end Checked

end ClientOptions

end HubLink
