import HubLink.Fault
import HubLink.Text.Blank
import HubLink.Text.Split

/-! # Identities

A device of a hub. One that can never reach a hub is refused before anything is sent. -/

namespace HubLink

/-- A device of a hub. -/
structure Identity where
  /-- Host name of the hub. -/
  host : String
  /-- Id of the device. -/
  device : String
  deriving DecidableEq, Repr

namespace Identity

/-- The first thing that is wrong with an identity. -/
def defect? (i : Identity) : Option String :=
  if i.host = "" then some "hostname must not be empty"
  else if Text.occursIn "://".toList i.host.toList then
    some "hostname must not include a protocol scheme"
  else if i.host.toList.any Text.isBlank then some "hostname must not contain whitespace"
  else if i.device = "" then some "device id must not be empty"
  else none

/-- Refuse an identity that can never reach a hub. -/
def validate (i : Identity) : Except Fault Unit :=
  match i.defect? with
  | some defect => .error (.configuration defect)
  | none => .ok ()

/-- The host of an accepted identity is free of white space. -/
theorem isBlank_of_validate {i : Identity} (h : i.validate = .ok ()) :
    ∀ c ∈ i.host.toList, Text.isBlank c = false := by
  cases hany : i.host.toList.any Text.isBlank with
  | false => exact fun c hc => by simpa using List.any_eq_false.1 hany c hc
  | true =>
    have hdefect : i.defect? ≠ none := by
      simp only [defect?, hany, ↓reduceIte]
      split
      · simp
      · split <;> simp
    cases hd : i.defect? with
    | none => exact absurd hd hdefect
    | some defect =>
      rw [validate, hd] at h
      cases h

end Identity

end HubLink
