import HubLink.Mqtt.Route
import HubLink.Proofs.Text.Pairs

/-! # Routes and queries

Topics are told apart by how they start, so a message to the device, the call of a method and an
answer about the twin are each read as what they are (`route_append`, `route_method`,
`route_twinResponse`); and the pairs written into the query of a topic are read back from it,
however they are spelled (`queryPairs_of_spells`). -/

namespace HubLink.Mqtt

open Text

/-! ## Starts of topics -/

section Route

variable {body : List UInt8} {packetId : Option Nat}

/-- What follows the start of topics of messages to the device is the query of such a message. -/
theorem route_append (lead query : List Char) :
    route lead (lead ++ query) body packetId = some (deviceMessage query body packetId) := by
  rw [route, afterLead_eq_some_iff.2 rfl]

/-- No message to the device has a topic that starts with a dollar sign. -/
theorem afterLead_deviceLead (device : String) (rest : List Char) :
    afterLead (Topic.deviceLead device) ('$' :: rest) = none := by
  have hd : "devices/".toList = 'd' :: "evices/".toList := by decide
  unfold Topic.deviceLead
  rw [hd, List.cons_append, List.cons_append]
  exact afterLead_cons_of_ne (by decide) _ _

theorem methodLead_eq :
    Topic.methodLead = '$' :: ("iothub/".toList ++ 'm' :: "ethods/POST/".toList) := by
  decide

theorem twinResponseLead_eq :
    Topic.twinResponseLead = '$' :: ("iothub/twin/".toList ++ 'r' :: "es/".toList) := by
  decide

/-- The call of a method is read as one. -/
theorem route_method (device : String) (details : List Char) :
    route (Topic.deviceLead device) (Topic.methodLead ++ details) body packetId =
      methodCall? details body := by
  have hdevice : afterLead (Topic.deviceLead device) (Topic.methodLead ++ details) = none := by
    rw [methodLead_eq, List.cons_append]
    exact afterLead_deviceLead device _
  -- The leads agree up to the name of the service, and differ in its first letter.
  have hpatch : afterLead Topic.twinPatchLead (Topic.methodLead ++ details) = none := by
    have hp : Topic.twinPatchLead =
        '$' :: "iothub/".toList ++ 't' :: "win/PATCH/properties/desired/".toList := by
      decide
    rw [hp, methodLead_eq, ← List.cons_append, List.append_assoc]
    exact afterLead_append_of_ne (by decide) _ _ _
  rw [route, hdevice, hpatch, afterLead_eq_some_iff.2 rfl]

/-- An answer about the twin is read as one, unless messages to the device have topics that start
like its own. -/
theorem route_twinResponse_of_not_prefix {lead details : List Char}
    (h : ¬lead <+: Topic.twinResponseLead ++ details) :
    route lead (Topic.twinResponseLead ++ details) body packetId = twinResponse? details body := by
  have hpatch : afterLead Topic.twinPatchLead (Topic.twinResponseLead ++ details) = none := by
    have hp : Topic.twinPatchLead =
        '$' :: "iothub/twin/".toList ++ 'P' :: "ATCH/properties/desired/".toList := by
      decide
    rw [hp, twinResponseLead_eq, ← List.cons_append, List.append_assoc]
    exact afterLead_append_of_ne (by decide) _ _ _
  have hmethod : afterLead Topic.methodLead (Topic.twinResponseLead ++ details) = none := by
    have hr : Topic.twinResponseLead = '$' :: "iothub/".toList ++ 't' :: "win/res/".toList := by
      decide
    rw [methodLead_eq, hr, ← List.cons_append, List.append_assoc]
    exact afterLead_append_of_ne (by decide) _ _ _
  rw [route, afterLead_eq_none_iff.2 h, hpatch, hmethod, afterLead_eq_some_iff.2 rfl]

/-- An answer about the twin is read as one by every device. -/
theorem route_twinResponse (device : String) (details : List Char) :
    route (Topic.deviceLead device) (Topic.twinResponseLead ++ details) body packetId =
      twinResponse? details body := by
  refine route_twinResponse_of_not_prefix (afterLead_eq_none_iff.1 ?_)
  rw [twinResponseLead_eq, List.cons_append]
  exact afterLead_deviceLead device _

end Route

/-! ## Queries -/

theorem dropWhile_eq_self {c : Char} {text : List Char} (h : c ∉ text) :
    text.dropWhile (· = c) = text := by
  cases text with
  | nil => rfl
  | cons d rest =>
    have hne : ¬d = c := fun heq => h (heq ▸ List.mem_cons_self)
    rw [List.dropWhile_cons_of_neg (by simpa using hne)]

/-- **The pairs of a query are read back**, however they are spelled. -/
theorem queryPairs_of_spells {query : List Char} {pairs : List (String × String)}
    (h : Form.SpellsPairs query pairs) : queryPairs query = pairs := by
  rw [queryPairs, dropWhile_eq_self (h.not_mem (.inl rfl)),
    dropWhile_eq_self (h.not_mem (.inr rfl)), Form.decodePairs_of_spells h]

/-- So they are with a question mark before them. -/
theorem queryPairs_question_of_spells {query : List Char} {pairs : List (String × String)}
    (h : Form.SpellsPairs query pairs) : queryPairs ('?' :: query) = pairs := by
  rw [queryPairs, List.dropWhile_cons_of_neg (by decide), List.dropWhile_cons_of_pos (by decide),
    dropWhile_eq_self (h.not_mem (.inr rfl)), Form.decodePairs_of_spells h]

theorem queryPairs_encodePairs (pairs : List (String × String)) :
    queryPairs (Form.encodePairs pairs) = pairs :=
  queryPairs_of_spells (Form.spellsPairs_encodePairs pairs)

theorem queryPairs_question (pairs : List (String × String)) :
    queryPairs ('?' :: Form.encodePairs pairs) = pairs :=
  queryPairs_question_of_spells (Form.spellsPairs_encodePairs pairs)

end HubLink.Mqtt
