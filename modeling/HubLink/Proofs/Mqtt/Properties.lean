import HubLink.Proofs.Collection.Reading
import HubLink.Proofs.Mqtt.Route

/-! # Properties in topics

A message to the device carries its properties in its topic. Whoever writes them there and whoever
reads them agree for all keys and values (`route_withProperties`): no character in them is mistaken
for one that tells pairs apart, the properties of the system are told from those of the application
by their keys, and neither side depends on the order in which a map lists what it holds. -/

namespace HubLink.Mqtt

open Text

/-! ## The order of a map -/

namespace Topic

/-- The order of the topic compares keys first and values of equal keys then. -/
theorem isBefore_iff {a b : String × String} :
    isBefore a b = true ↔ a.1 < b.1 ∨ a.1 = b.1 ∧ a.2 ≤ b.2 := by
  simp [isBefore]

theorem isBefore_total (a b : String × String) : (isBefore a b || isBefore b a) = true := by
  rw [Bool.or_eq_true, isBefore_iff, isBefore_iff]
  by_cases hlt : a.1 < b.1
  · exact .inl (.inl hlt)
  · by_cases hgt : b.1 < a.1
    · exact .inr (.inl hgt)
    · have heq := StrictTotal.connected hlt hgt
      rcases String.le_total a.2 b.2 with hle | hle
      · exact .inl (.inr ⟨heq, hle⟩)
      · exact .inr (.inr ⟨heq.symm, hle⟩)

theorem isBefore_trans (a b c : String × String) (hab : isBefore a b = true)
    (hbc : isBefore b c = true) : isBefore a c = true := by
  rw [isBefore_iff] at hab hbc ⊢
  rcases hab with hab | ⟨heq, hab⟩
  · rcases hbc with hbc | ⟨heq, -⟩
    · exact .inl (StrictTotal.trans hab hbc)
    · exact .inl (heq ▸ hab)
  · rcases hbc with hbc | ⟨heq', hbc⟩
    · exact .inl (heq ▸ hbc)
    · exact .inr ⟨heq.trans heq', String.le_trans hab hbc⟩

theorem isBefore_antisymm {a b : String × String} (hab : isBefore a b = true)
    (hba : isBefore b a = true) : a = b := by
  rw [isBefore_iff] at hab hba
  rcases hab with hab | ⟨heq, hab⟩
  · rcases hba with hba | ⟨heq, -⟩
    · exact absurd (StrictTotal.trans hab hba) (StrictTotal.irrefl _)
    · exact absurd (heq ▸ hab) (StrictTotal.irrefl _)
  · rcases hba with hba | ⟨-, hba⟩
    · exact absurd (heq ▸ hba) (StrictTotal.irrefl _)
    · exact Prod.ext heq (String.le_antisymm hab hba)

/-- **The order in which properties are listed makes no difference to the topic.** -/
theorem mergeSort_eq_properties {m : Message} {listed : List (String × String)}
    (h : listed.Perm (m.systemProperties.entries ++ m.properties.entries)) :
    listed.mergeSort isBefore = properties m := by
  -- Both are sorted permutations of the same pairs.
  refine List.Perm.eq_of_pairwise (fun a b _ _ => isBefore_antisymm)
    (List.pairwise_mergeSort isBefore_trans isBefore_total _)
    (List.pairwise_mergeSort isBefore_trans isBefore_total _) ?_
  exact (List.mergeSort_perm _ _).trans (h.trans (List.mergeSort_perm _ _).symm)

end Topic

/-! ## Properties of the system and of the application -/

/-- Keys of system properties are told by how they start. -/
theorem isSystemKey_iff {key : String} : isSystemKey key = true ↔ systemKeyLead <+: key.toList := by
  rw [isSystemKey, Option.isSome_iff_ne_none, ne_eq, afterLead_eq_none_iff, Classical.not_not]

/-- **Properties read in any order make up the message they were listed from**, if its keys tell
those of the system from those of the application. -/
theorem messageOf_of_perm {m : Message}
    (hsystem : ∀ key ∈ m.systemProperties.keys, systemKeyLead <+: key.toList)
    (happlication : ∀ key ∈ m.properties.keys, ¬systemKeyLead <+: key.toList)
    {read : List (String × String)}
    (h : read.Perm (m.systemProperties.entries ++ m.properties.entries)) (body : List UInt8) :
    messageOf body read = m.withBody body := by
  have htold {p : String × String} (hp : p ∈ m.systemProperties.entries) :
      isSystemKey p.1 = true :=
    isSystemKey_iff.2 (hsystem p.1 (List.mem_map_of_mem hp))
  have hnot {p : String × String} (hp : p ∈ m.properties.entries) : isSystemKey p.1 = false := by
    rw [← Bool.not_eq_true, isSystemKey_iff]
    exact happlication p.1 (List.mem_map_of_mem hp)
  -- Either half of what is read is the entries of one map, in some order.
  have hkeptSystem : (read.filter fun p => isSystemKey p.1).Perm m.systemProperties.entries := by
    have hall : m.systemProperties.entries.filter (fun p => isSystemKey p.1) =
        m.systemProperties.entries := List.filter_eq_self.2 fun p => htold
    have hnone : m.properties.entries.filter (fun p => isSystemKey p.1) = [] :=
      List.filter_eq_nil_iff.2 fun p hp => by simp [hnot hp]
    have hfilter := h.filter fun p => isSystemKey p.1
    rwa [List.filter_append, hall, hnone, List.append_nil] at hfilter
  have hkept : (read.filter fun p => !isSystemKey p.1).Perm m.properties.entries := by
    have hall : m.properties.entries.filter (fun p => !isSystemKey p.1) = m.properties.entries :=
      List.filter_eq_self.2 fun p hp => by simp [hnot hp]
    have hnone : m.systemProperties.entries.filter (fun p => !isSystemKey p.1) = [] :=
      List.filter_eq_nil_iff.2 fun p hp => by simp [htold hp]
    have hfilter := h.filter fun p => !isSystemKey p.1
    rwa [List.filter_append, hall, hnone, List.nil_append] at hfilter
  rw [messageOf, SortedMap.ofList_of_perm hkept, SortedMap.ofList_of_perm hkeptSystem]
  rfl

/-- **A message to the device arrives with all its properties**, whatever characters are in their
keys and values, and with its packet id as the tag to settle it by. The topic does not depend on the
order in which the properties are listed, and what is read from it does not depend on the order in
which the pairs are gone through. -/
theorem route_withProperties {m : Message}
    (hsystem : ∀ key ∈ m.systemProperties.keys, systemKeyLead <+: key.toList)
    (happlication : ∀ key ∈ m.properties.keys, ¬systemKeyLead <+: key.toList)
    (lead : Topic) (body : List UInt8) (packetId : Option Nat) :
    route lead (Topic.withProperties lead m) body packetId =
        some (.notification {
          kind := .cloudToDevice
          message := m.withBody body
          tag := packetId.map fun id => ⟨String.ofList (decimal id)⟩ }) ∧
      (∀ listed : List (String × String),
        listed.Perm (m.systemProperties.entries ++ m.properties.entries) →
          lead ++ Form.encodePairs (listed.mergeSort Topic.isBefore) =
            Topic.withProperties lead m) ∧
      ∀ read : List (String × String),
        read.Perm (queryPairs (Form.encodePairs (Topic.properties m))) →
          messageOf body read = m.withBody body := by
  have hread : ∀ read : List (String × String),
      read.Perm (queryPairs (Form.encodePairs (Topic.properties m))) →
        messageOf body read = m.withBody body := by
    intro read hperm
    rw [queryPairs_encodePairs] at hperm
    exact messageOf_of_perm hsystem happlication (hperm.trans (List.mergeSort_perm _ _)) body
  refine ⟨?_, fun listed hlisted => ?_, hread⟩
  · rw [Topic.withProperties, route_append, deviceMessage, hread _ (List.Perm.refl _)]
  · rw [Topic.mergeSort_eq_properties hlisted, Topic.withProperties]

/-! ## An order for the pump -/

namespace Pump

/-- An order whose properties are full of the characters that queries are made of. -/
def order : Message :=
  ((Message.empty.withMessageId "a&b=c/?").withProperty "" "50% + 1").withProperty "größe" ""

end Pump

/-- The order arrives as it was sent. -/
theorem route_pump_order :
    route (Topic.deviceLead "pump") (Topic.withProperties (Topic.deviceLead "pump") Pump.order)
        [0x31] (some 7) =
      some (.notification {
        kind := .cloudToDevice
        message := Pump.order.withBody [0x31]
        tag := some ⟨"7"⟩ }) :=
  (route_withProperties (by decide +kernel) (by decide +kernel) _ _ (some 7)).1

end HubLink.Mqtt
