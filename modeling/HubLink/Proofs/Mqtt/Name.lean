import HubLink.Mqtt.Link
import HubLink.Proofs.Retry.Policy
import HubLink.Proofs.Text.Form

/-! # Names of topics

Which messages can be published. The properties of a message are written into its topic in form
encoding, which writes a space as a plus sign, and no name of a topic has a plus sign. So telemetry
is published only if no key and no value of its properties has a space; any other is refused for
good (`Link.send_telemetry_illegalTopic_iff`). -/

namespace HubLink.Mqtt

open Text

namespace Topic

/-- The properties in the order of the topic are those of the system and of the application. -/
theorem mem_properties {m : Message} {p : String × String} :
    p ∈ properties m ↔
      m.systemProperties.get? p.1 = some p.2 ∨ m.properties.get? p.1 = some p.2 := by
  rw [properties, (List.mergeSort_perm _ _).mem_iff, List.mem_append,
    SortedMap.get?_eq_some_iff, SortedMap.get?_eq_some_iff]

/-- A topic that is neither empty nor too long is a name unless it has a wildcard. -/
theorem isName_iff {t : Topic} (hne : t ≠ []) (hlength : (Utf8.encode t).length ≤ maxLength) :
    isName t ↔ '+' ∉ t ∧ '#' ∉ t := by
  simp [isName, hne, hlength]

/-- What topics of telemetry start with has no wildcard unless the device has one. -/
theorem not_mem_telemetryLead {device : String} {c : Char} (hdevice : c ∉ device.toList)
    (hc : c = '+' ∨ c = '#') : c ∉ telemetryLead device := by
  unfold telemetryLead
  rw [List.mem_append, List.mem_append, not_or, not_or]
  obtain rfl | rfl := hc
  · exact ⟨⟨by simp, hdevice⟩, by simp⟩
  · exact ⟨⟨by simp, hdevice⟩, by simp⟩

/-- A message with a space among its properties. -/
def HasSpace (m : Message) : Prop :=
  ∃ key value, (m.systemProperties.get? key = some value ∨ m.properties.get? key = some value) ∧
    (' ' ∈ key.toList ∨ ' ' ∈ value.toList)

/-- **The topic of telemetry is a name** exactly if no property has a space. -/
theorem isName_telemetry_iff {device : String} (hplus : '+' ∉ device.toList)
    (hhash : '#' ∉ device.toList) {m : Message}
    (hlength : (Utf8.encode (withProperties (telemetryLead device) m)).length ≤ maxLength) :
    isName (withProperties (telemetryLead device) m) ↔ ¬HasSpace m := by
  have hlead : telemetryLead device ≠ [] := by
    unfold telemetryLead
    simp
  have hne : withProperties (telemetryLead device) m ≠ [] :=
    List.append_ne_nil_of_left_ne_nil hlead _
  -- Wildcards can only come from the properties, and of those only the plus sign is ever written.
  rw [isName_iff hne hlength, withProperties, List.mem_append, List.mem_append,
    or_iff_right (not_mem_telemetryLead hplus (.inl rfl)),
    or_iff_right (not_mem_telemetryLead hhash (.inr rfl)),
    and_iff_left (Form.hash_not_mem_encodePairs _), Form.plus_mem_encodePairs]
  refine not_congr ⟨?_, ?_⟩
  · rintro ⟨⟨key, value⟩, hmem, hspace⟩
    exact ⟨key, value, mem_properties.1 hmem, hspace⟩
  · rintro ⟨key, value, hget, hspace⟩
    exact ⟨(key, value), mem_properties.2 hget, hspace⟩

end Topic

namespace Link

variable {l : Link} {m : Outbound} {topic : Topic} {isConfirmed : Bool}

/-- A message whose topic is no name is refused, whether or not the link is up and whatever writing
would come to. -/
theorem send_of_not_isName (htopic : l.topicOf m = .ok (topic, isConfirmed))
    (hname : Topic.isName topic = false) (w : Writing) :
    (l.send m w).2 = .error (illegalTopic w.complaint) := by
  unfold send
  rw [htopic]
  cases isConfirmed <;> simp [hname]

/-- Any other is written, if that can be done. -/
theorem send_of_isName (htopic : l.topicOf m = .ok (topic, isConfirmed))
    (hname : Topic.isName topic = true) (w : Writing) :
    ∃ packet, (l.send m w).2 = l.write packet w.result := by
  unfold send
  rw [htopic]
  cases isConfirmed with
  | false => exact ⟨.publish topic none m.message.body, by simp [hname]⟩
  | true =>
    -- Giving it a packet id does not change whether the link is up.
    have hassign : (l.assign m.id).1.isUp = l.isUp := rfl
    exact ⟨.publish topic (some (l.assign m.id).2) m.message.body, by simp [hname, write, hassign]⟩

/-- Where nothing hinders writing, handing over is refused because of the topic exactly if that is
no name. -/
theorem send_eq_illegalTopic_iff (htopic : l.topicOf m = .ok (topic, isConfirmed))
    (complaint : String) :
    (l.send m { complaint }).2 = .error (illegalTopic complaint) ↔ Topic.isName topic = false := by
  cases hname : Topic.isName topic with
  | false => exact iff_of_true (send_of_not_isName htopic hname _) rfl
  | true =>
    obtain ⟨packet, hsend⟩ := send_of_isName htopic hname { complaint }
    rw [hsend, write]
    cases l.isUp <;> simp [Except.map, notConnected, illegalTopic]

/-- A topic that is not legal is a failure that trying again does not cure. -/
theorem isTransient_illegalTopic (complaint : String) :
    (illegalTopic complaint).kind.isTransient = false := rfl

/-- **Telemetry is refused for good exactly if one of its properties has a space**, and then
whatever writing would come to. No policy lets a message be tried again whose topic is not
legal. -/
theorem send_telemetry_illegalTopic_iff (telemetry : m.kind = .telemetry)
    (hplus : '+' ∉ l.identity.device.toList) (hhash : '#' ∉ l.identity.device.toList)
    (hlength : (Utf8.encode (Topic.withProperties (Topic.telemetryLead l.identity.device)
      m.message)).length ≤ Topic.maxLength) :
    (∀ complaint, (l.send m { complaint }).2 = .error (illegalTopic complaint) ↔
        Topic.HasSpace m.message) ∧
      (Topic.HasSpace m.message → ∀ w, (l.send m w).2 = .error (illegalTopic w.complaint)) ∧
      ∀ (policy : RetryPolicy) (n : Nat) (complaint : String),
        policy.decide (illegalTopic complaint).kind n = .giveUp := by
  have htopic : l.topicOf m =
      .ok (Topic.withProperties (Topic.telemetryLead l.identity.device) m.message, true) := by
    rw [topicOf, telemetry]
  have hspace : Topic.isName (Topic.withProperties (Topic.telemetryLead l.identity.device)
      m.message) = false ↔ Topic.HasSpace m.message := by
    rw [← Bool.not_eq_true, Topic.isName_telemetry_iff hplus hhash hlength, Classical.not_not]
  refine ⟨fun complaint => (send_eq_illegalTopic_iff htopic complaint).trans hspace,
    fun h w => send_of_not_isName htopic (hspace.2 h) w, fun policy n complaint => ?_⟩
  exact policy.decide_of_not_isTransient (isTransient_illegalTopic complaint) n

end Link

/-! ## A reading that cannot be published -/

namespace Pump

/-- The link of a device. -/
def link : Link where
  identity := ⟨"hub", "pump"⟩
  credential := .fixed "SharedAccessSignature sr=hub&sig=s&se=1"
  options := {}

/-- A stream that takes every packet. -/
def wire : Writing where
  complaint := "not the name of a topic"

/-- A reading whose unit is written with a space. -/
def spaced : Outbound where
  id := 1
  kind := .telemetry
  message := Message.empty.withProperty "unit" "degree Celsius"

/-- The unit is the only property. -/
theorem properties_spaced : Topic.properties spaced.message = [("unit", "degree Celsius")] :=
  List.mergeSort_singleton _

theorem hasSpace_spaced : Topic.HasSpace spaced.message :=
  ⟨"unit", "degree Celsius", .inr rfl, .inr (by simp)⟩

theorem length_spaced :
    (Utf8.encode (Topic.withProperties (Topic.telemetryLead link.identity.device)
      spaced.message)).length ≤ Topic.maxLength := by
  rw [Topic.withProperties, properties_spaced]
  decide

end Pump

/-- **Not all telemetry can be published**: a device without wildcards in its name and a topic that
is short enough do not make the topic a name. -/
theorem Topic.not_isName_of_spaced :
    ¬∀ (device : String) (m : Message), '+' ∉ device.toList → '#' ∉ device.toList →
      (Utf8.encode (withProperties (telemetryLead device) m)).length ≤ maxLength →
      isName (withProperties (telemetryLead device) m) := by
  intro hall
  have hplus : '+' ∉ Pump.link.identity.device.toList := by simp [Pump.link]
  have hhash : '#' ∉ Pump.link.identity.device.toList := by simp [Pump.link]
  have hname := hall _ _ hplus hhash Pump.length_spaced
  rw [isName_telemetry_iff hplus hhash Pump.length_spaced] at hname
  exact hname Pump.hasSpace_spaced

/-- The reading is refused for good. -/
theorem Link.send_spaced_reading :
    (Pump.link.send Pump.spaced Pump.wire).2 = .error (illegalTopic Pump.wire.complaint) ∧
      (RetryPolicy.ofOptions {}).decide (illegalTopic Pump.wire.complaint).kind 0 = .giveUp := by
  obtain ⟨hrefused, -, hfinal⟩ := send_telemetry_illegalTopic_iff (l := Pump.link)
    (m := Pump.spaced) rfl (by simp [Pump.link]) (by simp [Pump.link]) Pump.length_spaced
  exact ⟨(hrefused _).2 Pump.hasSpace_spaced, hfinal _ 0 _⟩

end HubLink.Mqtt
