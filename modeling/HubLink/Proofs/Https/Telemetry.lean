import HubLink.Proofs.Https.Headers

/-! # Telemetry over HTTPS

What becomes of the properties of a message that goes to the hub in headers and comes from it in the
same headers. The message arrives with all its properties, keys in lower case, exactly if no two of
its keys differ in case only and all its values are of ASCII characters (`carried_of_headers`). The
writer asks for neither: keys that differ in case only share a header, which holds the value that
happened to be written last. -/

namespace HubLink

/-- A message that is put together step by step. -/
inductive Message.IsBuilt : Message → Prop
  | start : IsBuilt .empty
  | body {m : Message} (h : IsBuilt m) (body : List UInt8) : IsBuilt (m.withBody body)
  | property {m : Message} (h : IsBuilt m) (key value : String) :
      IsBuilt (m.withProperty key value)
  | messageId {m : Message} (h : IsBuilt m) (id : String) : IsBuilt (m.withMessageId id)
  | contentType {m : Message} (h : IsBuilt m) (type : String) : IsBuilt (m.withContentType type)
  | contentEncoding {m : Message} (h : IsBuilt m) (encoding : String) :
      IsBuilt (m.withContentEncoding encoding)

namespace Https

open Text

/-- **Every system property that a message can be given has a header.** -/
theorem exists_header {m : Message} (h : m.IsBuilt) {key value : String}
    (hkey : m.systemProperties.get? key = some value) : ∃ name, (key, name) ∈ systemHeaders := by
  have hset {m : Message} {k v : String}
      (ih : m.systemProperties.get? key = some value → ∃ name, (key, name) ∈ systemHeaders)
      (hk : ∃ name, (k, name) ∈ systemHeaders)
      (hkey : (m.withSystemProperty k v).systemProperties.get? key = some value) :
      ∃ name, (key, name) ∈ systemHeaders := by
    rw [Message.withSystemProperty, SortedMap.get?_insert] at hkey
    split at hkey
    · rename_i heq
      exact heq ▸ hk
    · exact ih hkey
  induction h with
  | start => cases hkey
  | body _ _ ih => exact ih hkey
  | property _ _ _ ih => exact ih hkey
  | messageId _ _ ih => exact hset ih ⟨"iothub-messageid", by decide⟩ hkey
  | contentType _ _ ih => exact hset ih ⟨"iothub-contenttype", by decide⟩ hkey
  | contentEncoding _ _ ih => exact hset ih ⟨"iothub-contentencoding", by decide⟩ hkey

/-! ## The headers of a message -/

/-- Names and values of the headers of a message, in the order in which they are written. -/
def pairs (m : Message) (listed : List (String × String)) : List (String × String) :=
  systemPairs m ++ listed.map propertyPair

section Pairs

variable {m : Message} {listed : List (String × String)} {name value : String}

theorem mem_systemPairs_iff :
    (name, value) ∈ systemPairs m ↔
      ∃ key, (key, name) ∈ systemHeaders ∧ m.systemProperties.get? key = some value := by
  simp only [systemPairs, List.mem_filterMap, Option.map_eq_some_iff, Prod.mk.injEq]
  constructor
  · rintro ⟨⟨key, name⟩, hmem, value, hget, rfl, rfl⟩
    exact ⟨key, hmem, hget⟩
  · rintro ⟨key, hmem, hget⟩
    exact ⟨(key, name), hmem, value, hget, rfl, rfl⟩

/-- The header of an application property is none of the system's. -/
theorem ne_of_mem_systemHeaders {key : String} (h : (key, name) ∈ systemHeaders) (k : String) :
    name ≠ propertyLead ++ k := by
  rintro rfl
  have hnone := afterLead_of_mem_systemHeaders h
  rw [String.toList_append, afterLead_eq_some_iff.2 rfl] at hnone
  cases hnone

theorem append_lead_inj {k k' : String} (h : propertyLead ++ k = propertyLead ++ k') : k = k' := by
  rw [← String.toList_inj] at h ⊢
  simpa using h

/-- A header with the name of a system property comes from it. -/
theorem system_of_mem_pairs {key : String} (hname : (key, name) ∈ systemHeaders)
    (h : (name, value) ∈ pairs m listed) : m.systemProperties.get? key = some value := by
  rcases List.mem_append.1 h with h | h
  · obtain ⟨key', hname', hget⟩ := mem_systemPairs_iff.1 h
    obtain rfl := (Prod.mk.inj (eq_of_mem_systemHeaders hname hname' (.inr rfl))).1
    exact hget
  · obtain ⟨p, -, hp⟩ := List.mem_map.1 h
    exact absurd (Prod.mk.inj hp).1.symm (ne_of_mem_systemHeaders hname _)

/-- A header with the name of an application property comes from one with that key in lower case. -/
theorem property_of_mem_pairs {key : String} (h : (propertyLead ++ key, value) ∈ pairs m listed) :
    ∃ k, (k, value) ∈ listed ∧ lowerCase k = key := by
  rcases List.mem_append.1 h with h | h
  · obtain ⟨key', hname, -⟩ := mem_systemPairs_iff.1 h
    exact absurd rfl (ne_of_mem_systemHeaders hname _)
  · obtain ⟨⟨k, v⟩, hp, heq⟩ := List.mem_map.1 h
    obtain ⟨hk, rfl⟩ := Prod.mk.inj heq
    exact ⟨k, hp, append_lead_inj hk⟩

theorem mem_pairs_of_property {key : String} (h : (key, value) ∈ listed) :
    (propertyLead ++ lowerCase key, value) ∈ pairs m listed :=
  List.mem_append_right _ (List.mem_map.2 ⟨(key, value), h, rfl⟩)

end Pairs

/-! ## What makes the difference -/

/-- No two keys of application properties are the same in lower case. -/
def TellsApart (m : Message) : Prop :=
  ∀ k k' v v', m.properties.get? k = some v → m.properties.get? k' = some v' →
    lowerCase k = lowerCase k' → k = k'

/-- Keys that are the same in lower case hold the same value. -/
def Agrees (m : Message) : Prop :=
  ∀ k k' v v', m.properties.get? k = some v → m.properties.get? k' = some v' →
    lowerCase k = lowerCase k' → v = v'

/-- All values are of ASCII characters. -/
structure IsLegible (m : Message) : Prop where
  property : ∀ key value, m.properties.get? key = some value → IsAscii value
  system : ∀ key value, m.systemProperties.get? key = some value → IsAscii value

/-- **A notification conveys a message**: it has all its properties and no others, under the keys in
lower case. -/
structure Conveys (m : Message) (n : Notification) : Prop where
  system : n.message.systemProperties = m.systemProperties
  property : ∀ key value, m.properties.get? key = some value →
    n.message.properties.get? (lowerCase key) = some value
  only : ∀ key value, n.message.properties.get? key = some value →
    ∃ k, m.properties.get? k = some value ∧ lowerCase k = key
  size : n.message.properties.size = m.properties.size

/-- Keys are told apart exactly if none is listed twice in lower case. -/
theorem tellsApart_iff_nodup {m : Message} :
    TellsApart m ↔ (m.properties.keys.map lowerCase).Nodup := by
  rw [List.nodup_map_iff_inj_on m.properties.keys_nodup]
  simp only [SortedMap.mem_keys, Option.isSome_iff_exists]
  constructor
  · rintro h k ⟨v, hk⟩ k' ⟨v', hk'⟩ heq
    exact h k k' v v' hk hk' heq
  · exact fun h k k' v v' hk hk' heq => h k ⟨v, hk⟩ k' ⟨v', hk'⟩ heq

/-- **Nothing collapses exactly if keys are told apart**, where the keys that are read are those of
the message in lower case. -/
theorem size_eq_iff {m : Message} {read : Properties}
    (hkeys : ∀ key, key ∈ read.keys ↔ key ∈ m.properties.keys.map lowerCase) :
    read.size = m.properties.size ↔ TellsApart m := by
  have hsize (properties : Properties) : properties.size = properties.keys.length :=
    (List.length_map _).symm
  have hlength : (m.properties.keys.map lowerCase).length = m.properties.keys.length :=
    List.length_map _
  rw [tellsApart_iff_nodup, hsize, hsize, ← hlength]
  constructor
  · intro heq
    have hsub : read.keys.Subperm (m.properties.keys.map lowerCase) :=
      List.subperm_of_subset read.keys_nodup fun key hkey => (hkeys key).1 hkey
    exact (hsub.perm_of_length_le heq.ge).nodup_iff.1 read.keys_nodup
  · intro hnodup
    exact ((List.perm_ext_iff_of_nodup read.keys_nodup hnodup).2 hkeys).length_eq

/-- What is read under the keys in lower case has these keys. -/
theorem mem_keys_iff {m : Message} {read : Properties}
    (hproperty : ∀ key value, m.properties.get? key = some value →
      read.get? (lowerCase key) = some value)
    (honly : ∀ key value, read.get? key = some value →
      ∃ k, m.properties.get? k = some value ∧ lowerCase k = key) (key : String) :
    key ∈ read.keys ↔ key ∈ m.properties.keys.map lowerCase := by
  rw [SortedMap.mem_keys, Option.isSome_iff_exists, List.mem_map]
  simp only [SortedMap.mem_keys, Option.isSome_iff_exists]
  constructor
  · rintro ⟨value, hvalue⟩
    obtain ⟨k, hk, hkey⟩ := honly key value hvalue
    exact ⟨k, ⟨value, hk⟩, hkey⟩
  · rintro ⟨k, ⟨value, hk⟩, rfl⟩
    exact ⟨value, hproperty k value hk⟩

section Carrying

variable {m : Message} {listed : List (String × String)} {hs : Headers}

/-- The headers that were written, read under a name, for application properties listed in any
order. -/
theorem get?_property_of_ok (hlisted : listed.Perm m.properties.entries)
    (hok : headersInOrder m listed = .ok hs) {key value : String}
    (h : hs.get? (propertyLead ++ key) = some value) :
    ∃ k, m.properties.get? k = some value ∧ lowerCase k = key := by
  obtain ⟨-, -, rfl⟩ := headersInOrder_eq_ok_iff.1 hok
  obtain ⟨k, hk, hkey⟩ := property_of_mem_pairs (SortedMap.mem_of_get?_ofList h)
  exact ⟨k, SortedMap.get?_eq_some_iff.2 (hlisted.mem_iff.1 hk), hkey⟩

theorem exists_get?_property_of_ok (hlisted : listed.Perm m.properties.entries)
    (hok : headersInOrder m listed = .ok hs) {key value : String}
    (h : m.properties.get? key = some value) :
    ∃ text, hs.get? (propertyLead ++ lowerCase key) = some text := by
  obtain ⟨-, -, rfl⟩ := headersInOrder_eq_ok_iff.1 hok
  have hmem : (key, value) ∈ listed := hlisted.mem_iff.2 (SortedMap.get?_eq_some_iff.1 h)
  exact SortedMap.exists_get?_ofList (mem_pairs_of_property (m := m) hmem)

theorem get?_system_of_ok (hok : headersInOrder m listed = .ok hs) {key name : String}
    (hname : (key, name) ∈ systemHeaders) : hs.get? name = m.systemProperties.get? key := by
  obtain ⟨-, -, rfl⟩ := headersInOrder_eq_ok_iff.1 hok
  refine Option.ext fun value => ⟨fun h => ?_, fun h => ?_⟩
  · exact system_of_mem_pairs hname (SortedMap.mem_of_get?_ofList h)
  · have hmem : (name, value) ∈ pairs m listed :=
      List.mem_append_left _ (mem_systemPairs_iff.2 ⟨key, hname, h⟩)
    obtain ⟨text, htext⟩ := SortedMap.exists_get?_ofList hmem
    have hsame := system_of_mem_pairs hname (SortedMap.mem_of_get?_ofList htext)
    rw [h] at hsame
    rw [Option.some.inj hsame]
    exact htext

/-- Only values that may stand there were written. -/
theorem isValue_of_ok (hok : headersInOrder m listed = .ok hs) {name value : String}
    (h : hs.get? name = some value) : IsValue value := by
  obtain ⟨hsystem, hproperties, rfl⟩ := headersInOrder_eq_ok_iff.1 hok
  rcases List.mem_append.1 (SortedMap.mem_of_get?_ofList h) with h | h
  · obtain ⟨key, hmem, hget⟩ := mem_systemPairs_iff.1 h
    exact hsystem _ hmem value hget
  · obtain ⟨p, hp, heq⟩ := List.mem_map.1 h
    obtain ⟨-, rfl⟩ := Prod.mk.inj heq
    exact (hproperties p hp).value

/-! ## Conveying -/

/-- **A message whose keys are told apart and whose values are legible is conveyed.** -/
theorem conveys_of_tellsApart (built : m.IsBuilt) (hlisted : listed.Perm m.properties.entries)
    (hok : headersInOrder m listed = .ok hs) {r : HttpResponse} (hr : r.Bears hs)
    (hkeys : TellsApart m) (hvalues : IsLegible m) : Conveys m r.notification := by
  have hlegal : ∀ name value, hs.get? name = some value → IsValue value :=
    fun _ _ => isValue_of_ok hok
  have hproperty {key value : String} (h : m.properties.get? key = some value) :
      r.notification.message.properties.get? (lowerCase key) = some value := by
    obtain ⟨text, htext⟩ := exists_get?_property_of_ok hlisted hok h
    obtain ⟨k, hk, hkey⟩ := get?_property_of_ok hlisted hok htext
    obtain rfl := hkeys k key text value hk h hkey
    obtain rfl := Option.some.inj (hk.symm.trans h)
    exact (hr.get?_properties_iff hlegal).2 ⟨htext, hvalues.property k text h⟩
  have honly {key value : String}
      (h : r.notification.message.properties.get? key = some value) :
      ∃ k, m.properties.get? k = some value ∧ lowerCase k = key :=
    get?_property_of_ok hlisted hok ((hr.get?_properties_iff hlegal).1 h).1
  refine ⟨?_, fun _ _ => hproperty, fun _ _ => honly, (size_eq_iff ?_).2 hkeys⟩
  · refine SortedMap.ext_get? fun key => Option.ext fun value => ?_
    rw [hr.get?_systemProperties_iff hlegal]
    constructor
    · rintro ⟨name, hname, hget, -⟩
      rwa [get?_system_of_ok hok hname] at hget
    · intro hget
      obtain ⟨name, hname⟩ := exists_header built hget
      exact ⟨name, hname, by rwa [get?_system_of_ok hok hname], hvalues.system key value hget⟩
  · exact mem_keys_iff (fun _ _ => hproperty) fun _ _ => honly

/-- **A message that is conveyed has keys that are told apart and legible values.** -/
theorem tellsApart_of_conveys (hok : headersInOrder m listed = .ok hs) {r : HttpResponse}
    (hr : r.Bears hs) (h : Conveys m r.notification) : TellsApart m ∧ IsLegible m := by
  have hlegal : ∀ name value, hs.get? name = some value → IsValue value :=
    fun _ _ => isValue_of_ok hok
  refine ⟨(size_eq_iff (mem_keys_iff h.property h.only)).1 h.size, ?_, ?_⟩
  · intro key value hget
    exact ((hr.get?_properties_iff hlegal).1 (h.property key value hget)).2
  · intro key value hget
    rw [← h.system] at hget
    obtain ⟨-, -, -, hascii⟩ := (hr.get?_systemProperties_iff hlegal).1 hget
    exact hascii

/-! ## The order of writing -/

/-- Keys that agree write the same headers in any order. -/
theorem ok_of_agrees (hlisted : listed.Perm m.properties.entries)
    (hok : headersInOrder m listed = .ok hs) (hagree : Agrees m) {listed' : List (String × String)}
    (hlisted' : listed'.Perm m.properties.entries) : headersInOrder m listed' = .ok hs := by
  obtain ⟨hsystem, hproperties, rfl⟩ := headersInOrder_eq_ok_iff.1 hok
  have hperm : listed.Perm listed' := hlisted.trans hlisted'.symm
  refine headersInOrder_eq_ok_iff.2
    ⟨hsystem, fun p hp => hproperties p (hperm.mem_iff.2 hp), ?_⟩
  refine SortedMap.ofList_eq_of_mem_iff (fun name x y hx hy => ?_) fun e => ?_
  · -- Two headers of one name are of the system both, or of the application both.
    rcases List.mem_append.1 hx with hsys | happ
    · obtain ⟨key, hname, hget⟩ := mem_systemPairs_iff.1 hsys
      exact Option.some.inj (hget.symm.trans (system_of_mem_pairs hname hy))
    · obtain ⟨⟨k, v⟩, hk, heq⟩ := List.mem_map.1 happ
      obtain ⟨rfl, rfl⟩ := Prod.mk.inj heq
      obtain ⟨k', hk', hlower⟩ := property_of_mem_pairs hy
      have hget {k v : String} (h : (k, v) ∈ listed) : m.properties.get? k = some v :=
        SortedMap.get?_eq_some_iff.2 (hlisted.mem_iff.1 h)
      exact hagree k k' v y (hget hk) (hget hk') hlower.symm
  · exact ((hperm.map propertyPair).append_left (systemPairs m)).mem_iff

/-- A property that is listed last is in its header. -/
theorem get?_of_last {key value : String}
    (hok : headersInOrder m (listed ++ [(key, value)]) = .ok hs) :
    hs.get? (propertyLead ++ lowerCase key) = some value := by
  obtain ⟨-, -, rfl⟩ := headersInOrder_eq_ok_iff.1 hok
  rw [List.map_append, ← List.append_assoc, List.map_singleton, SortedMap.ofList_concat,
    SortedMap.get?_insert]
  exact if_pos rfl

/-- If every order writes the same headers, then keys agree. -/
theorem agrees_of_ok
    (hsame : ∀ listed, listed.Perm m.properties.entries → headersInOrder m listed = .ok hs) :
    Agrees m := by
  intro k k' v v' hk hk' heq
  have hlast {k v : String} (hget : m.properties.get? k = some v) :
      hs.get? (propertyLead ++ lowerCase k) = some v := by
    have hmem : (k, v) ∈ m.properties.entries := SortedMap.get?_eq_some_iff.1 hget
    refine get?_of_last (hsame (m.properties.entries.erase (k, v) ++ [(k, v)]) ?_)
    exact (List.perm_append_singleton _ _).trans (List.perm_cons_erase hmem).symm
  have hfirst := hlast hk
  rw [heq, hlast hk'] at hfirst
  exact (Option.some.inj hfirst).symm

end Carrying

/-- **What the headers of a message are worth.** -/
structure Carried (m : Message) (hs : Headers) : Prop where
  /-- A response with these headers conveys the message exactly if its keys are told apart and its
  values are legible. -/
  conveys : ∀ r : HttpResponse, r.Bears hs →
    (Conveys m r.notification ↔ TellsApart m ∧ IsLegible m)
  /-- The properties may be listed in any order. -/
  accepted : ∀ listed, listed.Perm m.properties.entries → ∃ hs', headersInOrder m listed = .ok hs'
  /-- The order makes no difference exactly if keys that are the same in lower case hold the same. -/
  ordered : (∀ listed, listed.Perm m.properties.entries → headersInOrder m listed = .ok hs) ↔
    Agrees m

/-- **What the headers of a message are worth**, whichever its properties and the order in which a
map lists them. -/
theorem carried_of_headers {m : Message} (built : m.IsBuilt) {listed : List (String × String)}
    (hlisted : listed.Perm m.properties.entries) {hs : Headers}
    (hok : headersInOrder m listed = .ok hs) : Carried m hs where
  conveys r hr := by
    constructor
    · exact tellsApart_of_conveys hok hr
    · rintro ⟨hkeys, hvalues⟩
      exact conveys_of_tellsApart built hlisted hok hr hkeys hvalues
  accepted listed' hlisted' := by
    obtain ⟨hsystem, hproperties, -⟩ := headersInOrder_eq_ok_iff.1 hok
    have hperm : listed.Perm listed' := hlisted.trans hlisted'.symm
    exact ⟨_, headersInOrder_eq_ok_iff.2
      ⟨hsystem, fun p hp => hproperties p (hperm.mem_iff.2 hp), rfl⟩⟩
  ordered := ⟨agrees_of_ok, fun hagree _ => ok_of_agrees hlisted hok hagree⟩

/-- A message id and a property, both legible. -/
theorem carried_reading :
    let m := (Message.empty.withProperty "Floor" "3").withMessageId "m1"
    let hs : Headers := .ofList [("iothub-messageid", "m1"), ("iothub-app-floor", "3")]
    m.IsBuilt ∧ [("Floor", "3")].Perm m.properties.entries ∧
      headersInOrder m [("Floor", "3")] = .ok hs ∧ Carried m hs := by
  have built : ((Message.empty.withProperty "Floor" "3").withMessageId "m1").IsBuilt :=
    (Message.IsBuilt.start.property _ _).messageId _
  exact ⟨built, .refl _, rfl, carried_of_headers built (.refl _) rfl⟩

/-- Not all messages that have headers are conveyed by them: of two keys that differ in case only
one is lost. -/
theorem not_conveyed_of_case :
    ¬∀ m : Message, m.IsBuilt → ∀ hs, messageHeaders m = .ok hs →
      ∀ r : HttpResponse, r.Bears hs → Conveys m r.notification := by
  intro h
  have built : ((Message.empty.withProperty "Key" "1").withProperty "key" "2").IsBuilt :=
    (Message.IsBuilt.start.property _ _).property _ _
  have hconveys := h _ built (.ofList [("iothub-app-key", "2")]) rfl
    { status := 200, headers := [("iothub-app-key", [0x32])], body := [] } (.refl _)
  exact absurd hconveys.size (by decide)

end Https

end HubLink
