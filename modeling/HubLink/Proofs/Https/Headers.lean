import HubLink.Https.Header
import HubLink.Proofs.Collection.Reading
import HubLink.Proofs.Text.Percent

/-! # Properties in headers

A message to the hub carries its properties in headers of a request, and one to the device in those
of a response. What is written there and what is read do not match for all properties: keys are read
in lower case, so keys that differ in case only share a header, and values outside ASCII may be
written but are passed over by the reader. -/

namespace HubLink.Https

open Text

/-! ## Values -/

/-- A text of ASCII characters. -/
def IsAscii (s : String) : Prop := ∀ c ∈ s.toList, c.toNat < 128

/-- A value that may stand in a header. -/
def IsValue (s : String) : Prop := (Utf8.ofString s).all isValueOctet = true

theorem headerValue_eq_ok_iff {value text : String} :
    headerValue value = .ok text ↔ IsValue value ∧ text = value := by
  rw [headerValue, IsValue]
  split
  · rename_i h
    simp [h, eq_comm]
  · rename_i h
    simp [h]

/-- The octets of a text are those of ASCII exactly if its characters are. -/
theorem isAscii_iff {s : String} : IsAscii s ↔ ∀ b ∈ Utf8.ofString s, b.toNat < 128 := by
  constructor
  · intro h b hb
    obtain ⟨c, hc, hb⟩ := List.mem_flatMap.1 hb
    rw [utf8EncodeChar_of_ascii (h c hc), List.mem_singleton] at hb
    rw [hb, Utf8.toNat_octet (by have := h c hc; omega)]
    exact h c hc
  · intro h c hc
    obtain ⟨b, more, heq, hrange⟩ := Utf8.exists_utf8EncodeChar_eq_cons c
    have hmem : b ∈ String.utf8EncodeChar c := by simp [heq]
    have hb : b.toNat < 128 := h b (List.mem_flatMap.2 ⟨c, hc, hmem⟩)
    rw [(mem_utf8EncodeChar hb c).1 hmem]
    exact hb

theorem decodeFrom_encode {text : List Char} (h : ∀ c ∈ text, c.toNat < 128) :
    Utf8.decodeFrom none (Utf8.encode text) = some text := by
  induction text with
  | nil => rfl
  | cons c text ih =>
    have hc : c.toNat < 128 := h c (by simp)
    rw [Utf8.encode, List.flatMap_cons, utf8EncodeChar_of_ascii hc, List.singleton_append,
      Utf8.decodeFrom, Utf8.start_ofNat (by omega), if_pos (by omega)]
    simp only
    rw [← Utf8.encode, ih fun d hd => h d (List.mem_cons_of_mem _ hd), Char.ofNat_toNat]
    rfl

/-- A text of ASCII characters is read back from its octets. -/
theorem string?_ofString {s : String} (h : IsAscii s) : Utf8.string? (Utf8.ofString s) = some s := by
  rw [Utf8.string?, Utf8.decode?, Utf8.ofString, decodeFrom_encode h, Option.map_some,
    String.ofList_toList]

/-- **Of the values that may be written exactly those of ASCII characters are read.** -/
theorem valueText?_ofString_iff {value text : String} (hvalue : IsValue value) :
    HttpResponse.valueText? (Utf8.ofString value) = some text ↔ text = value ∧ IsAscii value := by
  have hall : ((Utf8.ofString value).all fun b => b = 0x09 || (0x20 ≤ b && b < 0x7f)) = true ↔
      IsAscii value := by
    rw [isAscii_iff, List.all_eq_true]
    rw [IsValue, List.all_eq_true] at hvalue
    refine forall₂_congr fun b hb => ?_
    have hoctet := hvalue b hb
    simp only [isValueOctet, Bool.or_eq_true, Bool.and_eq_true, decide_eq_true_eq, ← UInt8.toNat_inj,
      UInt8.le_iff_toNat_le, UInt8.lt_iff_toNat_lt, UInt8.reduceToNat, ne_eq] at hoctet ⊢
    omega
  rw [HttpResponse.valueText?]
  split
  · rename_i h
    rw [string?_ofString (hall.1 h), Option.some.injEq, eq_comm]
    exact (and_iff_left (hall.1 h)).symm
  · rename_i h
    simp [mt hall.2 h]

/-! ## Names -/

/-- A text in lower case. -/
def lowerCase (s : String) : String := String.ofList (s.toList.map Char.toLower)

/-- The header of an application property has its key in lower case. -/
theorem propertyHeader_eq {key name : String} (h : propertyHeader key = .ok name) :
    name = propertyLead ++ lowerCase key := by
  rw [propertyHeader] at h
  split at h
  · obtain rfl := Except.ok.inj h
    rw [← String.toList_inj, lowerCase]
    simp only [String.toList_ofList, String.toList_append, List.map_append]
    rfl
  · cases h

/-! ## Writing -/

/-- **An application property that has a header**: there is a name and a value for it. -/
structure IsCarried (p : String × String) : Prop where
  name : ∃ name, propertyHeader p.1 = .ok name
  value : IsValue p.2

/-- The header of an application property. -/
def propertyPair (p : String × String) : String × String := (propertyLead ++ lowerCase p.1, p.2)

/-- The headers of the system properties of a message. -/
def systemPairs (m : Message) : List (String × String) :=
  systemHeaders.filterMap fun e => (m.systemProperties.get? e.1).map (e.2, ·)

/-- What follows a step is reached exactly if the step succeeds. -/
theorem bind_eq_ok_iff {α β : Type} {x : Except Fault α} {f : α → Except Fault β} {b : β} :
    x >>= f = .ok b ↔ ∃ a, x = .ok a ∧ f a = .ok b := by
  cases x <;> simp [bind, Except.bind]

theorem map_eq_ok_iff {α β : Type} {x : Except Fault α} {f : α → β} {b : β} :
    x.map f = .ok b ↔ ∃ a, x = .ok a ∧ f a = b := by
  cases x <;> simp [Except.map]

theorem addPropertyHeader_eq_ok_iff (hs : Headers) (p : String × String) (hs' : Headers) :
    addPropertyHeader hs p = .ok hs' ↔
      IsCarried p ∧ hs' = hs.insert (propertyPair p).1 (propertyPair p).2 := by
  simp only [addPropertyHeader, bind_eq_ok_iff, headerValue_eq_ok_iff]
  constructor
  · rintro ⟨name, hname, value, ⟨hvalue, rfl⟩, hok⟩
    obtain rfl := propertyHeader_eq hname
    exact ⟨⟨⟨_, hname⟩, hvalue⟩, (Except.ok.inj hok).symm⟩
  · rintro ⟨⟨⟨name, hname⟩, hvalue⟩, rfl⟩
    obtain rfl := propertyHeader_eq hname
    exact ⟨_, hname, _, ⟨hvalue, rfl⟩, rfl⟩

theorem addSystemHeader_eq_ok_iff (m : Message) (hs : Headers) (e : String × String)
    (hs' : Headers) :
    addSystemHeader m hs e = .ok hs' ↔
      (∀ value, m.systemProperties.get? e.1 = some value → IsValue value) ∧
        hs' = ((m.systemProperties.get? e.1).map (e.2, ·)).elim hs
          fun pair => hs.insert pair.1 pair.2 := by
  rw [addSystemHeader]
  cases m.systemProperties.get? e.1 with
  | none => simp [eq_comm]
  | some value =>
    simp only [map_eq_ok_iff, headerValue_eq_ok_iff, Option.some.injEq, forall_eq', Option.map_some]
    constructor
    · rintro ⟨text, ⟨hvalue, rfl⟩, rfl⟩
      exact ⟨hvalue, rfl⟩
    · rintro ⟨hvalue, rfl⟩
      exact ⟨_, ⟨hvalue, rfl⟩, rfl⟩

/-- A fold succeeds exactly if each of its steps does. -/
theorem foldlM_eq_ok_iff {σ α : Type} {f : σ → α → Except Fault σ} {P : α → Prop} {g : σ → α → σ}
    (hf : ∀ s a s', f s a = .ok s' ↔ P a ∧ s' = g s a) {l : List α} {s s' : σ} :
    l.foldlM f s = .ok s' ↔ (∀ a ∈ l, P a) ∧ s' = l.foldl g s := by
  induction l generalizing s with
  | nil => simp [pure, Except.pure, eq_comm]
  | cons a l ih =>
    simp only [List.foldlM_cons, bind_eq_ok_iff, hf, List.forall_mem_cons, List.foldl_cons]
    constructor
    · rintro ⟨t, ⟨ha, rfl⟩, hl⟩
      obtain ⟨hall, heq⟩ := ih.1 hl
      exact ⟨⟨ha, hall⟩, heq⟩
    · rintro ⟨⟨ha, hall⟩, heq⟩
      exact ⟨_, ⟨ha, rfl⟩, ih.2 ⟨hall, heq⟩⟩

/-- Adding what some entries stand for, one after the other, adds what there is of it. -/
theorem foldl_elim_insert (f : String × String → Option (String × String))
    (entries : List (String × String)) (hs : Headers) :
    entries.foldl (fun hs e => (f e).elim hs fun pair => hs.insert pair.1 pair.2) hs =
      (entries.filterMap f).foldl (fun hs e => hs.insert e.1 e.2) hs := by
  rw [List.foldl_filterMap]
  congr
  funext hs e
  cases f e <;> rfl

theorem foldlM_addSystemHeader_iff {m : Message} {hs : Headers} :
    systemHeaders.foldlM (addSystemHeader m) .empty = .ok hs ↔
      (∀ e ∈ systemHeaders, ∀ value, m.systemProperties.get? e.1 = some value → IsValue value) ∧
        hs = .ofList (systemPairs m) := by
  rw [foldlM_eq_ok_iff (addSystemHeader_eq_ok_iff m),
    foldl_elim_insert fun e => (m.systemProperties.get? e.1).map (e.2, ·)]
  rfl

theorem foldlM_addPropertyHeader_iff {listed : List (String × String)} {hs hs' : Headers} :
    listed.foldlM addPropertyHeader hs = .ok hs' ↔
      (∀ p ∈ listed, IsCarried p) ∧
        hs' = (listed.map propertyPair).foldl (fun hs e => hs.insert e.1 e.2) hs := by
  rw [foldlM_eq_ok_iff addPropertyHeader_eq_ok_iff, List.foldl_map]

/-- **Writing the properties of a message succeeds exactly if each has a header**; later headers
replace earlier ones of the same name. -/
theorem headersInOrder_eq_ok_iff {m : Message} {listed : List (String × String)} {hs : Headers} :
    headersInOrder m listed = .ok hs ↔
      (∀ e ∈ systemHeaders, ∀ value, m.systemProperties.get? e.1 = some value → IsValue value) ∧
        (∀ p ∈ listed, IsCarried p) ∧ hs = .ofList (systemPairs m ++ listed.map propertyPair) := by
  rw [headersInOrder, bind_eq_ok_iff, SortedMap.ofList, List.foldl_append]
  simp only [foldlM_addSystemHeader_iff, foldlM_addPropertyHeader_iff]
  constructor
  · rintro ⟨_, ⟨hsystem, rfl⟩, hproperties, heq⟩
    exact ⟨hsystem, hproperties, heq⟩
  · rintro ⟨hsystem, hproperties, heq⟩
    exact ⟨_, ⟨hsystem, rfl⟩, hproperties, heq⟩

/-- The keys of system properties with headers and the names of these tell one another apart. -/
theorem eq_of_mem_systemHeaders {e e' : String × String} (he : e ∈ systemHeaders)
    (he' : e' ∈ systemHeaders) (h : e.1 = e'.1 ∨ e.2 = e'.2) : e = e' := by
  have hall : ∀ e ∈ systemHeaders, ∀ e' ∈ systemHeaders, e.1 = e'.1 ∨ e.2 = e'.2 → e = e' := by decide
  exact hall e he e' he' h

/-- No header of a system property starts as those of the application do. -/
theorem afterLead_of_mem_systemHeaders {e : String × String} (he : e ∈ systemHeaders) :
    afterLead propertyLead.toList e.2.toList = none := by
  have hall : ∀ e ∈ systemHeaders, afterLead propertyLead.toList e.2.toList = none := by decide
  exact hall e he

/-! ## Reading -/

namespace HttpResponse

/-- A response has these headers and no others, in any order. -/
def Bears (r : HttpResponse) (hs : Headers) : Prop :=
  r.headers.Perm (hs.entries.map fun h => (h.1, Utf8.ofString h.2))

theorem propertyOf?_eq_some_iff {header property : String × String} :
    propertyOf? header = some property ↔ header = (propertyLead ++ property.1, property.2) := by
  rw [propertyOf?, Option.map_eq_some_iff]
  constructor
  · rintro ⟨key, hkey, rfl⟩
    refine Prod.ext ?_ rfl
    rw [← String.toList_inj, afterLead_eq_some_iff.1 hkey]
    simp
  · rintro rfl
    exact ⟨property.1.toList, afterLead_eq_some_iff.2 (by simp), by simp⟩

theorem systemPropertyOf?_eq_some_iff {header property : String × String} :
    systemPropertyOf? header = some property ↔
      (property.1, header.1) ∈ systemHeaders ∧ property.2 = header.2 := by
  rw [systemPropertyOf?]
  constructor
  · intro h
    split at h
    · cases h
    · obtain ⟨e, he, rfl⟩ := Option.map_eq_some_iff.1 h
      have hname : e.2 = header.1 := by simpa using List.find?_some he
      exact ⟨hname ▸ List.mem_of_find?_eq_some he, rfl⟩
  · rintro ⟨hmem, hvalue⟩
    have hnot : ¬(propertyOf? header).isSome = true := by
      rw [propertyOf?, afterLead_of_mem_systemHeaders hmem]
      exact Bool.false_ne_true
    have hfind : systemHeaders.find? (·.2 = header.1) = some (property.1, header.1) := by
      obtain ⟨e, he⟩ := Option.isSome_iff_exists.1
        (List.find?_isSome.2 ⟨_, hmem, by simp⟩ :
          (systemHeaders.find? (·.2 = header.1)).isSome = true)
      have hname : e.2 = header.1 := by simpa using List.find?_some he
      rw [he, eq_of_mem_systemHeaders (List.mem_of_find?_eq_some he) hmem (.inr hname)]
    rw [if_neg hnot, hfind, Option.map_some, ← hvalue]

variable {r : HttpResponse} {hs : Headers}

/-- **The headers that are read as texts** are those of ASCII characters. -/
theorem Bears.mem_texts_iff (hr : r.Bears hs)
    (hlegal : ∀ name value, hs.get? name = some value → IsValue value) {name text : String} :
    (name, text) ∈ r.texts ↔ hs.get? name = some text ∧ IsAscii text := by
  rw [texts, List.mem_filterMap]
  constructor
  · rintro ⟨header, hheader, htext⟩
    obtain ⟨⟨name', value⟩, hmem, rfl⟩ := List.mem_map.1 (hr.mem_iff.1 hheader)
    obtain ⟨text', hread, heq⟩ := Option.map_eq_some_iff.1 htext
    obtain ⟨rfl, rfl⟩ := Prod.mk.inj heq
    have hget : hs.get? name' = some value := SortedMap.get?_of_mem hmem
    obtain ⟨rfl, hascii⟩ := (valueText?_ofString_iff (hlegal _ _ hget)).1 hread
    exact ⟨hget, hascii⟩
  · rintro ⟨hget, hascii⟩
    refine ⟨(name, Utf8.ofString text), ?_, ?_⟩
    · exact hr.mem_iff.2 (List.mem_map.2 ⟨(name, text), SortedMap.get?_eq_some_iff.1 hget, rfl⟩)
    · simp only
      rw [(valueText?_ofString_iff (hlegal _ _ hget)).2 ⟨rfl, hascii⟩, Option.map_some]

/-- **The application properties that are read** are the headers of ASCII characters that start like
those of application properties. -/
theorem Bears.get?_properties_iff (hr : r.Bears hs)
    (hlegal : ∀ name value, hs.get? name = some value → IsValue value) {key text : String} :
    r.notification.message.properties.get? key = some text ↔
      hs.get? (propertyLead ++ key) = some text ∧ IsAscii text := by
  have hmem (key text : String) : (key, text) ∈ r.texts.filterMap propertyOf? ↔
      hs.get? (propertyLead ++ key) = some text ∧ IsAscii text := by
    rw [← hr.mem_texts_iff hlegal, List.mem_filterMap]
    simp only [propertyOf?_eq_some_iff, exists_eq_right]
  rw [← hmem]
  refine SortedMap.get?_ofList_iff fun key x y hx hy => ?_
  exact Option.some.inj (((hmem key x).1 hx).1.symm.trans ((hmem key y).1 hy).1)

/-- **The system properties that are read** are the headers of ASCII characters that stand for one. -/
theorem Bears.get?_systemProperties_iff (hr : r.Bears hs)
    (hlegal : ∀ name value, hs.get? name = some value → IsValue value) {key text : String} :
    r.notification.message.systemProperties.get? key = some text ↔
      ∃ name, (key, name) ∈ systemHeaders ∧ hs.get? name = some text ∧ IsAscii text := by
  have hmem (key text : String) : (key, text) ∈ r.texts.filterMap systemPropertyOf? ↔
      ∃ name, (key, name) ∈ systemHeaders ∧ hs.get? name = some text ∧ IsAscii text := by
    simp only [List.mem_filterMap, systemPropertyOf?_eq_some_iff]
    constructor
    · rintro ⟨⟨name, value⟩, hheader, hname, rfl⟩
      exact ⟨name, hname, (hr.mem_texts_iff hlegal).1 hheader⟩
    · rintro ⟨name, hname, hvalue⟩
      exact ⟨(name, text), (hr.mem_texts_iff hlegal).2 hvalue, hname, rfl⟩
  rw [← hmem]
  refine SortedMap.get?_ofList_iff fun key x y hx hy => ?_
  obtain ⟨name, hname, hgetx, -⟩ := (hmem key x).1 hx
  obtain ⟨name', hname', hgety, -⟩ := (hmem key y).1 hy
  obtain rfl := (Prod.mk.inj (eq_of_mem_systemHeaders hname hname' (.inl rfl))).2
  exact Option.some.inj (hgetx.symm.trans hgety)

end HttpResponse

end HubLink.Https
