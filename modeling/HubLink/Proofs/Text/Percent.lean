import HubLink.Proofs.Text.Form
import HubLink.Proofs.Text.Utf8
import Mathlib.Tactic.ByContra

/-! # Undoing escapes

A text that was written with escapes is read back (`Percent.decode_encode`). Octets other than the
percent sign pass through the decoder, and so does a percent sign that no two hexadecimal digits
follow. A text that was not written so is therefore what it decodes to exactly if there is no escape
in it: undoing one makes the text shorter (`Percent.length_decodeLenient_lt`). -/

namespace HubLink.Text

/-! ## Characters of one octet -/

/-- A character of ASCII is one octet. -/
theorem utf8EncodeChar_of_ascii {c : Char} (h : c.toNat < 128) :
    String.utf8EncodeChar c = [UInt8.ofNat c.toNat] := by
  have hc : c.val.toNat = c.toNat := rfl
  unfold String.utf8EncodeChar
  simp only [hc]
  rw [if_pos (by omega)]

namespace Utf8

theorem encode_cons (c : Char) (text : List Char) :
    encode (c :: text) = String.utf8EncodeChar c ++ encode text :=
  List.flatMap_cons

theorem encode_append (text more : List Char) :
    encode (text ++ more) = encode text ++ encode more :=
  List.flatMap_append

theorem encode_cons_ascii {c : Char} (h : c.toNat < 128) (text : List Char) :
    encode (c :: text) = UInt8.ofNat c.toNat :: encode text := by
  rw [encode_cons, utf8EncodeChar_of_ascii h, List.singleton_append]

/-- An octet of ASCII is that of its character. -/
theorem encode_octet {b : UInt8} (h : b.toNat < 128) : encode [Char.ofNat b.toNat] = [b] := by
  rw [← toNat_ofNat_octet] at h
  rw [encode_cons_ascii h, toNat_ofNat_octet, UInt8.ofNat_toNat]
  rfl

/-- Octets that start with one of ASCII are those of a text that starts with its character. -/
theorem encode_eq_cons_ascii {b : UInt8} (hb : b.toNat < 128) {text : List Char}
    {rest : List UInt8} (h : encode text = b :: rest) :
    ∃ more, text = Char.ofNat b.toNat :: more ∧ encode more = rest := by
  cases text with
  | nil => cases h
  | cons c more =>
    rw [encode, List.flatMap_cons, ← encode] at h
    obtain ⟨b', l, hc, -⟩ := exists_utf8EncodeChar_eq_cons c
    have hhead : b' = b := by
      rw [hc, List.cons_append] at h
      exact (List.cons.inj h).1
    have hmem : b ∈ String.utf8EncodeChar c := by
      rw [hc, hhead]
      exact List.mem_cons_self
    have hvalue : c.toNat = b.toNat := (mem_utf8EncodeChar hb c).1 hmem
    rw [utf8EncodeChar_of_ascii (by omega), List.singleton_append] at h
    refine ⟨more, ?_, (List.cons.inj h).2⟩
    rw [← hvalue, Char.ofNat_toNat]

end Utf8

namespace Percent

/-! ## Octets -/

/-- An octet other than the percent sign passes through. -/
theorem decodeBytes_cons_of_ne {b : UInt8} (h : b ≠ 0x25) (rest : List UInt8) :
    decodeBytes (b :: rest) = b :: decodeBytes rest := by
  match rest with
  | [] => rfl
  | [_] => rfl
  | _ :: _ :: _ => rw [decodeBytes, if_neg h]

/-- Octets without the percent sign pass through. -/
theorem decodeBytes_append_of_not_mem {bytes : List UInt8} (h : 0x25 ∉ bytes)
    (rest : List UInt8) : decodeBytes (bytes ++ rest) = bytes ++ decodeBytes rest := by
  induction bytes with
  | nil => rfl
  | cons b bytes ih =>
    rw [List.mem_cons, not_or] at h
    rw [List.cons_append, decodeBytes_cons_of_ne (Ne.symm h.1), ih h.2, List.cons_append]

/-- A percent sign and two digits are undone. -/
theorem decodeBytes_escape {a b : UInt8} {high low : Nat} (ha : hexOctet? a = some high)
    (hb : hexOctet? b = some low) (rest : List UInt8) :
    decodeBytes (0x25 :: a :: b :: rest) = UInt8.ofNat (high * 16 + low) :: decodeBytes rest := by
  rw [decodeBytes, if_pos rfl, ha, hb]

/-- The digits of an escape are characters of ASCII, each with its value. -/
theorem hexOctet?_hexUpper : ∀ k < 16,
    (hexUpper k).toNat < 128 ∧ hexOctet? (UInt8.ofNat (hexUpper k).toNat) = some k := by decide

/-- The octets of an escape are a percent sign and two digits. -/
theorem encode_escape (b : UInt8) :
    Utf8.encode (escape b) =
      [0x25, UInt8.ofNat (hexUpper (b.toNat / 16)).toNat,
        UInt8.ofNat (hexUpper (b.toNat % 16)).toNat] := by
  have hlt := b.toNat_lt
  have hpercent : ('%' : Char).toNat < 128 := by decide
  have hhigh := (hexOctet?_hexUpper (b.toNat / 16) (by omega)).1
  have hlow := (hexOctet?_hexUpper (b.toNat % 16) (by omega)).1
  rw [escape, Utf8.encode_cons_ascii hpercent, Utf8.encode_cons_ascii hhigh,
    Utf8.encode_cons_ascii hlow]
  rfl

/-- An escape is undone, whatever stands after it. -/
theorem decodeBytes_escape_append (b : UInt8) (rest : List UInt8) :
    decodeBytes (Utf8.encode (escape b) ++ rest) = b :: decodeBytes rest := by
  have hlt := b.toNat_lt
  have hhigh := (hexOctet?_hexUpper (b.toNat / 16) (by omega)).2
  have hlow := (hexOctet?_hexUpper (b.toNat % 16) (by omega)).2
  have hvalue : b.toNat / 16 * 16 + b.toNat % 16 = b.toNat := by omega
  rw [encode_escape, List.cons_append, List.cons_append, List.singleton_append,
    decodeBytes_escape hhigh hlow, hvalue, UInt8.ofNat_toNat]

/-- Any other percent sign passes through. -/
theorem decodeBytes_percent {rest : List UInt8}
    (h : ∀ a b more, rest = a :: b :: more → hexOctet? a = none ∨ hexOctet? b = none) :
    decodeBytes (0x25 :: rest) = 0x25 :: decodeBytes rest := by
  match rest with
  | [] => rfl
  | [_] => rfl
  | a :: b :: more =>
    rw [decodeBytes, if_pos rfl]
    rcases h a b more rfl with ha | hb
    · rw [ha]
    · rw [hb]
      cases hexOctet? a <;> rfl

/-! ## Texts written with escapes -/

section Encode

variable {keep : UInt8 → Bool}

/-- Octets are read back if only octets of ASCII are passed on, and not the percent sign. -/
theorem decodeBytes_encodeBytes (hkeep : ∀ b, keep b = true → b.toNat < 128 ∧ b ≠ 0x25)
    (bytes : List UInt8) : decodeBytes (Utf8.encode (encodeBytes keep bytes)) = bytes := by
  induction bytes with
  | nil => rfl
  | cons b bytes ih =>
    rw [encodeBytes, List.flatMap_cons, ← encodeBytes, Utf8.encode_append]
    split_ifs with hb
    · obtain ⟨hascii, hne⟩ := hkeep b hb
      rw [Utf8.encode_octet hascii, List.singleton_append, decodeBytes_cons_of_ne hne, ih]
    · rw [decodeBytes_escape_append, ih]

/-- **A text written with escapes is read back.** -/
theorem decode_encode (hkeep : ∀ b, keep b = true → b.toNat < 128 ∧ b ≠ 0x25)
    (text : List Char) :
    Utf8.lenientString (decodeBytes (Utf8.encode (encode keep text))) = String.ofList text := by
  rw [encode, decodeBytes_encodeBytes hkeep, Utf8.lenientString, Utf8.decodeLenient_encode]

/-- Characters that are neither passed on nor part of escapes are not written. -/
theorem not_mem_encode {c : Char} (hpercent : c ≠ '%') (hdigit : ∀ k < 16, c ≠ hexUpper k)
    (hkeep : keep (UInt8.ofNat c.toNat) = false) (text : List Char) : c ∉ encode keep text := by
  rw [encode, encodeBytes, List.mem_flatMap]
  rintro ⟨b, -, hmem⟩
  have hlt := b.toNat_lt
  split_ifs at hmem with hb
  · obtain rfl := List.mem_singleton.1 hmem
    rw [toNat_ofNat_octet, UInt8.ofNat_toNat, hb] at hkeep
    cases hkeep
  · rw [escape, List.mem_cons, List.mem_cons, List.mem_singleton] at hmem
    rcases hmem with h | h | h
    · exact hpercent h
    · exact hdigit _ (by omega) h
    · exact hdigit _ (by omega) h

end Encode

/-! ## Escapes in a text -/

/-- There is a percent sign with two hexadecimal digits after it somewhere in a text. -/
inductive HasEscape : List Char → Prop where
  /-- The text starts with it. -/
  | here {a b : Char} {rest : List Char} (ha : (hexValue? a).isSome) (hb : (hexValue? b).isSome) :
    HasEscape ('%' :: a :: b :: rest)
  /-- It comes later. -/
  | later {c : Char} {rest : List Char} (h : HasEscape rest) : HasEscape (c :: rest)

/-- A text that starts with a percent sign and two hexadecimal digits. -/
def StartsEscape (text : List Char) : Prop :=
  ∃ a b rest, text = '%' :: a :: b :: rest ∧ (hexValue? a).isSome ∧ (hexValue? b).isSome

/-- The first escape of a text is at its start or later. -/
theorem hasEscape_cons {c : Char} {rest : List Char} :
    HasEscape (c :: rest) ↔ StartsEscape (c :: rest) ∨ HasEscape rest := by
  constructor
  · intro h
    cases h with
    | here ha hb => exact .inl ⟨_, _, _, rfl, ha, hb⟩
    | later h => exact .inr h
  · rintro (⟨a, b, more, heq, ha, hb⟩ | h)
    · rw [heq]
      exact .here ha hb
    · exact .later h

/-- Digits are characters of ASCII. -/
theorem toNat_lt_of_hexValue? {c : Char} (h : (hexValue? c).isSome) : c.toNat < 128 := by
  simp only [hexValue?, Char.le_def, UInt32.le_iff_toNat_le] at h
  have hc : c.val.toNat = c.toNat := rfl
  split_ifs at h <;> simp_all <;> omega

/-- A digit among octets is a digit among characters. -/
theorem hexOctet?_ofNat {c : Char} (h : c.toNat < 128) :
    hexOctet? (UInt8.ofNat c.toNat) = hexValue? c := by
  rw [hexOctet?, Utf8.toNat_octet (by omega), Char.ofNat_toNat]

/-- Digits are octets of ASCII. -/
theorem toNat_lt_of_hexOctet? {b : UInt8} (h : (hexOctet? b).isSome) : b.toNat < 128 := by
  have hchar := toNat_lt_of_hexValue? h
  rwa [toNat_ofNat_octet] at hchar

/-- The octets of a text that starts with an escape. -/
theorem decodeBytes_encode_escape {a b : Char} (ha : (hexValue? a).isSome)
    (hb : (hexValue? b).isSome) (rest : List Char) :
    ∃ octet, decodeBytes (Utf8.encode ('%' :: a :: b :: rest)) =
      octet :: decodeBytes (Utf8.encode rest) := by
  have ha' := toNat_lt_of_hexValue? ha
  have hb' := toNat_lt_of_hexValue? hb
  obtain ⟨high, hhigh⟩ := Option.isSome_iff_exists.1 ha
  obtain ⟨low, hlow⟩ := Option.isSome_iff_exists.1 hb
  rw [← hexOctet?_ofNat ha'] at hhigh
  rw [← hexOctet?_ofNat hb'] at hlow
  have hencode : Utf8.encode ('%' :: a :: b :: rest) =
      0x25 :: UInt8.ofNat a.toNat :: UInt8.ofNat b.toNat :: Utf8.encode rest := by
    simp only [Utf8.encode, List.flatMap_cons, utf8EncodeChar_of_ascii ha',
      utf8EncodeChar_of_ascii hb']
    rfl
  exact ⟨_, by rw [hencode, decodeBytes_escape hhigh hlow]⟩

/-- The octets of a text that starts with a character. -/
theorem decodeBytes_encode_cons {c : Char} {rest : List Char} (h : ¬StartsEscape (c :: rest)) :
    decodeBytes (Utf8.encode (c :: rest)) =
      String.utf8EncodeChar c ++ decodeBytes (Utf8.encode rest) := by
  rw [Utf8.encode, List.flatMap_cons, ← Utf8.encode]
  by_cases hc : c = '%'
  · subst hc
    refine decodeBytes_percent fun x y more hmore => ?_
    by_contra hdigits
    rw [not_or, ← ne_eq, ← ne_eq, Option.ne_none_iff_isSome, Option.ne_none_iff_isSome] at hdigits
    obtain ⟨hx, hy⟩ := hdigits
    -- Octets that are digits come from characters that are digits.
    obtain ⟨rest', rfl, hrest'⟩ := Utf8.encode_eq_cons_ascii (toNat_lt_of_hexOctet? hx) hmore
    obtain ⟨rest'', rfl, -⟩ := Utf8.encode_eq_cons_ascii (toNat_lt_of_hexOctet? hy) hrest'
    exact h ⟨_, _, _, rfl, hx, hy⟩
  · refine decodeBytes_append_of_not_mem ?_ _
    rw [mem_utf8EncodeChar (by decide)]
    exact fun heq => hc (Char.toNat_inj.1 heq)

/-- Undoing escapes never makes a text longer. -/
theorem readsWithin_decodeBytes (text : List Char) :
    Utf8.ReadsWithin (decodeBytes (Utf8.encode text)) text.length := by
  -- An escape is taken off as a whole, so that the recursion is on the length of the text.
  match text with
  | [] => exact Utf8.ReadsWithin.nil
  | c :: rest =>
    by_cases h : StartsEscape (c :: rest)
    · obtain ⟨a, b, more, heq, ha, hb⟩ := h
      obtain ⟨octet, hoctet⟩ := decodeBytes_encode_escape ha hb more
      rw [heq, hoctet]
      exact ((readsWithin_decodeBytes more).cons octet).mono (by simp)
    · rw [decodeBytes_encode_cons h]
      exact (readsWithin_decodeBytes rest).char c
termination_by text.length
decreasing_by
  · simp_all
    omega
  · simp

/-- A text without escapes is what it decodes to. -/
theorem decodeLenient_decodeBytes {text : List Char} (h : ¬HasEscape text) :
    Utf8.decodeLenient (decodeBytes (Utf8.encode text)) = text := by
  induction text with
  | nil => rfl
  | cons c rest ih =>
    rw [hasEscape_cons, not_or] at h
    rw [decodeBytes_encode_cons h.1, Utf8.decodeLenient, Utf8.lenientFrom_utf8EncodeChar,
      ← Utf8.decodeLenient, ih h.2]

/-- Three characters of an escape become at most one. -/
theorem length_lt_of_startsEscape {text : List Char} (h : StartsEscape text) :
    (Utf8.decodeLenient (decodeBytes (Utf8.encode text))).length < text.length := by
  obtain ⟨a, b, rest, rfl, ha, hb⟩ := h
  obtain ⟨octet, hoctet⟩ := decodeBytes_encode_escape ha hb rest
  have hlength := ((readsWithin_decodeBytes rest).cons octet).1
  rw [← Utf8.decodeLenient, ← hoctet] at hlength
  simp only [List.length_cons]
  omega

/-- **Undoing an escape makes a text shorter.** -/
theorem length_decodeLenient_lt {text : List Char} (h : HasEscape text) :
    (Utf8.decodeLenient (decodeBytes (Utf8.encode text))).length < text.length := by
  induction text with
  | nil => cases h
  | cons c rest ih =>
    by_cases hstart : StartsEscape (c :: rest)
    · exact length_lt_of_startsEscape hstart
    · -- The first character is kept, and the escape comes after it.
      have hrest := (hasEscape_cons.1 h).resolve_left hstart
      rw [decodeBytes_encode_cons hstart, Utf8.decodeLenient, Utf8.lenientFrom_utf8EncodeChar,
        ← Utf8.decodeLenient]
      exact Nat.succ_lt_succ (ih hrest)

end Percent

end HubLink.Text
