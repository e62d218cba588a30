import HubLink.Text.Form
import Mathlib.Data.List.Basic
import Mathlib.Tactic.SplitIfs

/-! # What form encoding writes

The characters of a form-encoded text, told from the text itself: a plus sign stands for a space and
for nothing else, and a number sign is never written. -/

namespace HubLink.Text

/-! ## Octets of characters -/

/-- The character with the number of an octet has that number. -/
theorem toNat_ofNat_octet (b : UInt8) : (Char.ofNat b.toNat).toNat = b.toNat := by
  have hvalid : b.toNat.isValidChar := .inl (Nat.lt_trans b.toNat_lt (by decide))
  rw [Char.ofNat, dif_pos hvalid]
  rfl

/-- An octet above those of ASCII is none of them. -/
theorem ne_ofNat_of_ascii {b : UInt8} (hb : b.toNat < 128) {n : Nat} (hlow : 128 ≤ n)
    (hhigh : n < 256) : b ≠ UInt8.ofNat n := by
  rintro rfl
  rw [UInt8.toNat_ofNat_of_lt' hhigh] at hb
  omega

/-- **An octet of ASCII comes from the character with its number** and from no other. -/
theorem mem_utf8EncodeChar {b : UInt8} (hb : b.toNat < 128) (c : Char) :
    b ∈ String.utf8EncodeChar c ↔ c.toNat = b.toNat := by
  have hc : c.val.toNat = c.toNat := rfl
  unfold String.utf8EncodeChar
  simp only [hc]
  -- The longer encodings consist of octets above those of ASCII.
  split
  · rename_i hsmall
    have hsize : c.toNat < UInt8.size := Nat.lt_of_le_of_lt hsmall (by decide)
    rw [List.mem_singleton, ← UInt8.toNat_inj, UInt8.toNat_ofNat_of_lt' hsize]
    exact eq_comm
  · rename_i hlarge
    have hne : c.toNat ≠ b.toNat := by omega
    refine iff_of_false ?_ hne
    split
    · simp only [List.mem_cons, List.not_mem_nil, or_false, not_or]
      exact ⟨ne_ofNat_of_ascii hb (by omega) (by omega),
        ne_ofNat_of_ascii hb (by omega) (by omega)⟩
    · split
      · simp only [List.mem_cons, List.not_mem_nil, or_false, not_or]
        exact ⟨ne_ofNat_of_ascii hb (by omega) (by omega),
          ne_ofNat_of_ascii hb (by omega) (by omega), ne_ofNat_of_ascii hb (by omega) (by omega)⟩
      · simp only [List.mem_cons, List.not_mem_nil, or_false, not_or]
        exact ⟨ne_ofNat_of_ascii hb (by omega) (by omega),
          ne_ofNat_of_ascii hb (by omega) (by omega), ne_ofNat_of_ascii hb (by omega) (by omega),
          ne_ofNat_of_ascii hb (by omega) (by omega)⟩

/-- A text has an octet of ASCII where it has the character. -/
theorem Utf8.mem_encode {b : UInt8} (hb : b.toNat < 128) {text : List Char} :
    b ∈ Utf8.encode text ↔ ∃ c ∈ text, c.toNat = b.toNat := by
  simp only [Utf8.encode, List.mem_flatMap, mem_utf8EncodeChar hb]

/-- A text has the octet of a space where it has a space. -/
theorem Utf8.space_mem_encode {text : List Char} : 0x20 ∈ Utf8.encode text ↔ ' ' ∈ text := by
  rw [Utf8.mem_encode (by decide)]
  constructor
  · rintro ⟨c, hc, hspace⟩
    obtain rfl : c = ' ' := Char.toNat_inj.1 hspace
    exact hc
  · exact fun h => ⟨' ', h, rfl⟩

/-- Letters, digits and signs of ASCII have octets of ASCII. -/
theorem Percent.toNat_lt_of_isOneOf {signs : String}
    (hsigns : (Utf8.ofString signs).all (·.toNat < 128) = true) {b : UInt8}
    (h : (isAlphanumeric b || isOneOf signs b) = true) : b.toNat < 128 := by
  rw [Bool.or_eq_true] at h
  rcases h with h | h
  · have hlast : (0x39 : UInt8).toNat = 57 ∧ (0x5a : UInt8).toNat = 90 ∧
        (0x7a : UInt8).toNat = 122 := by decide
    simp only [isAlphanumeric, Bool.or_eq_true, Bool.and_eq_true, decide_eq_true_eq,
      UInt8.le_iff_toNat_le] at h
    omega
  · exact of_decide_eq_true (List.all_eq_true.1 hsigns b (List.contains_iff_mem.1 h))

namespace Form

/-! ## Characters of a key or a value -/

/-- Octets are written one by one. -/
theorem encodeBytes_eq_flatMap (bytes : List UInt8) :
    encodeBytes bytes = bytes.flatMap fun b => encodeBytes [b] := by
  simp [encodeBytes]

/-- An octet is written as a plus sign if it is that of a space, as it is if it is safe, and with an
escape otherwise. -/
theorem encodeBytes_singleton (b : UInt8) :
    encodeBytes [b] =
      if b = 0x20 then ['+'] else if isSafe b then [Char.ofNat b.toNat] else Percent.escape b := by
  rw [encodeBytes, List.flatMap_singleton]

/-- Safe octets are octets of ASCII. -/
theorem toNat_lt_of_isSafe {b : UInt8} (h : isSafe b = true) : b.toNat < 128 :=
  Percent.toNat_lt_of_isOneOf (by decide) h

/-- The digits of an escape are safe. -/
theorem isSafe_hexUpper : ∀ k < 16, isSafe (UInt8.ofNat (hexUpper k).toNat) = true := by decide

/-- **What is written for an octet** is a plus sign, a percent sign or safe, and it is a plus sign
only for a space. -/
theorem mem_encodeBytes_singleton {b : UInt8} {c : Char} (h : c ∈ encodeBytes [b]) :
    c = '+' ∧ b = 0x20 ∨ c = '%' ∨ isSafe (UInt8.ofNat c.toNat) = true := by
  have hlt := b.toNat_lt
  rw [encodeBytes_singleton] at h
  split_ifs at h with hspace hsafe
  · exact .inl ⟨List.mem_singleton.1 h, hspace⟩
  · obtain rfl := List.mem_singleton.1 h
    rw [toNat_ofNat_octet, UInt8.ofNat_toNat]
    exact .inr (.inr hsafe)
  · rw [Percent.escape, List.mem_cons, List.mem_cons, List.mem_singleton] at h
    rcases h with hpercent | rfl | rfl
    · exact .inr (.inl hpercent)
    · exact .inr (.inr (isSafe_hexUpper _ (by omega)))
    · exact .inr (.inr (isSafe_hexUpper _ (by omega)))

/-- Other characters are not written. -/
theorem not_mem_encode_of_not_isSafe {c : Char} (hplus : c ≠ '+') (hpercent : c ≠ '%')
    (hother : isSafe (UInt8.ofNat c.toNat) = false) (text : List Char) : c ∉ encode text := by
  rw [encode, encodeBytes_eq_flatMap, List.mem_flatMap]
  -- What is written for a text is written for its octets one by one.
  rintro ⟨b, -, hmem⟩
  rcases mem_encodeBytes_singleton hmem with ⟨hc, -⟩ | hc | hsafe
  · exact hplus hc
  · exact hpercent hc
  · rw [hother] at hsafe
    cases hsafe

/-- **A plus sign is written for a space** and for nothing else. -/
theorem plus_mem_encode {text : List Char} : '+' ∈ encode text ↔ ' ' ∈ text := by
  have hother : isSafe (UInt8.ofNat '+'.toNat) = false := by decide
  rw [encode, encodeBytes_eq_flatMap, List.mem_flatMap, ← Utf8.space_mem_encode]
  constructor
  · rintro ⟨b, hb, hplus⟩
    rcases mem_encodeBytes_singleton hplus with ⟨-, rfl⟩ | hpercent | hsafe
    · exact hb
    · cases hpercent
    · rw [hother] at hsafe
      cases hsafe
  · exact fun h => ⟨0x20, h, by decide⟩

/-- A number sign is never written. -/
theorem hash_not_mem_encode (text : List Char) : '#' ∉ encode text :=
  not_mem_encode_of_not_isSafe (by decide) (by decide) (by decide) text

/-- Without spaces form encoding is percent encoding. -/
theorem encode_eq_percent {text : List Char} (h : ' ' ∉ text) :
    encode text = Percent.encode isSafe text := by
  refine List.flatMap_congr fun b hb => if_neg ?_
  rintro rfl
  exact h (Utf8.space_mem_encode.1 hb)

/-! ## Characters of pairs -/

/-- Joining adds only the character that texts are joined by. -/
theorem mem_intercalate {sep c : Char} (hne : c ≠ sep) (texts : List (List Char)) :
    c ∈ [sep].intercalate texts ↔ ∃ text ∈ texts, c ∈ text := by
  induction texts with
  | nil => simp [List.intercalate]
  | cons text texts ih =>
    cases texts with
    | nil => simp [List.intercalate]
    | cons next texts =>
      rw [List.intercalate] at ih ⊢
      simp [ih, hne]

/-- A character that joins neither pairs nor keys and values comes from a key or a value. -/
theorem mem_encodePairs {c : Char} (hpair : c ≠ '&') (hvalue : c ≠ '=')
    {pairs : List (String × String)} :
    c ∈ encodePairs pairs ↔
      ∃ p ∈ pairs, c ∈ encode p.1.toList ∨ c ∈ encode p.2.toList := by
  have hp (p : String × String) :
      c ∈ encodePair p ↔ c ∈ encode p.1.toList ∨ c ∈ encode p.2.toList := by
    rw [encodePair, List.mem_append, List.mem_cons, or_iff_right hvalue]
  rw [encodePairs, mem_intercalate hpair]
  constructor
  · rintro ⟨text, htext, hc⟩
    obtain ⟨p, hmem, rfl⟩ := List.mem_map.1 htext
    exact ⟨p, hmem, (hp p).1 hc⟩
  · rintro ⟨p, hmem, hc⟩
    exact ⟨encodePair p, List.mem_map_of_mem hmem, (hp p).2 hc⟩

/-- **Pairs are written with a plus sign exactly where a key or a value has a space.** -/
theorem plus_mem_encodePairs {pairs : List (String × String)} :
    '+' ∈ encodePairs pairs ↔ ∃ p ∈ pairs, ' ' ∈ p.1.toList ∨ ' ' ∈ p.2.toList := by
  rw [mem_encodePairs (by decide) (by decide)]
  simp only [plus_mem_encode]

theorem hash_not_mem_encodePairs (pairs : List (String × String)) : '#' ∉ encodePairs pairs := by
  rw [mem_encodePairs (by decide) (by decide)]
  rintro ⟨p, -, hkey | hvalue⟩
  · exact hash_not_mem_encode _ hkey
  · exact hash_not_mem_encode _ hvalue

end Form

end HubLink.Text
