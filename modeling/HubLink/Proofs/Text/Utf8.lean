import HubLink.Text.Utf8
import Mathlib.Tactic.SplitIfs

/-! # Decoding UTF-8

The lenient machine gives back every text from its octets (`Utf8.lenientFrom_encode_append`),
whatever octets stand after them, and a single character also behind any octets
(`Utf8.lenientFrom_append_utf8EncodeChar`). On octets that are no text it writes at most one
character for each octet, and one more if a character was begun before them. -/

namespace HubLink.Text.Utf8

/-! ## One octet -/

/-- The octet with a number has that number. -/
theorem toNat_octet {n : Nat} (h : n < 256) : (UInt8.ofNat n).toNat = n :=
  UInt8.toNat_ofNat_of_lt' h

/-- What an octet says at the start of a character, told from its number. -/
theorem start_ofNat {n : Nat} (h : n < 256) :
    start (UInt8.ofNat n) =
      if n < 0x80 then .whole (Char.ofNat n)
      else if n < 0xc2 then .refused
      else if n < 0xe0 then .open ⟨0, 0x80, 0xbf, n - 0xc0⟩
      else if n < 0xf0 then
        .open ⟨1, if n = 0xe0 then 0xa0 else 0x80, if n = 0xed then 0x9f else 0xbf, n - 0xe0⟩
      else if n < 0xf5 then
        .open ⟨2, if n = 0xf0 then 0x90 else 0x80, if n = 0xf4 then 0x8f else 0xbf, n - 0xf0⟩
      else .refused := by
  simp only [start, UInt8.lt_iff_toNat_lt, ← UInt8.toNat_inj, toNat_octet h, UInt8.toNat_ofNat,
    Nat.reducePow, Nat.reduceMod]

/-- An octet with six bits of a character is admitted if its number is within the limits. -/
theorem Partial.admits_ofNat {p : Partial} {k : Nat} (hk : k < 64) (hlow : p.low.toNat ≤ k + 128)
    (hhigh : k + 128 ≤ p.high.toNat) : p.admits (UInt8.ofNat (k + 128)) = true := by
  simp [admits, UInt8.le_iff_toNat_le, -UInt8.ofNat_add,
    toNat_octet (show k + 128 < 256 by omega), hlow, hhigh]

/-- Such an octet adds its six bits. -/
theorem Partial.push_ofNat (p : Partial) {k : Nat} (hk : k < 64) :
    p.push (UInt8.ofNat (k + 128)) = p.code * 64 + k := by
  have hoctet : (UInt8.ofNat (k + 128)).toNat = k + 128 := toNat_octet (by omega)
  unfold push
  omega

/-- The last octet of a character completes it. -/
theorem lenientFrom_last {low high : UInt8} {code k : Nat} (hk : k < 64)
    (hlow : low.toNat ≤ k + 128) (hhigh : k + 128 ≤ high.toNat) (rest : List UInt8) :
    lenientFrom (some ⟨0, low, high, code⟩) (UInt8.ofNat (k + 128) :: rest) =
      Char.ofNat (code * 64 + k) :: lenientFrom none rest := by
  have hadmits := Partial.admits_ofNat (p := ⟨0, low, high, code⟩) hk hlow hhigh
  rw [lenientFrom, if_pos hadmits]
  simp only [Partial.step, Partial.push_ofNat _ hk]

/-- An octet in the middle of a character adds its bits. -/
theorem lenientFrom_middle {owed code k : Nat} {low high : UInt8} (hk : k < 64)
    (hlow : low.toNat ≤ k + 128) (hhigh : k + 128 ≤ high.toNat) (rest : List UInt8) :
    lenientFrom (some ⟨owed + 1, low, high, code⟩) (UInt8.ofNat (k + 128) :: rest) =
      lenientFrom (some ⟨owed, 0x80, 0xbf, code * 64 + k⟩) rest := by
  have hadmits := Partial.admits_ofNat (p := ⟨owed + 1, low, high, code⟩) hk hlow hhigh
  rw [lenientFrom, if_pos hadmits]
  simp only [Partial.step, Partial.push_ofNat _ hk]

/-- An octet that does not continue a character is read as if none had been begun. -/
theorem lenientFrom_of_not_admits {p : Partial} {b : UInt8} (h : p.admits b = false)
    (rest : List UInt8) :
    lenientFrom (some p) (b :: rest) = replacement :: lenientFrom none (b :: rest) := by
  rw [lenientFrom, lenientFrom, h, if_neg Bool.false_ne_true]
  cases start b <;> rfl

/-! ## Texts -/

/-- Numbers of characters leave out those of surrogates. -/
theorem toNat_valid (c : Char) : c.toNat < 0xd800 ∨ 0xdfff < c.toNat ∧ c.toNat < 0x110000 :=
  c.valid

/-- **The octets of a character are read as that character**, whatever follows. -/
theorem lenientFrom_utf8EncodeChar (c : Char) (rest : List UInt8) :
    lenientFrom none (String.utf8EncodeChar c ++ rest) = c :: lenientFrom none rest := by
  have hc : c.val.toNat = c.toNat := rfl
  have hvalid := toNat_valid c
  have hback {n : Nat} (h : n = c.toNat) : Char.ofNat n = c := by rw [h, Char.ofNat_toNat]
  unfold String.utf8EncodeChar
  simp only [hc]
  -- The cases are those of the encoder: one octet, two, three or four.
  split
  · rename_i h
    rw [List.singleton_append, lenientFrom, start_ofNat (by omega), if_pos (by omega)]
    simp [hback rfl]
  · split
    · rename_i h
      rw [List.cons_append, List.singleton_append, lenientFrom, start_ofNat (by omega),
        if_neg (by omega), if_neg (by omega), if_pos (by omega)]
      simp only
      rw [lenientFrom_last (by omega) (by simp) (by simp; omega), hback (by omega)]
    · split
      · rename_i h
        -- The limits of the second octet keep out what fewer octets write, and surrogates; no
        -- character is either.
        rw [List.cons_append, List.cons_append, List.singleton_append, lenientFrom,
          start_ofNat (by omega), if_neg (by omega), if_neg (by omega), if_neg (by omega),
          if_pos (by omega)]
        simp only
        rw [lenientFrom_middle (by omega) (by split <;> simp; omega)
          (by split <;> simp <;> omega),
          lenientFrom_last (by omega) (by simp) (by simp; omega), hback (by omega)]
      · rename_i h
        rw [List.cons_append, List.cons_append, List.cons_append, List.singleton_append,
          lenientFrom, start_ofNat (by omega), if_neg (by omega), if_neg (by omega),
          if_neg (by omega), if_neg (by omega), if_pos (by omega)]
        simp only
        rw [lenientFrom_middle (by omega) (by split <;> simp; omega)
            (by split <;> simp <;> omega),
          lenientFrom_middle (by omega) (by simp) (by simp; omega),
          lenientFrom_last (by omega) (by simp) (by simp; omega), hback (by omega)]

/-- A text in front of octets is read back, and the octets on their own. -/
theorem lenientFrom_encode_append (text : List Char) (rest : List UInt8) :
    lenientFrom none (encode text ++ rest) = text ++ lenientFrom none rest := by
  induction text with
  | nil => rfl
  | cons c text ih =>
    rw [encode, List.flatMap_cons, List.append_assoc, lenientFrom_utf8EncodeChar, ← encode, ih,
      List.cons_append]

/-- **A text is read back from its octets.** -/
theorem decodeLenient_encode (text : List Char) : decodeLenient (encode text) = text := by
  have h := lenientFrom_encode_append text []
  rwa [List.append_nil, lenientFrom, List.append_nil] at h

/-! ## Characters among other octets -/

/-- A begun character that only octets in the middle of a character continue. -/
def Partial.IsTail (p : Partial) : Prop := 0x80 ≤ p.low.toNat ∧ p.high.toNat ≤ 0xbf

/-- A character that an octet begins is continued by such octets. -/
theorem isTail_of_start {b : UInt8} {p : Partial} (h : start b = .open p) : p.IsTail := by
  unfold start at h
  split_ifs at h <;> cases h <;> simp [Partial.IsTail]

/-- So is one that already has an octet more. -/
theorem isTail_of_step {p q : Partial} {b : UInt8} (h : p.step b = .inr q) : q.IsTail := by
  unfold Partial.step at h
  cases howed : p.owed with
  | zero => simp [howed] at h
  | succ n =>
    simp only [howed, Sum.inr.injEq] at h
    subst h
    simp [Partial.IsTail]

/-- A character that is not begun does not continue another. -/
theorem exists_utf8EncodeChar_eq_cons (c : Char) :
    ∃ b more, String.utf8EncodeChar c = b :: more ∧ (b.toNat < 0x80 ∨ 0xc0 ≤ b.toNat) := by
  unfold String.utf8EncodeChar
  simp only
  -- A single octet is below all octets in the middle, the first of several is above them.
  split
  · rename_i h
    exact ⟨_, _, rfl, .inl (by rw [toNat_octet (by omega)]; omega)⟩
  · split
    · exact ⟨_, _, rfl, .inr (by rw [toNat_octet (by omega)]; omega)⟩
    · split
      · exact ⟨_, _, rfl, .inr (by rw [toNat_octet (by omega)]; omega)⟩
      · exact ⟨_, _, rfl, .inr (by rw [toNat_octet (by omega)]; omega)⟩

/-- A character cuts off one that was begun before it. -/
theorem lenientFrom_some_utf8EncodeChar {p : Partial} (hp : p.IsTail) (c : Char)
    (rest : List UInt8) :
    lenientFrom (some p) (String.utf8EncodeChar c ++ rest) =
      replacement :: c :: lenientFrom none rest := by
  obtain ⟨hlow, hhigh⟩ := hp
  obtain ⟨b, more, hb, hrange⟩ := exists_utf8EncodeChar_eq_cons c
  have hadmits : p.admits b = false := by
    simp only [Partial.admits, UInt8.le_iff_toNat_le, Bool.and_eq_false_iff,
      decide_eq_false_iff_not]
    omega
  rw [← lenientFrom_utf8EncodeChar, hb, List.cons_append, lenientFrom_of_not_admits hadmits]

/-- **A character is read wherever it stands**, and what is read before and behind it depends only
on the octets there. -/
theorem lenientFrom_append_utf8EncodeChar (begun : Option Partial)
    (hbegun : ∀ p ∈ begun, p.IsTail) (bytes : List UInt8) (c : Char) (rest : List UInt8) :
    lenientFrom begun (bytes ++ (String.utf8EncodeChar c ++ rest)) =
      lenientFrom begun bytes ++ c :: lenientFrom none rest := by
  induction bytes generalizing begun with
  | nil =>
    cases begun with
    | none => exact lenientFrom_utf8EncodeChar c rest
    | some p => exact lenientFrom_some_utf8EncodeChar (hbegun p rfl) c rest
  | cons b bytes ih =>
    have hwhole := ih none (by simp)
    have hpart {q : Partial} (hq : q.IsTail) := ih (some q) (by simpa using hq)
    have hnone : lenientFrom none (b :: (bytes ++ (String.utf8EncodeChar c ++ rest))) =
        lenientFrom none (b :: bytes) ++ c :: lenientFrom none rest := by
      rw [lenientFrom, lenientFrom]
      cases hstart : start b with
      | whole d => simp only [hwhole, List.cons_append]
      | «open» q => exact hpart (isTail_of_start hstart)
      | refused => simp only [hwhole, List.cons_append]
    cases begun with
    | none => exact hnone
    | some p =>
      rw [List.cons_append]
      cases hadmits : p.admits b with
      | false =>
        rw [lenientFrom_of_not_admits hadmits, lenientFrom_of_not_admits hadmits, hnone,
          List.cons_append]
      | true =>
        rw [lenientFrom, lenientFrom, if_pos hadmits, if_pos hadmits]
        cases hstep : p.step b with
        | inl d => simp only [hwhole, List.cons_append]
        | inr q => exact hpart (isTail_of_step hstep)

/-! ## How much is read -/

/-- Octets are read as at most `n` characters, and one more after a begun character. -/
def ReadsWithin (bytes : List UInt8) (n : Nat) : Prop :=
  (lenientFrom none bytes).length ≤ n ∧
    ∀ p : Partial, p.IsTail → (lenientFrom (some p) bytes).length ≤ n + 1

theorem ReadsWithin.nil : ReadsWithin [] 0 := by
  refine ⟨?_, fun p hp => ?_⟩
  · simp [lenientFrom]
  · simp [lenientFrom]

theorem ReadsWithin.mono {bytes : List UInt8} {m n : Nat} (h : ReadsWithin bytes m)
    (hmn : m ≤ n) : ReadsWithin bytes n := by
  refine ⟨Nat.le_trans h.1 hmn, fun p hp => ?_⟩
  have := h.2 p hp
  omega

/-- An octet adds at most one character. -/
theorem ReadsWithin.cons {bytes : List UInt8} {n : Nat} (h : ReadsWithin bytes n) (b : UInt8) :
    ReadsWithin (b :: bytes) (n + 1) := by
  have hnone : (lenientFrom none (b :: bytes)).length ≤ n + 1 := by
    rw [lenientFrom]
    cases hstart : start b with
    | whole c => exact Nat.succ_le_succ h.1
    | «open» p => exact h.2 p (isTail_of_start hstart)
    | refused => exact Nat.succ_le_succ h.1
  refine ⟨hnone, fun p hp => ?_⟩
  cases hadmits : p.admits b with
  | false =>
    -- The begun character is given up, which the one more character pays for.
    rw [lenientFrom_of_not_admits hadmits]
    exact Nat.succ_le_succ hnone
  | true =>
    rw [lenientFrom, if_pos hadmits]
    cases hstep : p.step b with
    | inl c => exact Nat.succ_le_succ (Nat.le_trans h.1 (Nat.le_succ n))
    | inr q => exact Nat.le_trans (h.2 q (isTail_of_step hstep)) (Nat.le_succ _)

/-- A character adds itself. -/
theorem ReadsWithin.char {bytes : List UInt8} {n : Nat} (h : ReadsWithin bytes n) (c : Char) :
    ReadsWithin (String.utf8EncodeChar c ++ bytes) (n + 1) := by
  refine ⟨?_, fun p hp => ?_⟩
  · rw [lenientFrom_utf8EncodeChar]
    exact Nat.succ_le_succ h.1
  · rw [lenientFrom_some_utf8EncodeChar hp]
    exact Nat.succ_le_succ (Nat.succ_le_succ h.1)

end HubLink.Text.Utf8
