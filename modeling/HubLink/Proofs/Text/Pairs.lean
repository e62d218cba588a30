import HubLink.Proofs.Text.Percent
import Mathlib.Data.List.Forall2

/-! # Reading form encoding

What was written in form encoding is read back: each key, each value, and all pairs in their order
(`Form.decodePairs_encodePairs`), also if a dollar sign was not escaped
(`Form.decodePairs_of_spells`). A text that was not written in form encoding is read as itself
exactly if it has neither a plus sign nor an escape (`Form.decode_encode_eq_iff`), and a value that
is pasted into a query is read from it exactly if, besides, it has no ampersand
(`Form.mem_decodePairs_iff`). -/

namespace HubLink.Text

namespace Utf8

/-- A text without a character of ASCII has no such octet. -/
theorem ofNat_not_mem_encode {c : Char} (h : c.toNat < 128) {text : List Char} (hc : c ∉ text) :
    UInt8.ofNat c.toNat ∉ encode text := by
  have hoctet : (UInt8.ofNat c.toNat).toNat = c.toNat := toNat_octet (by omega)
  rw [mem_encode (by omega)]
  rintro ⟨c', hmem, heq⟩
  obtain rfl : c' = c := Char.toNat_inj.1 (heq.trans hoctet)
  exact hc hmem

end Utf8

namespace Form

/-! ## Octets of keys and values -/

/-- A plus sign is read as a space. -/
def readPlus (b : UInt8) : UInt8 := if b = 0x2b then 0x20 else b

theorem decode_eq (bytes : List UInt8) :
    decode bytes = Utf8.lenientString (Percent.decodeBytes (bytes.map readPlus)) := rfl

/-- The digits of an escape are read as they are. -/
theorem readPlus_hexUpper : ∀ k < 16,
    readPlus (UInt8.ofNat (hexUpper k).toNat) = UInt8.ofNat (hexUpper k).toNat := by decide

/-- What is written for an octet is that octet, or an escape of it. -/
theorem written_octet (b : UInt8) :
    (Utf8.encode (encodeBytes [b])).map readPlus = [b] ∧ b ≠ 0x25 ∨
      (Utf8.encode (encodeBytes [b])).map readPlus = Utf8.encode (Percent.escape b) := by
  have hlt := b.toNat_lt
  rw [encodeBytes_singleton]
  split_ifs with hspace hsafe
  · subst hspace
    exact .inl (by decide)
  · have hascii := toNat_lt_of_isSafe hsafe
    have hne {sign : UInt8} (hsign : isSafe sign = false) : b ≠ sign := by
      rintro rfl
      rw [hsign] at hsafe
      cases hsafe
    rw [Utf8.encode_octet hascii]
    refine .inl ⟨?_, hne (by decide)⟩
    rw [List.map_singleton, readPlus, if_neg (hne (by decide))]
  · refine .inr ?_
    rw [Percent.encode_escape, List.map_cons, List.map_cons, List.map_cons,
      readPlus_hexUpper _ (by omega), readPlus_hexUpper _ (by omega)]
    rfl

/-- Octets are read back one by one, whatever stands after them. -/
theorem decodeBytes_encodeBytes_append (bytes rest : List UInt8) :
    Percent.decodeBytes ((Utf8.encode (encodeBytes bytes)).map readPlus ++ rest) =
      bytes ++ Percent.decodeBytes rest := by
  induction bytes with
  | nil => rfl
  | cons b bytes ih =>
    rw [encodeBytes_eq_flatMap, List.flatMap_cons, ← encodeBytes_eq_flatMap, Utf8.encode_append,
      List.map_append, List.append_assoc]
    rcases written_octet b with ⟨hplain, hne⟩ | hescape
    · rw [hplain, List.singleton_append, Percent.decodeBytes_cons_of_ne hne, ih, List.cons_append]
    · rw [hescape, Percent.decodeBytes_escape_append, ih, List.cons_append]

/-! ## Spellings -/

/-- What may be written for a text: form encoding, in which a dollar sign may also stand as it
is. -/
inductive Spells : List Char → List Char → Prop where
  /-- Nothing is written for nothing. -/
  | nil : Spells [] []
  /-- A character is written in form encoding. -/
  | encoded {written text : List Char} (c : Char) (h : Spells written text) :
    Spells (encode [c] ++ written) (c :: text)
  /-- A dollar sign is written as it is. -/
  | dollar {written text : List Char} (h : Spells written text) :
    Spells ('$' :: written) ('$' :: text)

/-- Characters are written one by one. -/
theorem encode_cons (c : Char) (text : List Char) :
    encode (c :: text) = encode [c] ++ encode text := by
  rw [← List.singleton_append, encode, Utf8.encode_append, encodeBytes, List.flatMap_append]
  rfl

/-- Form encoding spells a text. -/
theorem spells_encode (text : List Char) : Spells (encode text) text := by
  induction text with
  | nil => exact .nil
  | cons c text ih =>
    rw [encode_cons]
    exact .encoded c ih

/-- A character that is safe is written as it is. -/
theorem encode_of_isSafe {c : Char} (hascii : c.toNat < 128)
    (hsafe : isSafe (UInt8.ofNat c.toNat) = true) : encode [c] = [c] := by
  have hspace : UInt8.ofNat c.toNat ≠ 0x20 := by
    intro h
    rw [h] at hsafe
    exact absurd hsafe (by decide)
  rw [encode, Utf8.encode_cons_ascii hascii]
  change encodeBytes [UInt8.ofNat c.toNat] = [c]
  rw [encodeBytes_singleton, if_neg hspace, if_pos hsafe, Utf8.toNat_octet (by omega),
    Char.ofNat_toNat]

/-- Digits are written as they are. -/
theorem encode_of_isDigit {text : List Char} (h : ∀ c ∈ text, c.isDigit = true) :
    encode text = text := by
  induction text with
  | nil => rfl
  | cons c text ih =>
    obtain ⟨hlow, hhigh⟩ : 48 ≤ c.toNat ∧ c.toNat ≤ 57 :=
      Char.isDigit_iff_toNat.1 (h c List.mem_cons_self)
    have hsafe : isSafe (UInt8.ofNat c.toNat) = true := by
      have hoctet : (UInt8.ofNat c.toNat).toNat = c.toNat := Utf8.toNat_octet (by omega)
      simp [isSafe, Percent.isAlphanumeric, UInt8.le_iff_toNat_le, hoctet, hlow, hhigh]
    rw [encode_cons, encode_of_isSafe (by omega) hsafe,
      ih fun d hd => h d (List.mem_cons_of_mem c hd), List.singleton_append]

/-- **A key or a value is read back**, however it is spelled. -/
theorem Spells.decode_eq {written text : List Char} (h : Spells written text) :
    decode (Utf8.encode written) = String.ofList text := by
  have hoctets : Percent.decodeBytes ((Utf8.encode written).map readPlus) = Utf8.encode text := by
    induction h with
    | nil => rfl
    | encoded c h ih =>
      rw [Utf8.encode_append, List.map_append, encode, decodeBytes_encodeBytes_append, ih,
        ← Utf8.encode_append, List.singleton_append]
    | dollar h ih =>
      have hdollar : ('$' : Char).toNat < 128 := by decide
      rw [Utf8.encode_cons_ascii hdollar, Utf8.encode_cons_ascii hdollar, List.map_cons, ← ih]
      exact Percent.decodeBytes_cons_of_ne (by decide) _
  rw [Form.decode_eq, hoctets, Utf8.lenientString, Utf8.decodeLenient_encode]

/-- The characters that tell keys, values and pairs apart are not written in any of them, nor are
those that stand before a query. -/
theorem Spells.not_mem {written text : List Char} (h : Spells written text) {c : Char}
    (hc : c ∈ ['&', '=', '/', '?']) : c ∉ written := by
  obtain ⟨hplus, hpercent, hdollar, hother⟩ :
      c ≠ '+' ∧ c ≠ '%' ∧ c ≠ '$' ∧ isSafe (UInt8.ofNat c.toNat) = false := by
    simp only [List.mem_cons, List.not_mem_nil, or_false] at hc
    rcases hc with rfl | rfl | rfl | rfl <;> decide
  induction h with
  | nil => exact List.not_mem_nil
  | encoded d h ih =>
    rw [List.mem_append, not_or]
    exact ⟨not_mem_encode_of_not_isSafe hplus hpercent hother [d], ih⟩
  | dollar h ih => exact List.not_mem_cons_of_ne_of_not_mem hdollar ih

/-! ## Cutting octets -/

/-- Cutting octets at one of ASCII is cutting the text at its character. -/
theorem cut_encode {c : Char} (h : c.toNat < 128) (text : List Char) :
    cut (UInt8.ofNat c.toNat) (Utf8.encode text) =
      (cut c text).map fun (before, after) => (Utf8.encode before, Utf8.encode after) := by
  cases hcut : cut c text with
  | none => exact cut_eq_none_iff.2 (Utf8.ofNat_not_mem_encode h (cut_eq_none_iff.1 hcut))
  | some parts =>
    obtain ⟨before, after⟩ := parts
    obtain ⟨rfl, hbefore⟩ := cut_eq_some_iff.1 hcut
    refine cut_eq_some_iff.2 ⟨?_, Utf8.ofNat_not_mem_encode h hbefore⟩
    rw [Utf8.encode_append, Utf8.encode_cons_ascii h]

/-- So it is at all of them. -/
theorem pieces_encode {c : Char} (h : c.toNat < 128) (text : List Char) :
    pieces (UInt8.ofNat c.toNat) (Utf8.encode text) = (pieces c text).map Utf8.encode := by
  match hcut : cut c text with
  | none =>
    have hc := cut_eq_none_iff.1 hcut
    rw [pieces_of_not_mem (Utf8.ofNat_not_mem_encode h hc), pieces_of_not_mem hc]
    rfl
  | some (before, after) =>
    obtain ⟨heq, hbefore⟩ := cut_eq_some_iff.1 hcut
    rw [heq, Utf8.encode_append, Utf8.encode_cons_ascii h,
      pieces_append_cons (Utf8.ofNat_not_mem_encode h hbefore), pieces_append_cons hbefore,
      pieces_encode h after, List.map_cons]
termination_by text.length
decreasing_by
  rw [heq]
  simp
  omega

/-- A pair whose key has no `=` is read as that key and what follows the first `=`. -/
theorem decodePair_of_not_mem {key : List Char} (h : '=' ∉ key) (value : List Char) :
    decodePair (Utf8.encode (key ++ '=' :: value)) =
      (decode (Utf8.encode key), decode (Utf8.encode value)) := by
  have hequals : ('=' : Char).toNat < 128 := by decide
  have hcut : cut 0x3d (Utf8.encode (key ++ '=' :: value)) =
      some (Utf8.encode key, Utf8.encode value) := by
    have hcut := cut_encode hequals (key ++ '=' :: value)
    rwa [cut_eq_some_iff.2 ⟨rfl, h⟩] at hcut
  rw [decodePair, hcut]

/-- Pairs are read from the pieces between ampersands, of which empty ones are dropped. -/
theorem decodePairs_eq (text : List Char) :
    decodePairs text =
      ((pieces '&' text).filter (!·.isEmpty)).map fun piece => decodePair (Utf8.encode piece) := by
  have hampersand : ('&' : Char).toNat < 128 := by decide
  have hpieces : pieces 0x26 (Utf8.encode text) = (pieces '&' text).map Utf8.encode :=
    pieces_encode hampersand text
  have hempty : ∀ piece : List Char, (!(Utf8.encode piece).isEmpty) = !piece.isEmpty := by
    intro piece
    cases piece with
    | nil => rfl
    | cons c piece =>
      obtain ⟨b, l, hc, -⟩ := Utf8.exists_utf8EncodeChar_eq_cons c
      rw [Utf8.encode_cons, hc]
      rfl
  rw [decodePairs, hpieces, List.filter_map, List.map_map]
  exact congrArg _ (List.filter_congr fun piece _ => hempty piece)

/-! ## Pairs -/

/-- What may be written for a pair. -/
def SpellsPair (written : List Char) (pair : String × String) : Prop :=
  ∃ key value, written = key ++ '=' :: value ∧
    Spells key pair.1.toList ∧ Spells value pair.2.toList

theorem spellsPair_encodePair (pair : String × String) : SpellsPair (encodePair pair) pair :=
  ⟨_, _, rfl, spells_encode _, spells_encode _⟩

/-- A dollar sign at the start of a key may stand as it is. -/
theorem spellsPair_dollar (key value : String) :
    SpellsPair ('$' :: encodePair (key, value)) ("$" ++ key, value) := by
  refine ⟨'$' :: encode key.toList, encode value.toList, rfl, ?_, spells_encode _⟩
  have hkey : ("$" ++ key).toList = '$' :: key.toList := by
    rw [String.toList_append]
    rfl
  rw [hkey]
  exact .dollar (spells_encode _)

/-- A pair is read back. -/
theorem SpellsPair.decodePair_eq {written : List Char} {pair : String × String}
    (h : SpellsPair written pair) : decodePair (Utf8.encode written) = pair := by
  obtain ⟨key, value, rfl, hkey, hvalue⟩ := h
  rw [decodePair_of_not_mem (hkey.not_mem (by simp)), hkey.decode_eq, hvalue.decode_eq,
    String.ofList_toList, String.ofList_toList]

/-- What stands between pairs is not written in any of them, nor is what stands before a query. -/
theorem SpellsPair.not_mem {written : List Char} {pair : String × String}
    (h : SpellsPair written pair) {c : Char} (hc : c ∈ ['&', '/', '?']) : c ∉ written := by
  obtain ⟨key, value, rfl, hkey, hvalue⟩ := h
  have hsign : c ∈ ['&', '=', '/', '?'] := by
    simp only [List.mem_cons, List.not_mem_nil, or_false] at hc ⊢
    tauto
  have hequals : c ≠ '=' := by
    rintro rfl
    simp at hc
  rw [List.mem_append, List.mem_cons, not_or, not_or]
  exact ⟨hkey.not_mem hsign, hequals, hvalue.not_mem hsign⟩

theorem SpellsPair.ne_nil {written : List Char} {pair : String × String}
    (h : SpellsPair written pair) : written ≠ [] := by
  obtain ⟨key, value, rfl, -, -⟩ := h
  simp

/-- What may be written for pairs, with an ampersand between two of them. -/
def SpellsPairs (written : List Char) (pairs : List (String × String)) : Prop :=
  ∃ texts, List.Forall₂ SpellsPair texts pairs ∧ written = ['&'].intercalate texts

theorem spellsPairs_encodePairs (pairs : List (String × String)) :
    SpellsPairs (encodePairs pairs) pairs := by
  refine ⟨pairs.map encodePair, ?_, rfl⟩
  rw [List.forall₂_map_left_iff, List.forall₂_same]
  exact fun pair _ => spellsPair_encodePair pair

/-- Each text of some pairs is what is written for one of them. -/
theorem exists_spellsPair {texts : List (List Char)} {pairs : List (String × String)}
    (h : List.Forall₂ SpellsPair texts pairs) {text : List Char} (hmem : text ∈ texts) :
    ∃ pair, SpellsPair text pair := by
  induction h with
  | nil => cases hmem
  | cons hpair _ ih =>
    rcases List.mem_cons.1 hmem with rfl | hmem
    · exact ⟨_, hpair⟩
    · exact ih hmem

/-- What stands before a query is not written in one. -/
theorem SpellsPairs.not_mem {written : List Char} {pairs : List (String × String)}
    (h : SpellsPairs written pairs) {c : Char} (hc : c = '/' ∨ c = '?') : c ∉ written := by
  have hampersand : c ≠ '&' := by
    rintro rfl
    simp at hc
  obtain ⟨texts, hspells, rfl⟩ := h
  rw [mem_intercalate hampersand]
  rintro ⟨text, hmem, hin⟩
  obtain ⟨pair, hpair⟩ := exists_spellsPair hspells hmem
  exact hpair.not_mem (by simp [hc]) hin

/-- Joined texts are read one by one. -/
theorem decodePairs_intercalate {texts : List (List Char)}
    (h : ∀ text ∈ texts, text ≠ [] ∧ '&' ∉ text) :
    decodePairs (['&'].intercalate texts) =
      texts.map fun text => decodePair (Utf8.encode text) := by
  rw [decodePairs_eq]
  by_cases hne : texts = []
  · subst hne
    rfl
  have hfilter : texts.filter (!·.isEmpty) = texts :=
    List.filter_eq_self.2 fun text hmem => by simpa using (h text hmem).1
  rw [pieces_intercalate hne fun text hmem => (h text hmem).2, hfilter]

/-- **Pairs are read back in their order**, however they are spelled. -/
theorem decodePairs_of_spells {written : List Char} {pairs : List (String × String)}
    (h : SpellsPairs written pairs) : decodePairs written = pairs := by
  obtain ⟨texts, hspells, rfl⟩ := h
  have hpieces : ∀ text ∈ texts, text ≠ [] ∧ '&' ∉ text := fun text hmem => by
    obtain ⟨pair, hpair⟩ := exists_spellsPair hspells hmem
    exact ⟨hpair.ne_nil, hpair.not_mem (by simp)⟩
  rw [decodePairs_intercalate hpieces]
  clear hpieces
  induction hspells with
  | nil => rfl
  | cons hpair _ ih => rw [List.map_cons, hpair.decodePair_eq, ih]

/-- So are pairs that were written in form encoding. -/
theorem decodePairs_encodePairs (pairs : List (String × String)) :
    decodePairs (encodePairs pairs) = pairs :=
  decodePairs_of_spells (spellsPairs_encodePairs pairs)

/-! ## Texts that were not written in form encoding -/

/-- A plus sign is read as a space. -/
def readPlusSign (c : Char) : Char := if c = '+' then ' ' else c

/-- Reading plus signs among octets is reading them among characters. -/
theorem map_readPlus_encode (text : List Char) :
    (Utf8.encode text).map readPlus = Utf8.encode (text.map readPlusSign) := by
  induction text with
  | nil => rfl
  | cons c text ih =>
    rw [Utf8.encode_cons, List.map_append, ih, List.map_cons, Utf8.encode_cons]
    congr 1
    by_cases hc : c = '+'
    · subst hc
      rfl
    · rw [readPlusSign, if_neg hc]
      refine (List.map_congr_left fun b hb => ?_).trans (List.map_id _)
      rw [readPlus, if_neg]
      · rfl
      · rintro rfl
        exact hc (Char.toNat_inj.1 ((mem_utf8EncodeChar (by decide) c).1 hb))

theorem hexValue?_readPlusSign (c : Char) : hexValue? (readPlusSign c) = hexValue? c := by
  by_cases hc : c = '+'
  · subst hc
    rfl
  · rw [readPlusSign, if_neg hc]

/-- Reading plus signs changes no escape. -/
theorem hasEscape_map_readPlusSign (text : List Char) :
    Percent.HasEscape (text.map readPlusSign) ↔ Percent.HasEscape text := by
  have hpercent (c : Char) : readPlusSign c = '%' ↔ c = '%' := by
    by_cases hc : c = '+'
    · subst hc
      decide
    · rw [readPlusSign, if_neg hc]
  induction text with
  | nil => rfl
  | cons c text ih =>
    rw [List.map_cons, Percent.hasEscape_cons, Percent.hasEscape_cons]
    refine or_congr ⟨?_, ?_⟩ ih
    · rintro ⟨a, b, rest, heq, ha, hb⟩
      rw [List.cons.injEq, List.map_eq_cons_iff] at heq
      obtain ⟨hc, x, more, rfl, rfl, hmore⟩ := heq
      obtain ⟨y, more, rfl, rfl, -⟩ := List.map_eq_cons_iff.1 hmore
      rw [hexValue?_readPlusSign] at ha hb
      exact ⟨x, y, more, by rw [(hpercent c).1 hc], ha, hb⟩
    · rintro ⟨a, b, rest, heq, ha, hb⟩
      rw [List.cons.injEq] at heq
      obtain ⟨rfl, rfl⟩ := heq
      refine ⟨readPlusSign a, readPlusSign b, rest.map readPlusSign, rfl, ?_, ?_⟩
      · rwa [hexValue?_readPlusSign]
      · rwa [hexValue?_readPlusSign]

/-- Reading never makes a text longer. -/
theorem length_decode_le (text : List Char) :
    (decode (Utf8.encode text)).toList.length ≤ text.length := by
  have h := (Percent.readsWithin_decodeBytes (text.map readPlusSign)).1
  rw [decode_eq, map_readPlus_encode, Utf8.lenientString, String.toList_ofList]
  rwa [List.length_map] at h

/-- **A text is read as itself exactly if it has neither a plus sign nor an escape.** -/
theorem decode_encode_eq_iff (text : List Char) :
    decode (Utf8.encode text) = String.ofList text ↔ '+' ∉ text ∧ ¬Percent.HasEscape text := by
  rw [decode_eq, map_readPlus_encode, Utf8.lenientString, String.ofList_inj,
    ← hasEscape_map_readPlusSign]
  constructor
  · intro h
    -- A text with an escape is read as a shorter one.
    have hescape : ¬Percent.HasEscape (text.map readPlusSign) := by
      intro hescape
      have hlength := Percent.length_decodeLenient_lt hescape
      rw [h, List.length_map] at hlength
      exact Nat.lt_irrefl _ hlength
    rw [Percent.decodeLenient_decodeBytes hescape] at h
    refine ⟨fun hplus => ?_, hescape⟩
    have hspace : readPlusSign '+' = '+' :=
      List.map_inj_left.1 (h.trans (List.map_id text).symm) '+' hplus
    exact absurd hspace (by decide)
  · rintro ⟨hplus, hescape⟩
    rw [Percent.decodeLenient_decodeBytes hescape]
    refine (List.map_congr_left fun c hc => ?_).trans (List.map_id text)
    refine if_neg ?_
    rintro rfl
    exact hplus hc

/-! ## Values pasted into a query -/

/-- Every pair is read from a piece of the text. -/
theorem exists_piece_of_mem_decodePairs {text : List Char} {p : String × String}
    (h : p ∈ decodePairs text) :
    ∃ piece ∈ pieces '&' text, decodePair (Utf8.encode piece) = p := by
  rw [decodePairs_eq] at h
  obtain ⟨piece, hmem, rfl⟩ := List.mem_map.1 h
  exact ⟨piece, (List.mem_filter.1 hmem).1, rfl⟩

/-- So is one from every piece with something in it. -/
theorem mem_decodePairs_of_mem_pieces {text piece : List Char} (hne : piece ≠ [])
    (h : piece ∈ pieces '&' text) : decodePair (Utf8.encode piece) ∈ decodePairs text := by
  rw [decodePairs_eq]
  exact List.mem_map.2 ⟨piece, List.mem_filter.2 ⟨h, by simpa using hne⟩, rfl⟩

/-- No value is longer than the piece it is read from. -/
theorem length_decodePair_le (piece : List Char) :
    (decodePair (Utf8.encode piece)).2.toList.length ≤ piece.length := by
  match hcut : cut '=' piece with
  | none =>
    have hequals : ('=' : Char).toNat < 128 := by decide
    have hnone : cut 0x3d (Utf8.encode piece) = none := by
      have hnone := cut_encode hequals piece
      rwa [hcut] at hnone
    rw [decodePair, hnone]
    simp
  | some (key, value) =>
    obtain ⟨rfl, hkey⟩ := cut_eq_some_iff.1 hcut
    have hlength := length_decode_le value
    rw [decodePair_of_not_mem hkey, List.length_append, List.length_cons]
    dsimp only
    omega

/-- A value without an ampersand is the only one. -/
theorem decodePairs_of_not_mem {key value : List Char} (hequals : '=' ∉ key)
    (hkey : '&' ∉ key) (hvalue : '&' ∉ value) :
    decodePairs (key ++ '=' :: value) =
      [(decode (Utf8.encode key), decode (Utf8.encode value))] := by
  have hpiece : ∀ text ∈ [key ++ '=' :: value], text ≠ [] ∧ '&' ∉ text := by
    simp [hkey, hvalue]
  have hread := decodePairs_intercalate hpiece
  rwa [List.intercalate_singleton, List.map_singleton, decodePair_of_not_mem hequals] at hread

/-- A value with an ampersand is cut short. -/
theorem length_lt_of_mem_decodePairs {key value : List Char} (hequals : '=' ∉ key)
    (hkey : '&' ∉ key) (hvalue : '&' ∈ value) {p : String × String}
    (hp : p ∈ decodePairs (key ++ '=' :: value)) : p.2.toList.length < value.length := by
  obtain ⟨⟨before, after⟩, hcut⟩ : ∃ parts, cut '&' value = some parts := by
    rw [← Option.isSome_iff_exists, Option.isSome_iff_ne_none, ne_eq, cut_eq_none_iff]
    exact not_not.2 hvalue
  obtain ⟨rfl, hbefore⟩ := cut_eq_some_iff.1 hcut
  obtain ⟨piece, hpiece, rfl⟩ := exists_piece_of_mem_decodePairs hp
  have hfirst : '&' ∉ key ++ '=' :: before := by simp [hkey, hbefore]
  rw [← List.cons_append, ← List.append_assoc, pieces_append_cons hfirst, List.mem_cons] at hpiece
  rw [List.length_append, List.length_cons]
  -- What is before the first ampersand and what is after it are both shorter than the value.
  rcases hpiece with rfl | hpiece
  · rw [decodePair_of_not_mem hequals]
    have hlength := length_decode_le before
    dsimp only
    omega
  · have hlength := length_decodePair_le piece
    have hle := length_le_of_mem_pieces hpiece
    omega

/-- A text that stands for itself in a query: no character in it is read as anything else. -/
def IsVerbatim (text : List Char) : Prop :=
  '&' ∉ text ∧ '+' ∉ text ∧ ¬Percent.HasEscape text

/-- A text without a percent sign has no escape. -/
theorem percent_mem_of_hasEscape {text : List Char} (h : Percent.HasEscape text) : '%' ∈ text := by
  induction h with
  | here ha hb => exact List.mem_cons_self
  | later h ih => exact List.mem_cons_of_mem _ ih

theorem IsVerbatim.of_not_mem {text : List Char} (hampersand : '&' ∉ text) (hplus : '+' ∉ text)
    (hpercent : '%' ∉ text) : IsVerbatim text :=
  ⟨hampersand, hplus, fun h => hpercent (percent_mem_of_hasEscape h)⟩

/-- A text that stands for itself is read as itself. -/
theorem decode_of_isVerbatim {text : String} (h : IsVerbatim text.toList) :
    decode (Utf8.encode text.toList) = text := by
  rw [(decode_encode_eq_iff _).2 h.2, String.ofList_toList]

/-- **A value that stands for itself is read from the query it is pasted into**, and nothing else
is. -/
theorem decodePairs_of_isVerbatim {key value : String} (hequals : '=' ∉ key.toList)
    (hkey : IsVerbatim key.toList) (hvalue : IsVerbatim value.toList) :
    decodePairs (key.toList ++ '=' :: value.toList) = [(key, value)] := by
  rw [decodePairs_of_not_mem hequals hkey.1 hvalue.1, decode_of_isVerbatim hkey,
    decode_of_isVerbatim hvalue]

/-- **Only such a value is.** -/
theorem mem_decodePairs_iff {key : String} (hequals : '=' ∉ key.toList)
    (hkey : IsVerbatim key.toList) {value : String} :
    (key, value) ∈ decodePairs (key.toList ++ '=' :: value.toList) ↔
      IsVerbatim value.toList := by
  refine ⟨fun hmem => ?_, fun hvalue => ?_⟩
  · -- A value that is read from what is pasted is no longer than that, so nothing was cut off.
    have hampersand : '&' ∉ value.toList := fun h =>
      Nat.lt_irrefl _ (length_lt_of_mem_decodePairs hequals hkey.1 h hmem)
    rw [decodePairs_of_not_mem hequals hkey.1 hampersand, List.mem_singleton,
      Prod.mk.injEq] at hmem
    refine ⟨hampersand, (decode_encode_eq_iff _).1 ?_⟩
    rw [← hmem.2, String.ofList_toList]
  · rw [decodePairs_of_isVerbatim hequals hkey hvalue]
    exact List.mem_singleton_self _

end Form

end HubLink.Text
