/-! # Base64

The standard alphabet of 64 symbols with `=` as padding. Encoding always pads. Decoding takes the
padding as optional but never accepts more of it than completes the last group of four, and it
refuses a last symbol whose unused bits are not zero. What is encoded is decoded again
(`decode?_encode`). -/

namespace HubLink.Text.Base64

/-- The symbol of a number below 64. -/
def symbol (n : Nat) : Char :=
  if n < 26 then Char.ofNat ('A'.toNat + n)
  else if n < 52 then Char.ofNat ('a'.toNat + (n - 26))
  else if n < 62 then Char.ofNat ('0'.toNat + (n - 52))
  else if n = 62 then '+'
  else '/'

/-- The number a symbol stands for. -/
def value? (c : Char) : Option Nat :=
  if 'A' ≤ c ∧ c ≤ 'Z' then some (c.toNat - 'A'.toNat)
  else if 'a' ≤ c ∧ c ≤ 'z' then some (c.toNat - 'a'.toNat + 26)
  else if '0' ≤ c ∧ c ≤ '9' then some (c.toNat - '0'.toNat + 52)
  else if c = '+' then some 62
  else if c = '/' then some 63
  else none

/-- The text of a list of octets, three to a group of four symbols. -/
def encode : List UInt8 → List Char
  | [] => []
  | [a] => [symbol (a.toNat / 4), symbol (a.toNat % 4 * 16), '=', '=']
  | [a, b] =>
    [symbol (a.toNat / 4), symbol (a.toNat % 4 * 16 + b.toNat / 16),
      symbol (b.toNat % 16 * 4), '=']
  | a :: b :: c :: rest =>
    symbol (a.toNat / 4) :: symbol (a.toNat % 4 * 16 + b.toNat / 16) ::
      symbol (b.toNat % 16 * 4 + c.toNat / 64) :: symbol (c.toNat % 64) :: encode rest

/-- Base64 is written with its symbols and padding only. -/
theorem not_mem_encode {c : Char} (hsymbol : ∀ n < 64, c ≠ symbol n) (hpadding : c ≠ '=')
    (bytes : List UInt8) : c ∉ encode bytes := by
  have hoctet (b : UInt8) : b.toNat < 256 := b.toNat_lt
  induction bytes using encode.induct with
  | case1 => exact List.not_mem_nil
  | case2 a =>
    have ha := hoctet a
    simp [encode, hpadding, hsymbol (a.toNat / 4) (by omega),
      hsymbol (a.toNat % 4 * 16) (by omega)]
  | case3 a b =>
    have ha := hoctet a
    have hb := hoctet b
    simp [encode, hpadding, hsymbol (a.toNat / 4) (by omega),
      hsymbol (a.toNat % 4 * 16 + b.toNat / 16) (by omega),
      hsymbol (b.toNat % 16 * 4) (by omega)]
  | case4 a b c rest ih =>
    have ha := hoctet a
    have hb := hoctet b
    have hc := hoctet c
    simp [encode, ih, hsymbol (a.toNat / 4) (by omega),
      hsymbol (a.toNat % 4 * 16 + b.toNat / 16) (by omega),
      hsymbol (b.toNat % 16 * 4 + c.toNat / 64) (by omega),
      hsymbol (c.toNat % 64) (by omega)]

/-- The octets of a list of symbol values; unused bits at the end have to be zero. -/
def octets? : List Nat → Option (List UInt8)
  | [] => some []
  | [_] => none
  | [a, b] => if b % 16 = 0 then some [UInt8.ofNat (a * 4 + b / 16)] else none
  | [a, b, c] =>
    if c % 4 = 0 then
      some [UInt8.ofNat (a * 4 + b / 16), UInt8.ofNat (b % 16 * 16 + c / 4)]
    else none
  | a :: b :: c :: d :: rest =>
    (octets? rest).map fun more =>
      UInt8.ofNat (a * 4 + b / 16) :: UInt8.ofNat (b % 16 * 16 + c / 4) ::
        UInt8.ofNat (c % 4 * 64 + d) :: more

/-- How many padding characters may follow `n` symbols. -/
def paddingRoom (n : Nat) : Nat :=
  match n % 4 with
  | 2 => 2
  | 3 => 1
  | _ => 0

/-- The octets written by a text. -/
def decode? (text : List Char) : Option (List UInt8) := do
  let symbols := text.takeWhile (· ≠ '=')
  let padding := text.dropWhile (· ≠ '=')
  if padding.all (· = '=') && padding.length ≤ paddingRoom symbols.length then
    octets? (← symbols.mapM value?)
  else
    none

/-! ## Decoding what was encoded -/

/-- The symbol of a number stands for that number and is not the padding. -/
theorem value?_symbol : ∀ n < 64, value? (symbol n) = some n ∧ symbol n ≠ '=' := by decide

/-- The numbers whose symbols make up the text of a list of octets. -/
def sextets : List UInt8 → List Nat
  | [] => []
  | [a] => [a.toNat / 4, a.toNat % 4 * 16]
  | [a, b] => [a.toNat / 4, a.toNat % 4 * 16 + b.toNat / 16, b.toNat % 16 * 4]
  | a :: b :: c :: rest =>
    a.toNat / 4 :: (a.toNat % 4 * 16 + b.toNat / 16) :: (b.toNat % 16 * 4 + c.toNat / 64) ::
      c.toNat % 64 :: sextets rest

theorem lt_of_mem_sextets {bytes : List UInt8} : ∀ n ∈ sextets bytes, n < 64 := by
  have hoctet (b : UInt8) : b.toNat < 256 := b.toNat_lt
  induction bytes using sextets.induct with
  | case1 => simp [sextets]
  | case2 a =>
    have ha := hoctet a
    simp only [sextets, List.forall_mem_cons]
    exact ⟨by omega, by omega, by simp⟩
  | case3 a b =>
    have ha := hoctet a
    have hb := hoctet b
    simp only [sextets, List.forall_mem_cons]
    exact ⟨by omega, by omega, by omega, by simp⟩
  | case4 a b c rest ih =>
    have ha := hoctet a
    have hb := hoctet b
    have hc := hoctet c
    simp only [sextets, List.forall_mem_cons]
    exact ⟨by omega, by omega, by omega, by omega, ih⟩

/-- The numbers give the octets back. -/
theorem octets?_sextets (bytes : List UInt8) : octets? (sextets bytes) = some bytes := by
  have hoctet (b : UInt8) : b.toNat < 256 := b.toNat_lt
  have hback (b : UInt8) {n : Nat} (h : n = b.toNat) : UInt8.ofNat n = b := by
    rw [h, UInt8.ofNat_toNat]
  induction bytes using sextets.induct with
  | case1 => rfl
  | case2 a =>
    have ha := hoctet a
    rw [sextets, octets?, if_pos (by omega), hback a (by omega)]
  | case3 a b =>
    have ha := hoctet a
    have hb := hoctet b
    rw [sextets, octets?, if_pos (by omega), hback a (by omega), hback b (by omega)]
  | case4 a b c rest ih =>
    have ha := hoctet a
    have hb := hoctet b
    have hc := hoctet c
    rw [sextets, octets?, ih, hback a (by omega), hback b (by omega), hback c (by omega)]
    rfl

/-- A text in base64 is made of the symbols and of as much padding as they have room for. -/
theorem encode_eq (bytes : List UInt8) : ∃ n ≤ paddingRoom (sextets bytes).length,
    encode bytes = (sextets bytes).map symbol ++ List.replicate n '=' := by
  induction bytes using sextets.induct with
  | case1 => exact ⟨0, Nat.zero_le _, rfl⟩
  | case2 a => exact ⟨2, Nat.le_refl _, rfl⟩
  | case3 a b => exact ⟨1, Nat.le_refl _, rfl⟩
  | case4 a b c rest ih =>
    obtain ⟨n, hn, heq⟩ := ih
    refine ⟨n, ?_, by rw [encode, sextets, heq]; rfl⟩
    change n ≤ paddingRoom ((sextets rest).length + 4)
    rwa [paddingRoom, Nat.add_mod_right, ← paddingRoom]

theorem mapM_value?_symbols {numbers : List Nat} (h : ∀ n ∈ numbers, n < 64) :
    (numbers.map symbol).mapM value? = some numbers := by
  induction numbers with
  | nil => rfl
  | cons n more ih =>
    rw [List.forall_mem_cons] at h
    rw [List.map_cons, List.mapM_cons, (value?_symbol n h.1).1, ih h.2]
    rfl

/-- **Octets are decoded from their text.** -/
theorem decode?_encode (bytes : List UInt8) : decode? (encode bytes) = some bytes := by
  obtain ⟨n, hn, heq⟩ := encode_eq bytes
  have hsymbols : ∀ c ∈ (sextets bytes).map symbol, decide (c ≠ '=') = true := by
    simp only [List.forall_mem_map, decide_eq_true_eq]
    exact fun k hk => (value?_symbol k (lt_of_mem_sextets k hk)).2
  have htake : (encode bytes).takeWhile (· ≠ '=') = (sextets bytes).map symbol := by
    rw [heq, List.takeWhile_append_of_pos hsymbols]
    cases n <;> simp [List.replicate_succ]
  have hdrop : (encode bytes).dropWhile (· ≠ '=') = List.replicate n '=' := by
    rw [heq, List.dropWhile_append_of_pos hsymbols]
    cases n <;> simp [List.replicate_succ]
  have hpadding : ((List.replicate n '=').all (· = '=') &&
      decide (n ≤ paddingRoom (sextets bytes).length)) = true := by
    simp [hn]
  simp only [decode?, htake, hdrop, List.length_map, List.length_replicate, hpadding, if_true,
    mapM_value?_symbols lt_of_mem_sextets]
  exact octets?_sextets bytes

end HubLink.Text.Base64
