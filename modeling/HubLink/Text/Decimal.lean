/-! # Decimal numbers

Reading unsigned decimal numbers below a bound, and the text of natural numbers and integers.
A reader accepts one leading `+` and any number of leading zeros, nothing else beside digits. The
text of a number below the bound is read back (`readNumber?_decimal`). -/

namespace HubLink.Text

/-- Why a text is not a number. -/
inductive NumberError where
  /-- There is nothing to read. -/
  | empty
  /-- A character is not an ASCII digit, or a sign stands alone. -/
  | badDigit
  /-- The number is not below the bound. -/
  | tooLarge
  deriving DecidableEq, Repr

/-- How the error is worded. -/
def NumberError.message : NumberError → String
  | .empty => "cannot parse integer from empty string"
  | .badDigit => "invalid digit found in string"
  | .tooLarge => "number too large to fit in target type"

/-- The value of an ASCII digit. -/
def digit? (c : Char) : Option Nat :=
  if '0' ≤ c ∧ c ≤ '9' then some (c.toNat - '0'.toNat) else none

/-- Read digits after those that make up `value`; the first fault from the left decides. -/
def readDigits (bound value : Nat) : List Char → Except NumberError Nat
  | [] => .ok value
  | c :: rest =>
    match digit? c with
    | none => .error .badDigit
    | some d =>
      if value * 10 + d < bound then readDigits bound (value * 10 + d) rest
      else .error .tooLarge

/-- The number below `bound` written by a text. -/
def readNumber (bound : Nat) : List Char → Except NumberError Nat
  | [] => .error .empty
  | ['+'] => .error .badDigit
  | '+' :: rest => readDigits bound 0 rest
  | text => readDigits bound 0 text

/-- The number below `bound` written by a text, if it is one. -/
def readNumber? (bound : Nat) (text : List Char) : Option Nat := (readNumber bound text).toOption

/-- The decimal digits of a natural number. -/
def decimal (n : Nat) : List Char := Nat.toDigits 10 n

/-- The decimal text of an integer. -/
def decimalInt : Int → List Char
  | .ofNat n => decimal n
  | .negSucc n => '-' :: decimal (n + 1)

/-- One more than the greatest 16-bit number. -/
def bound16 : Nat := 65536

/-- One more than the greatest 31-bit number. -/
def bound31 : Nat := 2147483648

/-- One more than the greatest 32-bit number. -/
def bound32 : Nat := 4294967296

/-- One more than the greatest 63-bit number. -/
def bound63 : Nat := 9223372036854775808

/-- One more than the greatest 64-bit number. -/
def bound64 : Nat := 18446744073709551616

/-- A natural number is written with digits. -/
theorem isDigit_of_mem_decimal {n : Nat} {c : Char} (h : c ∈ decimal n) : c.isDigit = true :=
  Nat.isDigit_of_mem_toDigits (by decide) (by decide) h

/-- An integer is written with digits and a minus sign. -/
theorem mem_decimalInt {n : Int} {c : Char} (h : c ∈ decimalInt n) :
    c = '-' ∨ c.isDigit = true := by
  cases n with
  | ofNat k => exact .inr (isDigit_of_mem_decimal h)
  | negSucc k => exact (List.mem_cons.1 h).imp_right isDigit_of_mem_decimal

/-- All characters of a run of digits are digits. -/
theorem digit?_of_readDigits {bound value n : Nat} {text : List Char}
    (h : readDigits bound value text = .ok n) : ∀ c ∈ text, (digit? c).isSome := by
  induction text generalizing value with
  | nil => simp
  | cons c rest ih =>
    rw [readDigits] at h
    cases hdigit : digit? c with
    | none =>
      rw [hdigit] at h
      cases h
    | some d =>
      rw [hdigit] at h
      simp only at h
      split at h
      · intro c' hc'
        rcases List.mem_cons.1 hc' with rfl | hc'
        · rw [hdigit]
          rfl
        · exact ih h c' hc'
      · cases h

/-- **A number is written with digits alone**, but for a plus sign before them. -/
theorem digit?_of_readNumber? {bound n : Nat} {text : List Char}
    (h : readNumber? bound text = some n) : ∀ c ∈ text, c = '+' ∨ (digit? c).isSome := by
  have hread : readNumber bound text = .ok n := by
    rw [readNumber?] at h
    cases hread : readNumber bound text with
    | error e =>
      rw [hread] at h
      cases h
    | ok m =>
      rw [hread] at h
      cases h
      rfl
  intro c hc
  unfold readNumber at hread
  split at hread
  · cases hread
  · cases hread
  · rcases List.mem_cons.1 hc with rfl | hc
    · exact .inl rfl
    · exact .inr (digit?_of_readDigits hread c hc)
  · exact .inr (digit?_of_readDigits hread c hc)

/-- Digits are read on from what the digits before them make up. -/
theorem readDigits_append {bound value n : Nat} {text : List Char}
    (h : readDigits bound value text = .ok n) (rest : List Char) :
    readDigits bound value (text ++ rest) = readDigits bound n rest := by
  induction text generalizing value with
  | nil =>
    obtain rfl : value = n := by simpa [readDigits] using h
    rfl
  | cons c text ih =>
    rw [readDigits] at h
    rw [List.cons_append, readDigits]
    cases hdigit : digit? c with
    | none =>
      rw [hdigit] at h
      cases h
    | some d =>
      rw [hdigit] at h
      dsimp only at h ⊢
      split at h
      · rename_i hlt
        rw [if_pos hlt, ih h]
      · cases h

theorem digit?_digitChar : ∀ d < 10, digit? (Nat.digitChar d) = some d := by decide

/-- The digits of a number below the bound make it up. -/
theorem readDigits_decimal {bound n : Nat} (h : n < bound) :
    readDigits bound 0 (decimal n) = .ok n := by
  induction n using Nat.strongRecOn with
  | ind n ih =>
    have hlast : n % 10 < 10 := Nat.mod_lt n (by decide)
    by_cases hn : n < 10
    · rw [decimal, Nat.toDigits_of_lt_base hn, readDigits, digit?_digitChar n hn]
      simp only [Nat.zero_mul, Nat.zero_add, if_pos h, readDigits]
    · -- The last digit is read after those of the tenth part.
      have hten : n / 10 * 10 + n % 10 = n := by omega
      have hwritten : decimal n = decimal (n / 10) ++ [Nat.digitChar (n % 10)] :=
        Nat.toDigits_of_base_le (by decide) (by omega)
      rw [hwritten, readDigits_append (ih (n / 10) (by omega) (by omega)), readDigits,
        digit?_digitChar _ hlast]
      simp only [hten, if_pos h, readDigits]

/-- A text with digits only is read from its first character on. -/
theorem readNumber_of_not_mem {bound : Nat} {text : List Char} (hne : text ≠ [])
    (hplus : '+' ∉ text) : readNumber bound text = readDigits bound 0 text := by
  unfold readNumber
  split
  · exact absurd rfl hne
  · exact absurd List.mem_cons_self hplus
  · exact absurd List.mem_cons_self hplus
  · rfl

/-- **The text of a number below the bound is read back.** -/
theorem readNumber?_decimal {bound n : Nat} (h : n < bound) :
    readNumber? bound (decimal n) = some n := by
  have hplus : '+' ∉ decimal n := fun hmem => absurd (isDigit_of_mem_decimal hmem) (by decide)
  have hne : decimal n ≠ [] := Nat.toDigits_ne_nil
  rw [readNumber?, readNumber_of_not_mem hne hplus, readDigits_decimal h]
  rfl

/-- Two numbers with one text are one number. -/
theorem decimal_inj {n m : Nat} (h : decimal n = decimal m) : n = m := by
  have hn : n < max n m + 1 := by omega
  have hm : m < max n m + 1 := by omega
  have hread := readNumber?_decimal hn
  rw [h, readNumber?_decimal hm] at hread
  exact (Option.some.inj hread).symm

end HubLink.Text
