import HubLink.Proofs.Text.Pairs
import HubLink.Token.Basic

/-! # Fields of tokens

What a token says, read from the token: after the text that every token starts with come fields
between ampersands, each a name and what follows its first `=`, with escapes undone. The resource,
the signature and the expiry come back from every token made from a key
(`Token.fields?_sign_none`), since what is written of them has no ampersand. The name of a policy is
written as it is, so that it is read with all that it means in a query
(`Token.fields?_sign_some`): it comes back exactly if it has neither an ampersand nor an escape
(`Credential.saysSigned_iff`). -/

namespace HubLink

open Text

namespace Token

/-! ## What is written -/

/-- Octets that stand for themselves in a resource are of ASCII, and none is the percent sign. -/
theorem ascii_of_isPlain {b : UInt8} (h : isPlain b = true) : b.toNat < 128 ∧ b ≠ 0x25 := by
  refine ⟨Percent.toNat_lt_of_isOneOf (by decide) h, ?_⟩
  rintro rfl
  exact absurd h (by decide)

/-- So are the octets that form encoding leaves as they are. -/
theorem ascii_of_isSafe {b : UInt8} (h : Form.isSafe b = true) : b.toNat < 128 ∧ b ≠ 0x25 := by
  refine ⟨Form.toNat_lt_of_isSafe h, ?_⟩
  rintro rfl
  exact absurd h (by decide)

/-! ## What is read -/

/-- Undo the escapes of a text. -/
def unescape (text : List Char) : String :=
  Utf8.lenientString (Percent.decodeBytes (Utf8.encode text))

/-- Read a field: its name, and what follows the first `=`. -/
def readField? (field : List Char) : Option (String × String) :=
  (cut '=' field).map fun (name, value) => (String.ofList name, unescape value)

/-- Read fields that are joined by ampersands. -/
def readFields? (joined : List Char) : Option (List (String × String)) :=
  (pieces '&' joined).mapM readField?

/-- The fields of a token. -/
def fields? (token : List Char) : Option (List (String × String)) :=
  (afterLead lead token).bind readFields?

/-- How a field is written. -/
def field (name : String) (value : List Char) : List Char := name.toList ++ '=' :: value

section Reading

variable {name : String} {value : List Char}

theorem readField?_field (hname : '=' ∉ name.toList) (value : List Char) :
    readField? (field name value) = some (name, unescape value) := by
  rw [readField?, field, cut_eq_some_iff.2 ⟨rfl, hname⟩, Option.map_some]
  simp only [String.ofList_toList]

theorem not_mem_field (hname : '&' ∉ name.toList) (hvalue : '&' ∉ value) :
    '&' ∉ field name value := by
  simp [field, hname, hvalue]

/-- The last field. -/
theorem readFields?_field (hequals : '=' ∉ name.toList) (hname : '&' ∉ name.toList)
    (hvalue : '&' ∉ value) : readFields? (field name value) = some [(name, unescape value)] := by
  rw [readFields?, pieces_of_not_mem (not_mem_field hname hvalue), List.mapM_cons,
    readField?_field hequals, List.mapM_nil]
  rfl

/-- Fields before others. -/
theorem readFields?_append {joined : List Char} {fields : List (String × String)}
    (h : readFields? joined = some fields) (rest : List Char) :
    readFields? (joined ++ '&' :: rest) = (readFields? rest).map (fields ++ ·) := by
  rw [readFields?] at h
  rw [readFields?, pieces_append, List.mapM_append, h, readFields?]
  cases (pieces '&' rest).mapM readField? <;> rfl

/-- No text is longer with its escapes undone. -/
theorem length_unescape_le (text : List Char) : (unescape text).toList.length ≤ text.length := by
  rw [unescape, Utf8.lenientString, String.toList_ofList]
  exact (Percent.readsWithin_decodeBytes text).1

/-- A text is read as itself exactly if it has no escape. -/
theorem unescape_eq_iff (text : String) :
    unescape text.toList = text ↔ ¬Percent.HasEscape text.toList := by
  rw [unescape, Utf8.lenientString, ← String.toList_inj, String.toList_ofList]
  constructor
  · intro h hescape
    have hlength := Percent.length_decodeLenient_lt hescape
    rw [h] at hlength
    exact Nat.lt_irrefl _ hlength
  · exact Percent.decodeLenient_decodeBytes

/-- **A value that is written as it is comes back** exactly if it has neither an ampersand nor an
escape. -/
theorem readFields?_field_iff (hequals : '=' ∉ name.toList) (hname : '&' ∉ name.toList)
    {value : String} : readFields? (field name value.toList) = some [(name, value)] ↔
      '&' ∉ value.toList ∧ ¬Percent.HasEscape value.toList := by
  constructor
  · intro h
    match hcut : cut '&' value.toList with
    | none =>
      have hvalue := cut_eq_none_iff.1 hcut
      rw [readFields?_field hequals hname hvalue] at h
      simp only [Option.some.injEq, List.cons.injEq, Prod.mk.injEq, true_and, and_true] at h
      exact ⟨hvalue, (unescape_eq_iff value).1 h⟩
    | some (before, after) =>
      -- What is before the first ampersand is too short to be read as the whole value.
      obtain ⟨heq, hbefore⟩ := cut_eq_some_iff.1 hcut
      have hfield : field name value.toList = field name before ++ '&' :: after := by
        rw [heq, field, field, List.append_assoc, List.cons_append]
      rw [hfield, readFields?_append (readFields?_field hequals hname hbefore),
        Option.map_eq_some_iff] at h
      obtain ⟨rest, -, hrest⟩ := h
      have hvalue : unescape before = value := (Prod.mk.inj (List.cons.inj hrest).1).2
      have hlength := length_unescape_le before
      rw [hvalue, heq, List.length_append, List.length_cons] at hlength
      omega
  · rintro ⟨hvalue, hescape⟩
    rw [readFields?_field hequals hname hvalue, (unescape_eq_iff value).2 hescape]

end Reading

/-! ## Tokens made from keys -/

/-- What a token made from a key says of the resource, with the signature over the resource as it is
written and the expiry. -/
def signed (resource : String) (key : List UInt8) (expiry : Int) : List (String × String) :=
  let text := resourceText resource.toList ++ '\n' :: decimalInt expiry
  [("sr", resource), ("sig", String.ofList (signature key text)),
    ("se", String.ofList (decimalInt expiry))]

theorem ampersand_not_mem_resourceText (resource : List Char) : '&' ∉ resourceText resource :=
  Percent.not_mem_encode (by decide) (by decide) (by decide) resource

theorem unescape_resourceText (resource : String) :
    unescape (resourceText resource.toList) = resource := by
  rw [unescape, resourceText, Percent.decode_encode fun _ => ascii_of_isPlain, String.ofList_toList]

theorem space_not_mem_signature (key : List UInt8) (text : List Char) :
    ' ' ∉ signature key text :=
  Base64.not_mem_encode (by decide) (by decide) _

theorem unescape_signature (key : List UInt8) (text : List Char) :
    unescape (Form.encode (signature key text)) = String.ofList (signature key text) := by
  rw [unescape, Form.encode_eq_percent (space_not_mem_signature key text),
    Percent.decode_encode fun _ => ascii_of_isSafe]

theorem not_mem_decimalInt {c : Char} (hsign : c ≠ '-') (hdigit : c.isDigit = false)
    (expiry : Int) : c ∉ decimalInt expiry := by
  intro hmem
  rcases mem_decimalInt hmem with h | h
  · exact hsign h
  · rw [hdigit] at h
    cases h

theorem unescape_decimalInt (expiry : Int) :
    unescape (decimalInt expiry) = String.ofList (decimalInt expiry) := by
  have hescape : ¬Percent.HasEscape (decimalInt expiry) := fun h =>
    not_mem_decimalInt (by decide) (by decide) expiry (Form.percent_mem_of_hasEscape h)
  rw [unescape, Utf8.lenientString, Percent.decodeLenient_decodeBytes hescape]

theorem sign_none (resource : List Char) (key : List UInt8) (expiry : Int) :
    sign resource key expiry none =
      lead ++ (field "sr" (resourceText resource) ++ '&' ::
        (field "sig"
            (Form.encode (signature key (resourceText resource ++ '\n' :: decimalInt expiry))) ++
          '&' :: field "se" (decimalInt expiry))) := by
  have hname : Form.encode ['s', 'i', 'g'] = ['s', 'i', 'g'] := by decide
  simp [sign, field, Form.encodePair, hname]

/-- The policy of a token comes after all else and is written as it is. -/
theorem sign_some (resource : List Char) (key : List UInt8) (expiry : Int) (policy : String) :
    sign resource key expiry (some policy) =
      sign resource key expiry none ++ '&' :: field "skn" policy.toList := by
  simp [sign, field]

/-- **A token without a policy is read back.** -/
theorem fields?_sign_none (resource : String) (key : List UInt8) (expiry : Int) :
    fields? (sign resource.toList key expiry none) = some (signed resource key expiry) := by
  have hsignature (text : List Char) : '&' ∉ Form.encode (signature key text) :=
    Form.not_mem_encode_of_not_isSafe (by decide) (by decide) (by decide) _
  have hexpiry : '&' ∉ decimalInt expiry := not_mem_decimalInt (by decide) (by decide) expiry
  have hlast : readFields? (field "se" (decimalInt expiry)) =
      some [("se", unescape (decimalInt expiry))] :=
    readFields?_field (by decide) (by decide) hexpiry
  have hmiddle (text : List Char) : readFields? (field "sig" (Form.encode (signature key text))) =
      some [("sig", unescape (Form.encode (signature key text)))] :=
    readFields?_field (by decide) (by decide) (hsignature text)
  have hfirst : readFields? (field "sr" (resourceText resource.toList)) =
      some [("sr", unescape (resourceText resource.toList))] :=
    readFields?_field (by decide) (by decide) (ampersand_not_mem_resourceText resource.toList)
  rw [sign_none, fields?, afterLead_eq_some_iff.2 rfl, Option.bind_some,
    readFields?_append hfirst, readFields?_append (hmiddle _), hlast, unescape_resourceText,
    unescape_signature, unescape_decimalInt]
  rfl

/-- **What a policy adds to a token** is what its name, pasted into a query, is read as. -/
theorem fields?_sign_some (resource : String) (key : List UInt8) (expiry : Int) (policy : String) :
    fields? (sign resource.toList key expiry (some policy)) =
      (readFields? (field "skn" policy.toList)).map (signed resource key expiry ++ ·) := by
  have hsigned := fields?_sign_none resource key expiry
  rw [sign_none, fields?, afterLead_eq_some_iff.2 rfl, Option.bind_some] at hsigned
  rw [sign_some, sign_none, List.append_assoc, fields?, afterLead_eq_some_iff.2 rfl,
    Option.bind_some, readFields?_append hsigned]

end Token

namespace Credential

/-- A credential gives a token, and these are its fields. -/
def Says (c : Credential) (expiry : Int) (fields : List (String × String)) : Prop :=
  ∃ token, c.token expiry = .ok token ∧ Token.fields? token.toList = some fields

theorem says_deviceKey (resource : String) (key : List UInt8) (expiry : Int) :
    (deviceKey resource key).Says expiry (Token.signed resource key expiry) := by
  refine ⟨_, rfl, ?_⟩
  rw [String.toList_ofList]
  exact Token.fields?_sign_none resource key expiry

/-- What the token of a policy says is settled by the name of the policy. -/
theorem says_serviceKey_iff (host policy : String) (key : List UInt8) (expiry : Int)
    (fields : List (String × String)) :
    (serviceKey host policy key).Says expiry (Token.signed host key expiry ++ fields) ↔
      Token.readFields? (Token.field "skn" policy.toList) = some fields := by
  have htoken : Token.fields? (String.ofList
      (Token.sign host.toList key expiry (some policy))).toList =
      (Token.readFields? (Token.field "skn" policy.toList)).map
        (Token.signed host key expiry ++ ·) := by
    rw [String.toList_ofList, Token.fields?_sign_some]
  constructor
  · rintro ⟨token, hok, hfields⟩
    rw [← Except.ok.inj hok, htoken, Option.map_eq_some_iff] at hfields
    obtain ⟨read, hread, heq⟩ := hfields
    rw [hread, List.append_cancel_left heq]
  · intro hread
    exact ⟨_, rfl, by rw [htoken, hread, Option.map_some]⟩

/-- **Tokens say what they were made from.** The fields of a device's token are the resource, the
signature and the expiry, each once, for every device, key and expiry; the token of a policy has
these and the policy, and no others, exactly if the name of the policy has neither an ampersand nor
an escape. -/
theorem saysSigned_iff (key : List UInt8) (expiry : Int) :
    (∀ hub device : String, (deviceKey (hub ++ "/devices/" ++ device) key).Says expiry
      (Token.signed (hub ++ "/devices/" ++ device) key expiry)) ∧
    ∀ host policy : String,
      (serviceKey host policy key).Says expiry
          (Token.signed host key expiry ++ [("skn", policy)]) ↔
        '&' ∉ policy.toList ∧ ¬Percent.HasEscape policy.toList :=
  ⟨fun _ _ => says_deviceKey _ key expiry, fun host policy =>
    (says_serviceKey_iff host policy key expiry _).trans
      (Token.readFields?_field_iff (by decide) (by decide))⟩

/-- The name of a policy can put a second expiry into a token, and is then not read back. -/
theorem not_saysSigned_of_ampersand :
    (serviceKey "h" "a&se=2" (Utf8.ofString "secret")).Says 1
        (Token.signed "h" (Utf8.ofString "secret") 1 ++ [("skn", "a"), ("se", "2")]) ∧
      ¬(serviceKey "h" "a&se=2" (Utf8.ofString "secret")).Says 1
        (Token.signed "h" (Utf8.ofString "secret") 1 ++ [("skn", "a&se=2")]) := by
  rw [says_serviceKey_iff, says_serviceKey_iff]
  decide

end Credential

end HubLink
