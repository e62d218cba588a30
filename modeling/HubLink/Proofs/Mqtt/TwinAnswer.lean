import HubLink.Proofs.Mqtt.Route
import Mathlib.Tactic.ByContra

/-! # Answers about the twin

Which answers about the twin reach the request they belong to. The query of an answer is read as a
whole: a version or a wait that is repeated or is no number takes the request id down with it, and
the answer is ignored, although neither is needed to say what it answers. Any other answer with a
request id confirms or refuses its request (`route_twinResponse_iff`). -/

namespace HubLink.Mqtt

open Text

/-! ## Parameters of a query -/

/-- A parameter is missing, or it stands there once and is a number. -/
def Legible (pairs : List (String × String)) (key : String) : Prop :=
  valuesOf pairs key = [] ∨
    ∃ value, valuesOf pairs key = [value] ∧ (readNumber? bound64 value.toList).isSome

/-- The number of a parameter is told exactly if it is legible. -/
theorem isSome_soleNumber?_iff {pairs : List (String × String)} {key : String} :
    (soleNumber? pairs key).isSome ↔ Legible pairs key := by
  unfold soleNumber? soleValue? Legible
  cases hvalues : valuesOf pairs key with
  | nil => simp
  | cons value more =>
    cases more with
    | nil => cases hread : readNumber? bound64 value.toList <;> simp [hread]
    | cons next more => simp

/-- A value that stands there once is found. -/
theorem soleValue?_of_valuesOf {pairs : List (String × String)} {key value : String}
    (h : valuesOf pairs key = [value]) : soleValue? pairs key = some (some value) := by
  rw [soleValue?, h]

/-- A query whose parameters are all legible says what they are. -/
theorem TwinQuery.ofPairs_of_legible {pairs : List (String × String)} {rid : String}
    (hrid : valuesOf pairs requestIdKey = [rid]) {version retryAfter : Option Nat}
    (hversion : soleNumber? pairs versionKey = some version)
    (hretry : soleNumber? pairs retryAfterKey = some retryAfter) :
    TwinQuery.ofPairs pairs = ⟨some rid, version, retryAfter⟩ := by
  rw [TwinQuery.ofPairs, soleValue?_of_valuesOf hrid, hversion, hretry]
  rfl

/-- **A query with one illegible parameter says nothing**, not even what it answers. -/
theorem TwinQuery.ofPairs_of_illegible {pairs : List (String × String)}
    (h : ¬Legible pairs versionKey ∨ ¬Legible pairs retryAfterKey) :
    TwinQuery.ofPairs pairs = {} := by
  rw [← isSome_soleNumber?_iff, ← isSome_soleNumber?_iff, Option.not_isSome_iff_eq_none,
    Option.not_isSome_iff_eq_none] at h
  unfold TwinQuery.ofPairs
  cases soleValue? pairs requestIdKey with
  | none => rfl
  | some rid =>
    rcases h with hversion | hretry
    · rw [hversion]
      rfl
    · rw [hretry]
      cases soleNumber? pairs versionKey <;> rfl

/-! ## Topics of answers -/

/-- No number is written with a slash. -/
theorem slash_not_mem_of_readNumber? {bound n : Nat} {text : List Char}
    (h : readNumber? bound text = some n) : '/' ∉ text := by
  intro hslash
  rcases digit?_of_readNumber? h '/' hslash with heq | hdigit
  · exact absurd heq (by decide)
  · exact absurd hdigit (by decide)

/-- The topic of an answer about the twin. -/
def Topic.twinResponse (status query : List Char) : Topic :=
  twinResponseLead ++ (status ++ '/' :: '?' :: query)

/-- **An answer about the twin is ignored exactly if its version or its wait is illegible.** Any
other one that has a single request id confirms or refuses that request, with what the answer says
about it. -/
theorem route_twinResponse_iff (device : String) {status query : List Char} {code : Nat}
    (hstatus : readNumber? bound16 status = some code) {rid : String} {id : Nat}
    (hrid : valuesOf (queryPairs ('?' :: query)) requestIdKey = [rid])
    (hid : readNumber? bound64 rid.toList = some id) (body : List UInt8) (packetId : Option Nat) :
    (route (Topic.deviceLead device) (Topic.twinResponse status query) body packetId = none ↔
        ¬Legible (queryPairs ('?' :: query)) versionKey ∨
          ¬Legible (queryPairs ('?' :: query)) retryAfterKey) ∧
      ∀ version retryAfter : Option Nat,
        soleNumber? (queryPairs ('?' :: query)) versionKey = some version →
        soleNumber? (queryPairs ('?' :: query)) retryAfterKey = some retryAfter →
          route (Topic.deviceLead device) (Topic.twinResponse status query) body packetId =
            some (if 200 ≤ code ∧ code < 300 then
                .acknowledged id (some { status := code, body, version })
              else
                .rejected id (.service code (Utf8.lenientString body)
                  (retryAfter.map Duration.ofSeconds))) := by
  have hcut : cut '/' (status ++ '/' :: '?' :: query) = some (status, '?' :: query) :=
    cut_eq_some_iff.2 ⟨rfl, slash_not_mem_of_readNumber? hstatus⟩
  have hlegible (version retryAfter : Option Nat)
      (hversion : soleNumber? (queryPairs ('?' :: query)) versionKey = some version)
      (hretry : soleNumber? (queryPairs ('?' :: query)) retryAfterKey = some retryAfter) :
      twinResponse? (status ++ '/' :: '?' :: query) body =
        some (if 200 ≤ code ∧ code < 300 then
            .acknowledged id (some { status := code, body, version })
          else
            .rejected id (.service code (Utf8.lenientString body)
              (retryAfter.map Duration.ofSeconds))) := by
    simp only [twinResponse?, hcut, hstatus, TwinQuery.ofPairs_of_legible hrid hversion hretry,
      Option.bind_some, hid, Option.bind_eq_bind, Option.pure_def]
    split <;> rfl
  rw [Topic.twinResponse, route_twinResponse]
  refine ⟨⟨fun hnone => ?_, fun hillegible => ?_⟩, hlegible⟩
  · -- Were both legible, the answer would be read.
    by_contra hnot
    rw [not_or, Classical.not_not, Classical.not_not, ← isSome_soleNumber?_iff,
      ← isSome_soleNumber?_iff, Option.isSome_iff_exists, Option.isSome_iff_exists] at hnot
    obtain ⟨⟨version, hversion⟩, retryAfter, hretry⟩ := hnot
    rw [hlegible version retryAfter hversion hretry] at hnone
    cases hnone
  · simp only [twinResponse?, hcut, hstatus, TwinQuery.ofPairs_of_illegible hillegible,
      Option.bind_some, Option.bind_none, Option.bind_eq_bind]

/-! ## An answer without a version -/

namespace Pump

/-- The query of an answer to request 5 about the third version of the twin. -/
def versioned : List Char := "$rid=5&$version=3".toList

/-- The same query with the version left empty. -/
def unversioned : List Char := "$rid=5&$version=".toList

end Pump

/-- The answer to the pump's request confirms it, unless its version is left empty. -/
theorem route_pump_answers :
    route (Topic.deviceLead "pump") (Topic.twinResponse "200".toList Pump.versioned) [] none =
        some (.acknowledged 5 (some { status := 200, body := [], version := some 3 })) ∧
      route (Topic.deviceLead "pump") (Topic.twinResponse "200".toList Pump.unversioned) [] none =
        none := by
  have hstatus : readNumber? bound16 "200".toList = some 200 := by decide +kernel
  have hid : readNumber? bound64 "5".toList = some 5 := by decide +kernel
  constructor
  · have hrid : valuesOf (queryPairs ('?' :: Pump.versioned)) requestIdKey = ["5"] := by
      decide +kernel
    exact (route_twinResponse_iff "pump" hstatus hrid hid [] none).2 (some 3) none
      (by decide +kernel) (by decide +kernel)
  · have hrid : valuesOf (queryPairs ('?' :: Pump.unversioned)) requestIdKey = ["5"] := by
      decide +kernel
    have hversion : ¬Legible (queryPairs ('?' :: Pump.unversioned)) versionKey := by
      rw [← isSome_soleNumber?_iff]
      decide +kernel
    exact (route_twinResponse_iff "pump" hstatus hrid hid [] none).1.2 (.inl hversion)

/-- **Not every answer with a request id is told to whom it belongs.** -/
theorem not_routed_of_request_id :
    ¬∀ (device : String) (status query : List Char) (rid : String) (body : List UInt8)
      (packetId : Option Nat), (readNumber? bound16 status).isSome →
        valuesOf (queryPairs ('?' :: query)) requestIdKey = [rid] →
        (readNumber? bound64 rid.toList).isSome →
        (route (Topic.deviceLead device) (Topic.twinResponse status query) body
          packetId).isSome := by
  intro hall
  have hsome := hall "pump" "200".toList Pump.unversioned "5" [] none (by decide +kernel)
    (by decide +kernel) (by decide +kernel)
  have hnone : route (Topic.deviceLead "pump")
      (Topic.twinResponse "200".toList Pump.unversioned) [] none = none := by
    decide +kernel
  rw [hnone] at hsome
  cases hsome

end HubLink.Mqtt
