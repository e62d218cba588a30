import HubLink.Proofs.Mqtt.MethodAnswer
import HubLink.Proofs.Mqtt.TwinAnswer

/-! # What an answer about the twin says

A hub answers with a status in the topic and the request id, the version of the twin and the seconds
to wait in the query, among whatever else it puts there. All of it is read back as the hub wrote it:
in any order, among any other pairs, and up to the greatest numbers (`reads_twinResponse`). The
topics that ask for the twin and patch it write their request id the way a hub lists it, so that an
answer that echoes what was asked is an answer to that request and to no other. -/

namespace HubLink

/-- The request that an event answers. -/
def LinkEvent.answered? : LinkEvent → Option Nat
  | .acknowledged id _ | .rejected id _ => some id
  | .notification _ | .disconnected _ => none

namespace Mqtt

open Text

/-! ## Parameters of an answer -/

/-- A number as the value of a pair. -/
def numberText (n : Nat) : String := String.ofList (decimal n)

theorem numberText_inj {n m : Nat} (h : numberText n = numberText m) : n = m :=
  decimal_inj (String.ofList_inj.1 h)

theorem readNumber?_numberText {bound n : Nat} (h : n < bound) :
    readNumber? bound (numberText n).toList = some n := by
  rw [numberText, String.toList_ofList, readNumber?_decimal h]

theorem encode_numberText (n : Nat) : Form.encode (numberText n).toList = decimal n := by
  have hdigits : ∀ c ∈ decimal n, c.isDigit = true := fun c hc =>
    Nat.isDigit_of_mem_toDigits (by decide) (by decide) hc
  rw [numberText, String.toList_ofList, Form.encode_of_isDigit hdigits]

namespace TwinQuery

/-- Whether a pair is a parameter of an answer about the twin. -/
def isParameter (pair : String × String) : Bool :=
  pair.1 = requestIdKey || pair.1 = versionKey || pair.1 = retryAfterKey

/-- The parameters of an answer about the twin. -/
def parameters (id : Nat) (version retryAfter : Option Nat) : List (String × String) :=
  (requestIdKey, numberText id) :: (version.map (versionKey, numberText ·)).toList ++
    (retryAfter.map (retryAfterKey, numberText ·)).toList

/-- Pairs list the parameters of an answer, in some order and among pairs of other keys. -/
def Lists (pairs : List (String × String)) (id : Nat) (version retryAfter : Option Nat) : Prop :=
  (pairs.filter isParameter).Perm (parameters id version retryAfter)

namespace Lists

variable {pairs : List (String × String)} {id : Nat} {version retryAfter : Option Nat}

/-- A parameter has the value it is listed with, and no other. -/
theorem valuesOf_eq (h : Lists pairs id version retryAfter) {key : String}
    (hkey : key = requestIdKey ∨ key = versionKey ∨ key = retryAfterKey) {value : Option Nat}
    (hvalue : valuesOf (parameters id version retryAfter) key = (value.map numberText).toList) :
    valuesOf pairs key = (value.map numberText).toList := by
  have hparameter : ∀ pair : String × String,
      (decide (pair.1 = key) && isParameter pair) = decide (pair.1 = key) := by
    intro pair
    by_cases hpair : pair.1 = key
    · rcases hkey with rfl | rfl | rfl <;> simp [isParameter, hpair]
    · simp [hpair]
  have hfilter : (pairs.filter isParameter).filter (·.1 = key) = pairs.filter (·.1 = key) := by
    rw [List.filter_filter]
    exact List.filter_congr fun pair _ => hparameter pair
  have hperm : (valuesOf pairs key).Perm (value.map numberText).toList := by
    rw [← hvalue, valuesOf, ← hfilter]
    exact (h.filter _).map _
  -- At most one value is listed, so that there is no other order of them.
  cases value with
  | none => exact hperm.eq_nil
  | some n => exact hperm.eq_singleton

theorem valuesOf_requestIdKey (h : Lists pairs id version retryAfter) :
    valuesOf pairs requestIdKey = [numberText id] := by
  have hvalue : valuesOf (parameters id version retryAfter) requestIdKey =
      ((some id).map numberText).toList := by
    cases version <;> cases retryAfter <;> rfl
  exact h.valuesOf_eq (.inl rfl) hvalue

theorem valuesOf_versionKey (h : Lists pairs id version retryAfter) :
    valuesOf pairs versionKey = (version.map numberText).toList := by
  refine h.valuesOf_eq (.inr (.inl rfl)) ?_
  cases version <;> cases retryAfter <;> rfl

theorem valuesOf_retryAfterKey (h : Lists pairs id version retryAfter) :
    valuesOf pairs retryAfterKey = (retryAfter.map numberText).toList := by
  refine h.valuesOf_eq (.inr (.inr rfl)) ?_
  cases version <;> cases retryAfter <;> rfl

end Lists

end TwinQuery

/-- A number that is listed once is read. -/
theorem soleNumber?_of_valuesOf {pairs : List (String × String)} {key : String}
    {number : Option Nat} (hvalues : valuesOf pairs key = (number.map numberText).toList)
    (hbound : ∀ n ∈ number, n < bound64) : soleNumber? pairs key = some number := by
  unfold soleNumber? soleValue?
  rw [hvalues]
  cases number with
  | none => rfl
  | some n =>
    have hread := readNumber?_numberText (hbound n rfl)
    simp [hread]

/-! ## Topics of requests -/

namespace Topic

/-- The query of a topic is what follows its first question mark. -/
theorem query_append {lead : List Char} (h : '?' ∉ lead) (rest : List Char) :
    query (lead ++ '?' :: rest) = rest := by
  rw [query, cut_eq_some_iff.2 ⟨rfl, h⟩]
  rfl

/-- What follows the key of a request id is written as the value of a pair is. -/
theorem query_request {start lead : List Char} (hlead : '?' ∉ lead)
    (hstart : start = lead ++ '?' :: '$' :: (Form.encode "rid".toList ++ ['='])) (id : Nat) :
    query (start ++ decimal id) = '$' :: Form.encodePair ("rid", numberText id) := by
  have hpair : Form.encodePair ("rid", numberText id) =
      Form.encode "rid".toList ++ '=' :: decimal id := by
    rw [Form.encodePair, encode_numberText]
  rw [hpair, hstart, List.append_assoc, List.cons_append, query_append hlead]
  simp only [List.cons_append, List.append_assoc, List.nil_append]

/-- The topics that ask for the twin or patch it name their request in the query. -/
theorem query_of_mem {id : Nat} {topic : Topic} (h : topic ∈ [twinGet id, twinPatch id]) :
    topic.query = '$' :: Form.encodePair ("rid", numberText id) := by
  have hget : '?' ∉ "$iothub/twin/GET/".toList := by decide
  have hpatch : '?' ∉ "$iothub/twin/PATCH/properties/reported/".toList := by decide
  rw [List.mem_cons, List.mem_singleton] at h
  rcases h with rfl | rfl
  · exact query_request hget (by decide) id
  · exact query_request hpatch (by decide) id

/-- **The query of such a topic spells the request id** as an answer lists it. -/
theorem spellsPair_query {id : Nat} {topic : Topic} (h : topic ∈ [twinGet id, twinPatch id]) :
    Form.SpellsPair topic.query (requestIdKey, numberText id) := by
  have hkey : requestIdKey = "$" ++ "rid" := by decide
  rw [query_of_mem h, hkey]
  exact Form.spellsPair_dollar "rid" (numberText id)

end Topic

/-! ## Answers -/

section Answer

variable {lead : Topic} {id status : Nat} {version retryAfter : Option Nat} {query : List Char}
  {pairs : List (String × String)}

/-- An answer that lists its parameters says what they are. -/
theorem route_of_lists (hid : id < bound64) (hstatus : status < bound16)
    (hversion : ∀ n ∈ version, n < bound64) (hretry : ∀ n ∈ retryAfter, n < bound64)
    (hspells : Form.SpellsPairs query pairs) (hlists : TwinQuery.Lists pairs id version retryAfter)
    (hlead : ¬lead <+: Topic.twinResponse (decimal status) query) (body : List UInt8)
    (packetId : Option Nat) :
    route lead (Topic.twinResponse (decimal status) query) body packetId =
      some (if 200 ≤ status ∧ status < 300 then
          .acknowledged id (some { status, body, version })
        else
          .rejected id (.service status (Utf8.lenientString body)
            (retryAfter.map Duration.ofSeconds))) := by
  have hnumber : readNumber? bound16 (decimal status) = some status := readNumber?_decimal hstatus
  have hcut : cut '/' (decimal status ++ '/' :: '?' :: query) =
      some (decimal status, '?' :: query) :=
    cut_eq_some_iff.2 ⟨rfl, slash_not_mem_of_readNumber? hnumber⟩
  have hquery : TwinQuery.ofPairs (queryPairs ('?' :: query)) =
      ⟨some (numberText id), version, retryAfter⟩ := by
    rw [queryPairs_question_of_spells hspells]
    exact TwinQuery.ofPairs_of_legible hlists.valuesOf_requestIdKey
      (soleNumber?_of_valuesOf hlists.valuesOf_versionKey hversion)
      (soleNumber?_of_valuesOf hlists.valuesOf_retryAfterKey hretry)
  rw [Topic.twinResponse, route_twinResponse_of_not_prefix hlead]
  simp only [twinResponse?, hcut, hnumber, hquery, Option.bind_some, readNumber?_numberText hid,
    Option.bind_eq_bind, Option.pure_def]
  split <;> rfl

/-- An answer that echoes what asked for it is one to that request. -/
theorem answered?_route_echo (hid : id < bound64) (hstatus : status < bound16) {topic : Topic}
    (htopic : topic ∈ [Topic.twinGet id, Topic.twinPatch id])
    (hlead : ¬lead <+: Topic.twinResponse (decimal status) topic.query) (body : List UInt8)
    (packetId : Option Nat) :
    (route lead (Topic.twinResponse (decimal status) topic.query) body packetId).bind
      LinkEvent.answered? = some id := by
  have hspells : Form.SpellsPairs topic.query [(requestIdKey, numberText id)] :=
    ⟨[topic.query], .cons (Topic.spellsPair_query htopic) .nil, List.intercalate_singleton.symm⟩
  have hlists : TwinQuery.Lists [(requestIdKey, numberText id)] id none none := .refl _
  rw [route_of_lists hid hstatus (by simp) (by simp) hspells hlists hlead]
  split <;> rfl

/-- An answer that lists what asked for another request is not one to this. -/
theorem eq_of_echo (hspells : Form.SpellsPairs query pairs)
    (hlists : TwinQuery.Lists pairs id version retryAfter) {asked : Nat} {topic : Topic}
    (htopic : topic ∈ [Topic.twinGet asked, Topic.twinPatch asked])
    (hecho : topic.query ∈ pieces '&' query) : asked = id := by
  have hspelled := Topic.spellsPair_query htopic
  have hmem := Form.mem_decodePairs_of_mem_pieces hspelled.ne_nil hecho
  rw [hspelled.decodePair_eq, Form.decodePairs_of_spells hspells] at hmem
  have hvalue : numberText asked ∈ valuesOf pairs requestIdKey :=
    List.mem_map.2 ⟨_, List.mem_filter.2 ⟨hmem, by simp⟩, rfl⟩
  rw [hlists.valuesOf_requestIdKey, List.mem_singleton] at hvalue
  exact numberText_inj hvalue

/-- **An answer about the twin is read as it was written.** It confirms or refuses the request whose
id it lists, with its status, its payload, and its version or its wait, however its query is ordered,
spelled and added to. The queries of the topics that ask for the twin or patch it are such lists of
their request id: an answer that has one of them in its query is one to that request, and an answer
with nothing else in its query is. -/
theorem reads_twinResponse (hid : id < bound64) (hstatus : status < bound16)
    (hversion : ∀ n ∈ version, n < bound64) (hretry : ∀ n ∈ retryAfter, n < bound64)
    (hspells : Form.SpellsPairs query pairs) (hlists : TwinQuery.Lists pairs id version retryAfter)
    (hlead : ¬lead <+: Topic.twinResponse (decimal status) query) (body : List UInt8)
    (packetId : Option Nat) :
    route lead (Topic.twinResponse (decimal status) query) body packetId =
        some (if 200 ≤ status ∧ status < 300 then
            .acknowledged id (some { status, body, version })
          else
            .rejected id (.service status (Utf8.lenientString body)
              (retryAfter.map Duration.ofSeconds))) ∧
      (∀ asked, ∀ topic ∈ [Topic.twinGet asked, Topic.twinPatch asked],
        topic.query ∈ pieces '&' query → asked = id) ∧
      ∀ topic ∈ [Topic.twinGet id, Topic.twinPatch id],
        ¬lead <+: Topic.twinResponse (decimal status) topic.query →
          (route lead (Topic.twinResponse (decimal status) topic.query) body packetId).bind
            LinkEvent.answered? = some id := by
  refine ⟨route_of_lists hid hstatus hversion hretry hspells hlists hlead body packetId, ?_, ?_⟩
  · intro asked topic htopic hecho
    exact eq_of_echo hspells hlists htopic hecho
  · intro topic htopic hlead
    exact answered?_route_echo hid hstatus htopic hlead body packetId

end Answer

/-! ## An answer among other pairs -/

namespace Pump

/-- The query of a refusal of request 7, with a trace of the hub's own before the parameters. -/
def traced : List Char := "trace=a%2Fb&$retry-after=3&%24rid=7".toList

/-- What that query says. -/
def tracedPairs : List (String × String) :=
  [("trace", "a/b"), (retryAfterKey, numberText 3), (requestIdKey, numberText 7)]

theorem spellsPairs_traced : Form.SpellsPairs traced tracedPairs := by
  refine ⟨[Form.encodePair ("trace", "a/b"), '$' :: Form.encodePair ("retry-after", numberText 3),
    Form.encodePair (requestIdKey, numberText 7)], ?_, by decide⟩
  have hkey : retryAfterKey = "$" ++ "retry-after" := by decide
  rw [tracedPairs, hkey]
  exact .cons (Form.spellsPair_encodePair _) (.cons (Form.spellsPair_dollar _ _)
    (.cons (Form.spellsPair_encodePair _) .nil))

theorem lists_tracedPairs : TwinQuery.Lists tracedPairs 7 none (some 3) := by
  have hfilter : tracedPairs.filter TwinQuery.isParameter =
      [(retryAfterKey, numberText 3), (requestIdKey, numberText 7)] := by
    decide
  rw [TwinQuery.Lists, hfilter]
  exact .swap _ _ _

end Pump

/-- The refusal is told to the pump's request, with the seconds to wait. -/
theorem reads_pump_refusal :
    route (Topic.deviceLead "pump") (Topic.twinResponse (decimal 429) Pump.traced) [] none =
        some (.rejected 7 (.service 429 "" (some (Duration.ofSeconds 3)))) ∧
      (route (Topic.deviceLead "pump")
        (Topic.twinResponse (decimal 429) (Topic.twinGet 7).query) [] none).bind
          LinkEvent.answered? = some 7 := by
  have hread := @reads_twinResponse (Topic.deviceLead "pump") 7 429 none (some 3) Pump.traced
    Pump.tracedPairs (by decide) (by decide) (by simp) (by simp; decide) Pump.spellsPairs_traced
    Pump.lists_tracedPairs (by decide) [] none
  exact ⟨hread.1, hread.2.2 (Topic.twinGet 7) List.mem_cons_self (by decide)⟩

end Mqtt

end HubLink
