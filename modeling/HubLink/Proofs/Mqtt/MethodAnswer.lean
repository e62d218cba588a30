import HubLink.Proofs.Mqtt.Name
import HubLink.Proofs.Mqtt.Route

/-! # Answers to method calls

Which answers to the call of a method say what they answer. The request id is read from the topic of
the call in form encoding but pasted into the topic of the answer as it is. The answer is published
and names the request exactly if the id has no wildcard and stands for itself in a query
(`Link.answers_iff`), while a call can come with any id at all. -/

namespace HubLink.Mqtt

open Text

namespace Topic

/-- The topic of the call of a method. -/
def methodCall (name query : List Char) : Topic := methodLead ++ (name ++ '/' :: '?' :: query)

/-- What follows the first question mark of a topic. -/
def query (t : Topic) : List Char := ((cut '?' t).map (·.2)).getD []

/-- A topic names a request if its query gives that request's id. -/
def Names (t : Topic) (requestId : String) : Prop :=
  (requestIdKey, requestId) ∈ Form.decodePairs t.query

/-! ## Topics of answers -/

/-- No wildcard and no question mark stands before the query of an answer. -/
theorem not_mem_methodResponse_lead {c : Char} (hc : c = '+' ∨ c = '#' ∨ c = '?') (status : Int) :
    c ∉ "$iothub/methods/res/".toList ++ decimalInt status ++ ['/'] := by
  obtain ⟨hfixed, hminus, hslash, hdigit⟩ :
      c ∉ "$iothub/methods/res/".toList ∧ c ≠ '-' ∧ c ≠ '/' ∧ c.isDigit = false := by
    rcases hc with rfl | rfl | rfl <;> decide
  rw [List.mem_append, List.mem_append, List.mem_singleton, not_or, not_or]
  refine ⟨⟨hfixed, fun hmem => ?_⟩, hslash⟩
  rcases mem_decimalInt hmem with rfl | h
  · exact hminus rfl
  · rw [hdigit] at h
    cases h

/-- The parts of the topic of an answer. -/
theorem methodResponse_eq (status : Int) (requestId : String) :
    methodResponse status requestId =
      ("$iothub/methods/res/".toList ++ decimalInt status ++ ['/']) ++
        '?' :: (requestIdKey.toList ++ '=' :: requestId.toList) := by
  have hkey : "/?$rid=".toList = ['/'] ++ '?' :: (requestIdKey.toList ++ ['=']) := by
    decide
  unfold methodResponse
  simp only [hkey, List.append_assoc, List.cons_append, List.nil_append]

theorem query_methodResponse (status : Int) (requestId : String) :
    (methodResponse status requestId).query = requestIdKey.toList ++ '=' :: requestId.toList := by
  have hcut := cut_eq_some_iff.2
    ⟨methodResponse_eq status requestId, not_mem_methodResponse_lead (by simp) status⟩
  rw [query, hcut]
  rfl

/-- The key of a request id stands for itself. -/
theorem isVerbatim_requestIdKey : Form.IsVerbatim requestIdKey.toList :=
  .of_not_mem (by decide) (by decide +kernel) (by decide +kernel)

/-- **The topic of an answer names its request exactly if the id stands for itself.** -/
theorem names_methodResponse_iff (status : Int) (requestId : String) :
    (methodResponse status requestId).Names requestId ↔ Form.IsVerbatim requestId.toList := by
  rw [Names, query_methodResponse]
  exact Form.mem_decodePairs_iff (by decide) isVerbatim_requestIdKey

/-- **The topic of an answer is a name exactly if it is short enough and the id has no
wildcard.** -/
theorem isName_methodResponse_iff (status : Int) (requestId : String) :
    isName (methodResponse status requestId) = true ↔
      (Utf8.encode (methodResponse status requestId)).length ≤ maxLength ∧
        '+' ∉ requestId.toList ∧ '#' ∉ requestId.toList := by
  have hmem {c : Char} (hc : c = '+' ∨ c = '#') :
      c ∈ methodResponse status requestId ↔ c ∈ requestId.toList := by
    have hlead := not_mem_methodResponse_lead (c := c) (by rcases hc with rfl | rfl <;> simp) status
    obtain ⟨hnot, hquestion, hequals⟩ : c ∉ requestIdKey.toList ∧ c ≠ '?' ∧ c ≠ '=' := by
      rcases hc with rfl | rfl <;> decide
    rw [methodResponse_eq, List.mem_append, or_iff_right hlead, List.mem_cons,
      or_iff_right hquestion, List.mem_append, or_iff_right hnot, List.mem_cons,
      or_iff_right hequals]
  -- What names are is known for topics that are short enough.
  by_cases hlength : (Utf8.encode (methodResponse status requestId)).length ≤ maxLength
  · have hne : methodResponse status requestId ≠ [] := by
      rw [methodResponse_eq]
      simp
    rw [isName_iff hne hlength, hmem (.inl rfl), hmem (.inr rfl), and_iff_right hlength]
  · refine iff_of_false (fun hname => ?_) fun h => hlength h.1
    simp [isName, hlength] at hname

end Topic

/-! ## Calls and their answers -/

/-- **A call can come with any request id.** -/
theorem route_methodCall (device : String) {name : List Char} (hname : '/' ∉ name)
    (requestId : String) (body : List UInt8) (packetId : Option Nat) :
    route (Topic.deviceLead device)
        (Topic.methodCall name (Form.encodePairs [(requestIdKey, requestId)])) body packetId =
      some (.notification {
        kind := .directMethod (String.ofList name) requestId
        message := .ofBody body
        tag := none }) := by
  have hcut : cut '/' (name ++ '/' :: '?' :: Form.encodePairs [(requestIdKey, requestId)]) =
      some (name, '?' :: Form.encodePairs [(requestIdKey, requestId)]) :=
    cut_eq_some_iff.2 ⟨rfl, hname⟩
  have hid : (valuesOf [(requestIdKey, requestId)] requestIdKey).getLast? = some requestId := by
    simp [valuesOf]
  rw [Topic.methodCall, route_method]
  simp only [methodCall?, hcut, queryPairs_question, hid, Option.bind_eq_bind, Option.bind_some,
    Option.pure_def]

/-- **An answer can be published and names its request exactly if the request id has no number sign
and stands for itself**, and its topic is short enough, while the call may have had any id. -/
theorem Link.answers_iff (l : Link) (m : Outbound) (device requestId : String) (status : Int)
    {name : List Char} (hname : '/' ∉ name) (body : List UInt8) (packetId : Option Nat) :
    route (Topic.deviceLead device)
        (Topic.methodCall name (Form.encodePairs [(requestIdKey, requestId)])) body packetId =
        some (.notification {
          kind := .directMethod (String.ofList name) requestId
          message := .ofBody body
          tag := none }) ∧
      l.topicOf { m with kind := .commandResponse requestId status } =
        .ok (Topic.methodResponse status requestId, true) ∧
      ((Topic.isName (Topic.methodResponse status requestId) = true ∧
          (Topic.methodResponse status requestId).Names requestId) ↔
        (Utf8.encode (Topic.methodResponse status requestId)).length ≤ Topic.maxLength ∧
          '#' ∉ requestId.toList ∧ Form.IsVerbatim requestId.toList) := by
  refine ⟨route_methodCall device hname requestId body packetId, rfl, ?_⟩
  rw [Topic.isName_methodResponse_iff, Topic.names_methodResponse_iff]
  -- That there is no plus sign is said twice, by the name and by standing for itself.
  constructor
  · rintro ⟨⟨hlength, -, hhash⟩, hverbatim⟩
    exact ⟨hlength, hhash, hverbatim⟩
  · rintro ⟨hlength, hhash, hverbatim⟩
    exact ⟨⟨hlength, hverbatim.2.1, hhash⟩, hverbatim⟩

/-- The answer to a call with a plain id names it; one to a call with a plus sign in its id cannot
be published, and one to a call with an ampersand names another. -/
theorem Link.answers_pump_calls :
    (Topic.isName (Topic.methodResponse 200 "7") = true ∧
        (Topic.methodResponse 200 "7").Names "7") ∧
      ¬(Topic.isName (Topic.methodResponse 200 "a+b") = true ∧
        (Topic.methodResponse 200 "a+b").Names "a+b") ∧
      ¬(Topic.isName (Topic.methodResponse 200 "a&b") = true ∧
        (Topic.methodResponse 200 "a&b").Names "a&b") := by
  have hname : '/' ∉ "reboot".toList := by decide +kernel
  have hanswers (requestId : String) :=
    (answers_iff Pump.link Pump.spaced "pump" requestId 200 hname [] none).2.2
  refine ⟨(hanswers "7").2 ⟨by decide +kernel, by decide +kernel, ?_⟩, fun h => ?_, fun h => ?_⟩
  · exact .of_not_mem (by decide +kernel) (by decide +kernel) (by decide +kernel)
  · exact ((hanswers "a+b").1 h).2.2.2.1 (by decide +kernel)
  · exact ((hanswers "a&b").1 h).2.2.1 (by decide +kernel)

/-- **Not every answer reaches its call**: the topic of an answer need not be a name or name the
request. -/
theorem not_answered_of_call :
    ¬∀ (device : String) (name query : List Char) (body : List UInt8) (packetId : Option Nat)
      (n : Notification) (method requestId : String) (status : Int),
      route (Topic.deviceLead device) (Topic.methodCall name query) body packetId =
          some (.notification n) →
        n.kind = .directMethod method requestId →
        Topic.isName (Topic.methodResponse status requestId) = true ∧
          (Topic.methodResponse status requestId).Names requestId := by
  intro hall
  have hname : '/' ∉ "reboot".toList := by decide +kernel
  have hanswer := hall "pump" "reboot".toList _ [] none _ _ "a+b" 200
    (route_methodCall "pump" hname "a+b" [] none) rfl
  exact ((Topic.isName_methodResponse_iff 200 "a+b").1 hanswer.1).2.1 (by decide +kernel)

end HubLink.Mqtt
