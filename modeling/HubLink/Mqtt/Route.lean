import HubLink.Mqtt.Topic
import HubLink.Text.Decimal

/-! # Routing

What a message published by the hub is, told from its topic: a message to the device, a patch of
the desired properties, a call of a method, or an answer about the twin. Anything else is ignored,
and so is a call or an answer that does not say to what it belongs. -/

namespace HubLink.Mqtt

open Text

/-- The query at the end of a topic, without the slashes and question marks before it. -/
def queryPairs (text : List Char) : List (String × String) :=
  Form.decodePairs ((text.dropWhile (· = '/')).dropWhile (· = '?'))

/-- The values of a key, in order. -/
def valuesOf (pairs : List (String × String)) (key : String) : List String :=
  (pairs.filter (·.1 = key)).map (·.2)

/-- The value of a key that may be missing but not repeated. -/
def soleValue? (pairs : List (String × String)) (key : String) : Option (Option String) :=
  match valuesOf pairs key with
  | [] => some none
  | [value] => some (some value)
  | _ => none

/-- The number of a key that may be missing but neither repeated nor malformed. -/
def soleNumber? (pairs : List (String × String)) (key : String) : Option (Option Nat) := do
  match ← soleValue? pairs key with
  | none => some none
  | some value => (readNumber? bound64 value.toList).map some

/-- The key of a request id. -/
def requestIdKey : String := "$rid"

/-- The key of a version of the twin. -/
def versionKey : String := "$version"

/-- The key of the seconds to wait. -/
def retryAfterKey : String := "$retry-after"

/-- What the query of an answer about the twin says. -/
structure TwinQuery where
  /-- The request it answers. -/
  requestId : Option String := none
  /-- The version of the twin. -/
  version : Option Nat := none
  /-- The seconds to wait. -/
  retryAfter : Option Nat := none
  deriving DecidableEq, Repr

/-- Read the query of an answer about the twin; one that is partly malformed says nothing. -/
def TwinQuery.ofPairs (pairs : List (String × String)) : TwinQuery :=
  let query? : Option TwinQuery := do
    return {
      requestId := ← soleValue? pairs requestIdKey
      version := ← soleNumber? pairs versionKey
      retryAfter := ← soleNumber? pairs retryAfterKey }
  query?.getD {}

/-- What keys of system properties start with. -/
def systemKeyLead : List Char := ['$', '.']

/-- Whether a key is that of a system property. -/
def isSystemKey (key : String) : Bool := (afterLead systemKeyLead key.toList).isSome

/-- A body with the properties of a query. Of pairs with one key the last one counts. -/
def messageOf (body : List UInt8) (pairs : List (String × String)) : Message where
  body := body
  properties := .ofList (pairs.filter fun p => !isSystemKey p.1)
  systemProperties := .ofList (pairs.filter fun p => isSystemKey p.1)

/-- A message to the device. -/
def deviceMessage (query : List Char) (body : List UInt8) (packetId : Option Nat) : LinkEvent :=
  .notification {
    kind := .cloudToDevice
    message := messageOf body (queryPairs query)
    tag := packetId.map fun id => ⟨String.ofList (decimal id)⟩ }

/-- A patch of the desired properties. -/
def desiredPatch (query : List Char) (body : List UInt8) : LinkEvent :=
  .notification {
    kind := .desiredProperties ((soleNumber? (queryPairs query) versionKey).getD none)
    message := .ofBody body
    tag := none }

/-- The call of a method, if it says which one and how to answer. -/
def methodCall? (details : List Char) (body : List UInt8) : Option LinkEvent := do
  let (name, query) ← cut '/' details
  let requestId ← (valuesOf (queryPairs query) requestIdKey).getLast?
  return .notification {
    kind := .directMethod (String.ofList name) requestId
    message := .ofBody body
    tag := none }

/-- An answer about the twin, if it says what it answers. -/
def twinResponse? (details : List Char) (body : List UInt8) : Option LinkEvent := do
  let (status, query) ← cut '/' details
  let status ← readNumber? bound16 status
  let query := TwinQuery.ofPairs (queryPairs query)
  let id ← query.requestId.bind fun id => readNumber? bound64 id.toList
  if 200 ≤ status ∧ status < 300 then
    return .acknowledged id (some { status, body, version := query.version })
  else
    return .rejected id
      (.service status (Utf8.lenientString body) (query.retryAfter.map Duration.ofSeconds))

/-- What a published message is, given what topics of messages to the device start with. -/
def route (deviceLead topic : Topic) (body : List UInt8) (packetId : Option Nat) :
    Option LinkEvent :=
  match afterLead deviceLead topic with
  | some query => some (deviceMessage query body packetId)
  | none =>
    match afterLead Topic.twinPatchLead topic with
    | some query => some (desiredPatch query body)
    | none =>
      match afterLead Topic.methodLead topic with
      | some details => methodCall? details body
      | none =>
        match afterLead Topic.twinResponseLead topic with
        | some details => twinResponse? details body
        | none => none

end HubLink.Mqtt
