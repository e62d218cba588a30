import HubLink.Collection.SortedMap
import HubLink.Fault

/-! # Messages

Messages to the hub and notifications from it, and the answers the hub gives to requests. -/

namespace HubLink

/-- Properties by name. -/
abbrev Properties := SortedMap String String

/-- A body with application and system properties. -/
structure Message where
  /-- The contents. -/
  body : List UInt8
  /-- Properties of the application. -/
  properties : Properties := .empty
  /-- System properties by the names they have on the wire. -/
  systemProperties : Properties := .empty
  deriving DecidableEq

namespace Message

/-- The system property that holds the message id. -/
def messageIdKey : String := "$.mid"

/-- The system property that holds the content type. -/
def contentTypeKey : String := "$.ct"

/-- The system property that holds the content encoding. -/
def contentEncodingKey : String := "$.ce"

/-- The message with a body alone. -/
def ofBody (body : List UInt8) : Message where
  body := body

/-- The message with nothing in it. -/
def empty : Message := ofBody []

/-- Replace the body. -/
def withBody (m : Message) (body : List UInt8) : Message := { m with body := body }

/-- Set a property of the application. -/
def withProperty (m : Message) (key value : String) : Message :=
  { m with properties := m.properties.insert key value }

/-- Set a system property. -/
def withSystemProperty (m : Message) (key value : String) : Message :=
  { m with systemProperties := m.systemProperties.insert key value }

/-- Set the message id. -/
def withMessageId (m : Message) (id : String) : Message := m.withSystemProperty messageIdKey id

/-- Set the content type. -/
def withContentType (m : Message) (type : String) : Message :=
  m.withSystemProperty contentTypeKey type

/-- Set the content encoding. -/
def withContentEncoding (m : Message) (encoding : String) : Message :=
  m.withSystemProperty contentEncodingKey encoding

/-- The message id, if there is one. -/
def messageId (m : Message) : Option String := m.systemProperties.get? messageIdKey

/-- The content type, if there is one. -/
def contentType (m : Message) : Option String := m.systemProperties.get? contentTypeKey

/-- Whether the message is a body alone. -/
def isBare (m : Message) : Bool := m = ofBody m.body

end Message

/-- What a message asks of the hub. -/
inductive MessageKind where
  /-- Take telemetry. -/
  | telemetry
  /-- Apply a patch to the reported properties. -/
  | twinPatch
  /-- Answer with the twin document. -/
  | twinGet
  /-- Pass the answer to a direct method on. -/
  | commandResponse (requestId : String) (status : Int)
  /-- Answer with the details for uploading a blob. -/
  | uploadRequest (blobName : String)
  /-- Take note that an upload is finished. -/
  | uploadComplete
  deriving DecidableEq, Repr

/-- How far the delivery of a message has come. -/
inductive DeliveryState where
  /-- Not handed to a link yet. -/
  | pending
  /-- Handed to a link. -/
  | sent
  /-- Confirmed by the hub. -/
  | acknowledged
  /-- Failed for good. -/
  | failed
  deriving DecidableEq, Repr

/-- Whether nothing more happens to the message. -/
def DeliveryState.isTerminal : DeliveryState → Bool
  | .acknowledged | .failed => true
  | .pending | .sent => false

/-- A message on its way to the hub. -/
structure Outbound where
  /-- The id it was submitted under. -/
  id : Nat
  /-- What it asks. -/
  kind : MessageKind
  /-- Contents and properties. -/
  message : Message
  /-- How far it has come. -/
  state : DeliveryState := .pending
  /-- How often it was handed to a link after the first time, a number of 32 bits. -/
  retryCount : Nat := 0
  deriving DecidableEq

/-- The message as it is handed to a link, once more if it was handed over before. The count starts
again at zero when its 32 bits are used up; a build with overflow checks ends there instead. -/
def Outbound.handOver (m : Outbound) : Outbound :=
  { m with
    state := .sent
    retryCount := (m.retryCount + if m.state = .sent then 1 else 0) % Text.bound32 }

/-- The hub's answer to a request. -/
structure Response where
  /-- The status code. -/
  status : Nat
  /-- The contents. -/
  body : List UInt8
  /-- The version of the twin, when the hub reports one. -/
  version : Option Nat := none
  deriving DecidableEq, Repr

/-- The success of a submitted operation. -/
structure Delivered where
  /-- The id it was submitted under. -/
  id : Nat
  /-- The hub's answer, for operations that have one. -/
  response : Option Response
  deriving DecidableEq, Repr

/-- The handle by which an inbound message is settled. -/
structure DeliveryTag where
  /-- A packet id or an entity tag. -/
  text : String
  deriving DecidableEq, Repr

/-- How an inbound message is settled. -/
inductive Disposition where
  /-- It was processed. -/
  | complete
  /-- It shall be delivered again. -/
  | abandon
  /-- It shall not be delivered again. -/
  | reject
  deriving DecidableEq, Repr

/-- What an inbound message is. -/
inductive NotificationKind where
  /-- A message to the device. -/
  | cloudToDevice
  /-- A patch of the desired properties, with its version. -/
  | desiredProperties (version : Option Nat)
  /-- A call of a method of the device. -/
  | directMethod (name requestId : String)
  /-- The news that a device finished an upload. -/
  | upload
  deriving DecidableEq, Repr

/-- A message pushed by the hub. -/
structure Notification where
  /-- What it is. -/
  kind : NotificationKind
  /-- Contents and properties. -/
  message : Message
  /-- How to settle it, where that is called for. -/
  tag : Option DeliveryTag
  deriving DecidableEq

/-- What handing a message to a link leads to. -/
inductive SendOutcome where
  /-- The hub confirmed it right away. -/
  | acknowledged (response : Option Response)
  /-- The confirmation comes later. -/
  | awaiting
  deriving DecidableEq, Repr

/-- Something a link observed. -/
inductive LinkEvent where
  /-- The hub confirmed a message. -/
  | acknowledged (id : Nat) (response : Option Response)
  /-- The hub refused a message. -/
  | rejected (id : Nat) (fault : Fault)
  /-- The hub pushed a message. -/
  | notification (n : Notification)
  /-- The link is gone. -/
  | disconnected (fault : Fault)
  deriving DecidableEq

end HubLink
