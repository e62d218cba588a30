import HubLink.Connection.Identity
import HubLink.Mqtt.Route
import HubLink.Options.Basic
import HubLink.Token.Basic

/-! # MQTT links

A link to the hub over MQTT 3.1.1: which packets it writes and what it makes of those it reads.
Telemetry and answers to method calls are published with quality of service 1 and confirmed by
packet id; what concerns the twin is confirmed by the hub's answer. Packet ids run through all
connections of a link. -/

namespace HubLink.Mqtt

open Text

/-- A packet written by a device. -/
inductive Packet where
  /-- Log in, continuing an earlier session. -/
  | connect (clientId userName password : String) (keepAlive : Nat)
  /-- Subscribe to filters with a quality of service each. -/
  | subscribe (packetId : Nat) (filters : List (Topic × Nat))
  /-- Publish, with quality of service 1 if there is a packet id, else 0. -/
  | publish (topic : Topic) (packetId : Option Nat) (body : List UInt8)
  /-- Confirm a message of the hub. -/
  | confirm (packetId : Nat)
  /-- Give a sign of life. -/
  | ping
  /-- Log out. -/
  | disconnect
  deriving DecidableEq, Repr

/-- A packet read from the hub. -/
inductive Inbound where
  /-- A message, with a packet id unless its quality of service is 0. -/
  | publish (topic : Topic) (body : List UInt8) (packetId : Option Nat)
  /-- A confirmation. -/
  | confirm (packetId : Nat)
  /-- Anything else. -/
  | other
  deriving DecidableEq, Repr

/-- What the hub says to a login. -/
inductive LoginReply where
  /-- An answer with a code. -/
  | code (n : Nat)
  /-- A packet that is no answer. -/
  | unexpected (packet : String)
  /-- Something that is no packet. -/
  | undecodable (reason : String)
  deriving DecidableEq, Repr

/-- How a refusal without a class of its own is called. -/
def refusalName (code : Nat) : String :=
  match code with
  | 1 => "UnacceptableProtocolVersion"
  | 2 => "IdentifierRejected"
  | n => "Reserved(" ++ String.ofList (decimal n) ++ ")"

/-- The fault of a login that was not accepted. -/
def LoginReply.fault? : LoginReply → Option Fault
  | .code 0 => none
  | .code 3 => some (.service 503 "hub is unavailable" none)
  | .code 4 | .code 5 =>
    some (.service 401 "hub refused the credentials presented on connect" none)
  | .code n =>
    some (.link .protocol ("Failed to connect to server, return code " ++ refusalName n))
  | .unexpected packet =>
    some (.link .protocol ("Unexpected packet received after connect " ++ packet))
  | .undecodable reason => some (.link .reset ("Error decoding connack packet " ++ reason))

/-- What a link meets when it writes a packet. -/
structure Writing where
  /-- What is said of a topic or a filter that is not legal. -/
  complaint : String
  /-- What writing comes to on a link that is up. -/
  result : Except Fault Unit := .ok ()

/-- The packet id of the subscription, which no message gets. -/
def subscribeId : Nat := 10

/-- The greatest packet id. -/
def maxPacketId : Nat := 65535

/-- The packet id after another one. -/
def packetIdAfter (last : Nat) : Nat :=
  let id := if last < maxPacketId then last + 1 else 1
  if id = subscribeId then id + 1 else id

/-- A link over MQTT. -/
structure Link where
  /-- Whom it connects. -/
  identity : Identity
  /-- What passwords are made from. -/
  credential : Credential
  /-- The settings. -/
  options : ClientOptions
  /-- Whether it is up. -/
  isUp : Bool := false
  /-- The last packet id given out. -/
  lastPacketId : Nat := 0
  /-- The messages that are not confirmed, by packet id. -/
  inFlight : SortedMap Nat Nat := .empty

namespace Link

/-- The link was never connected, or it was closed. -/
def notConnected : Fault := .link .reset "mqtt link is not connected"

/-- What was read from the hub ended without a packet. -/
def readerStopped : Fault := .link .reset "mqtt reader stopped"

/-- A packet could not be read. -/
def unreadable (reason : String) : Fault :=
  .link .reset ("Error in receiving packet " ++ reason)

/-- The hub gave no sign of life. -/
def silentHub : Fault :=
  .link .timeout "no traffic from the hub within twice the keep alive"

/-- A topic is not legal. -/
def illegalTopic (complaint : String) : Fault := .link .protocol complaint

/-- Seconds after which a sign of life is given. -/
def keepAlive (l : Link) : Nat := max l.options.keepAlive 1

/-- Seconds of silence after which the link counts as lost. -/
def idleLimit (l : Link) : Nat := 2 * l.keepAlive

/-- Write a packet, as long as the link is up. -/
def write (l : Link) (packet : Packet) (result : Except Fault Unit) : Except Fault Packet :=
  if l.isUp then result.map fun _ => packet else .error notConnected

/-- Close the link; nothing is in flight any more. Also the packets written, whether or not they get
through. -/
def close (l : Link) : Link × List Packet :=
  ({ l with isUp := false, inFlight := .empty }, if l.isUp then [.disconnect] else [])

/-- The login with a password. -/
def loginPacket (l : Link) (password : String) : Packet :=
  .connect l.identity.device
    (userName l.identity.host l.identity.device l.options.modelId) password l.keepAlive

/-- Subscribe, unless a filter is not legal: the packet written. -/
def subscribe (l : Link) (w : Writing) : Except Fault Packet :=
  let filters := Topic.filters l.identity.device
  if filters.all fun f => Topic.isFilter f.1 then l.write (.subscribe subscribeId filters) w.result
  else .error (illegalTopic w.complaint)

/-- What became of connecting. -/
structure Connecting where
  /-- The link afterwards. -/
  link : Link
  /-- The expiry for which a token was asked. -/
  expiry : Option Int
  /-- The packets written. -/
  packets : List Packet
  /-- Whether it succeeded. -/
  result : Except Fault Unit

/-- Connect at a number of seconds, where reaching the hub and logging in had an answer, and then
subscribing met something. The link is up once the hub accepted the login, even if subscribing
fails. -/
def connect (l : Link) (now : Int) (reached : Except Fault (LoginReply × Writing)) : Connecting :=
  let (l, left) := l.close
  let expiry := now + l.options.tokenSpan
  let failed (packets : List Packet) (fault : Fault) : Connecting :=
    { link := l, expiry := some expiry, packets, result := .error fault }
  match l.credential.token expiry with
  | .error e => failed left e.fault
  | .ok password =>
    match reached with
    | .error fault => failed left fault
    | .ok (reply, writing) =>
      let packets := left ++ [l.loginPacket password]
      match reply.fault? with
      | some fault => failed packets fault
      | none =>
        let l := { l with isUp := true }
        match l.subscribe writing with
        | .error fault =>
          { link := l, expiry := some expiry, packets, result := .error fault }
        | .ok packet =>
          { link := l, expiry := some expiry, packets := packets ++ [packet], result := .ok () }

/-- The topic of a message and whether it is confirmed by packet id. -/
def topicOf (l : Link) (m : Outbound) : Except Fault (Topic × Bool) :=
  match m.kind with
  | .telemetry =>
    .ok (Topic.withProperties (Topic.telemetryLead l.identity.device) m.message, true)
  | .commandResponse requestId status => .ok (Topic.methodResponse status requestId, true)
  | .twinPatch => .ok (Topic.twinPatch m.id, false)
  | .twinGet => .ok (Topic.twinGet m.id, false)
  | .uploadRequest _ | .uploadComplete =>
    .error (.link .unsupported "file upload is only available over HTTPS")

/-- Give the message of an id the next packet id, taking back the one it had. -/
def assign (l : Link) (id : Nat) : Link × Nat :=
  let packetId := packetIdAfter l.lastPacketId
  ({ l with
      lastPacketId := packetId
      inFlight := (l.inFlight.filter fun _ held => held ≠ id).insert packetId id },
    packetId)

/-- Hand over a message: the packet written, whose confirmation comes later. The message keeps its
packet id if nothing is written. -/
def send (l : Link) (m : Outbound) (w : Writing) : Link × Except Fault Packet :=
  match l.topicOf m with
  | .error fault => (l, .error fault)
  | .ok (topic, isConfirmed) =>
    let (l, packetId) :=
      if isConfirmed then
        let (l, packetId) := l.assign m.id
        (l, some packetId)
      else (l, none)
    if Topic.isName topic then (l, l.write (.publish topic packetId m.message.body) w.result)
    else (l, .error (illegalTopic w.complaint))

/-- What the link makes of a packet. -/
def read (l : Link) : Inbound → Link × Option LinkEvent
  | .confirm packetId =>
    match l.inFlight.get? packetId with
    | some id => ({ l with inFlight := l.inFlight.erase packetId }, some (.acknowledged id none))
    | none => (l, none)
  | .publish topic body packetId =>
    (l, route (Topic.deviceLead l.identity.device) topic body packetId)
  | .other => (l, none)

/-- Wait for an event while nothing is read: a link that is down says so. -/
def idle (l : Link) : Option Fault := if l.isUp then none else some notConnected

/-- Settle an inbound message: the packet written, if one is called for. A message that is not
confirmed is delivered again; rejecting one is the same as completing it. -/
def settle (l : Link) (tag : DeliveryTag) (disposition : Disposition)
    (result : Except Fault Unit) : Except Fault (Option Packet) :=
  match readNumber? bound16 tag.text.toList with
  | none => .error (.configuration "not an mqtt delivery tag")
  | some packetId =>
    match disposition with
    | .abandon => .ok none
    | .complete | .reject => (l.write (.confirm packetId) result).map some

end Link

end HubLink.Mqtt
