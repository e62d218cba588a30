import HubLink.Client.Request
import HubLink.Connection.Channel
import HubLink.Https.Link
import HubLink.Mqtt.Link
import HubLink.Token.ConnectionString

/-! # Building clients

Putting a client together from whom it connects, a credential, options and a protocol. A client
starts closed. The limits of the clock and of the event channel are written down as well: what
exceeds them makes the program abort instead of refusing the client. -/

namespace HubLink

/-- The protocols a client may speak. -/
inductive Protocol where
  /-- MQTT 3.1.1. -/
  | mqtt
  /-- HTTPS. -/
  | https
  /-- AMQP 1.0, which is not available. -/
  | amqp
  deriving DecidableEq, Repr

/-- What a client is built from. -/
structure ClientPlan where
  /-- Whom it connects. -/
  identity : Identity
  /-- Its credential. -/
  credential : Credential
  /-- Its settings. -/
  options : ClientOptions := {}
  /-- The protocol it speaks. -/
  protocol : Protocol := .mqtt

/-- Why building aborts. -/
inductive Abort where
  /-- The lifetime of a token is out of the range of the clock. -/
  | tokenLifetime
  /-- The event channel is larger than one can be. -/
  | eventCapacity
  deriving DecidableEq, Repr

/-- What building leads to. -/
inductive BuildOutcome where
  /-- A client whose worker has done nothing yet. -/
  | built (client : Client) (worker : Worker)
  /-- The client is refused. -/
  | refused (fault : Fault)
  /-- The program aborts. -/
  | aborted (why : Abort)

/-- Start the worker of a client over any link, with a token that can be renewed or not. -/
def Client.launch (identity : Identity) (options : ClientOptions) (renewable : Bool) :
    BuildOutcome :=
  match options.validate with
  | .error fault => .refused fault
  | .ok () =>
    if EventChannel.isCapacity options.eventCapacity then
      .built { operationTime := options.operationTime }
        (.new (.ofOptions identity options renewable))
    else .aborted .eventCapacity

namespace ClientPlan

/-- The text for a refused client. -/
def refusal (fault : Fault) : String :=
  "An error occurred intializing the IoT Hub Client " ++ fault.message

/-- The longest span of whole seconds that the calendar counts. -/
def maxSpan : Int := 9223372036854775

/-- Whether a number of seconds is a span the calendar counts. -/
def isSpan (seconds : Int) : Bool := -maxSpan ≤ seconds && seconds ≤ maxSpan

/-- Start the worker, whatever the protocol. -/
def start (p : ClientPlan) : BuildOutcome :=
  Client.launch p.identity p.options p.credential.isRenewable

/-- Build the client. -/
def build (p : ClientPlan) : BuildOutcome :=
  match p.identity.validate with
  | .error fault => .refused fault
  | .ok () =>
    match p.protocol with
    | .mqtt => p.start
    | .https => if isSpan p.options.tokenSpan then p.start else .aborted .tokenLifetime
    | .amqp => .refused (.configuration "the transport feature for Amqp is not enabled")

/-- The link of the client over MQTT. -/
def mqttLink (p : ClientPlan) : Mqtt.Link :=
  { identity := p.identity, credential := p.credential, options := p.options }

/-- The link of the client over HTTPS. -/
def httpsLink (p : ClientPlan) : Https.Link :=
  { identity := p.identity, credential := p.credential, options := p.options }

/-- Whether connecting asks for a token before it finds out that the hub cannot be reached. -/
def asksFirst (p : ClientPlan) : Bool := p.protocol = .mqtt

/-- What connecting leads to at a number of seconds when the hub cannot be reached. -/
def unreached (p : ClientPlan) (now : Int) (fault : Fault) : Except Fault Unit :=
  match p.protocol with
  | .mqtt => (p.mqttLink.connect now (.error fault)).result
  | .https => (p.httpsLink.connect (.error fault)).2.map fun _ => ()
  | .amqp => .error fault

end ClientPlan

end HubLink
