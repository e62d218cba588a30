import HubLink.Dtmi
import HubLink.Retry.Policy
import HubLink.Rounding
import HubLink.Text.Blank

/-! # Options

The settings of a client and of its link, and the check that they can be worked with. Times are in
milliseconds or seconds as they are written. -/

namespace HubLink

/-- A proxy to reach the hub through. -/
structure ProxySettings where
  /-- Name or address. -/
  host : String
  /-- Port. -/
  port : Nat
  /-- User for basic authentication. -/
  username : Option String := none
  /-- Password for basic authentication. -/
  password : Option String := none
  deriving DecidableEq, Repr

/-- Settings of a client. -/
structure ClientOptions where
  /-- Milliseconds a submitted operation may take. -/
  operationTimeout : Nat := 240000
  /-- Milliseconds a message may stay unconfirmed before it is sent again. -/
  ackTimeout : Nat := 60000
  /-- Milliseconds connecting or sending may take. -/
  connectTimeout : Nat := 30000
  /-- Seconds between signs of life on an idle link. -/
  keepAlive : Nat := 60
  /-- Seconds a token is valid. -/
  tokenLifetime : Nat := 3600
  /-- Milliseconds between two polls for messages. -/
  pollInterval : Nat := 10000
  /-- How many events may wait for their reader. -/
  eventCapacity : Nat := 64
  /-- The model announced when connecting. -/
  modelId : Option String := none
  /-- The proxy, if there is one. -/
  proxy : Option ProxySettings := none
  /-- When to try again. -/
  retry : RetryOptions := {}

namespace ClientOptions

/-- The longest lifetime of a token, a year. -/
def maxTokenLifetime : Nat := 365 * 86400

/-- The settings that have to be positive, by name. -/
def positive (o : ClientOptions) : List (String × Nat) := [
  ("operation_timeout_ms", o.operationTimeout),
  ("ack_timeout_ms", o.ackTimeout),
  ("connect_timeout_ms", o.connectTimeout),
  ("token_ttl_secs", o.tokenLifetime),
  ("https_poll_interval_ms", o.pollInterval),
  ("retry.base_delay_ms", o.retry.baseDelay)]

/-- Whether a jitter lies between zero and a third. -/
def isJitter (x : Float) : Bool := 0.0 ≤ x && x ≤ DelayNumber.third

/-- The first thing that is wrong with the settings. -/
def defect? (o : ClientOptions) : Option String :=
  match o.positive.find? fun p => p.2 = 0 with
  | some (name, _) => some (name ++ " must be greater than zero")
  | none =>
    if o.tokenLifetime > maxTokenLifetime then
      some ("token_ttl_secs must be at most "
        ++ String.ofList (Text.decimal maxTokenLifetime))
    else if o.eventCapacity = 0 then some "event_channel_capacity must be greater than zero"
    else if !isJitter o.retry.jitter then some "retry.jitter must be between 0 and 0.333"
    else
      match o.modelId.filter fun id => (Dtmi.parse? id).isNone with
      | some id => some (Dtmi.refusal id)
      | none =>
        if o.proxy.any fun p => (Text.trim p.host.toList).isEmpty then
          some "proxy host cannot be empty"
        else none

/-- Refuse settings that cannot be worked with. -/
def validate (o : ClientOptions) : Except Fault Unit :=
  match o.defect? with
  | some defect => .error (.configuration defect)
  | none => .ok ()

/-- How long a submitted operation may take. -/
def operationTime (o : ClientOptions) : Nat := Duration.ofMillis o.operationTimeout

/-- How long a message may stay unconfirmed. -/
def ackTime (o : ClientOptions) : Nat := Duration.ofMillis o.ackTimeout

/-- How long connecting or sending may take. -/
def connectTime (o : ClientOptions) : Nat := Duration.ofMillis o.connectTimeout

/-- How long after a poll the next one is due. -/
def pollTime (o : ClientOptions) : Nat := Duration.ofMillis o.pollInterval

/-- The lifetime of a token in seconds as the calendar takes it: 64 bits read as a signed number. -/
def tokenSpan (o : ClientOptions) : Int := Int.bmod o.tokenLifetime Text.bound64

/-- The double nearest to 0.85, times two to the 53rd. -/
def renewalShare : Nat := 7656119366529843

/-- When a renewable token is renewed: after 85 percent of its lifetime. The seconds are multiplied
as doubles, and the product is rounded to nanoseconds. -/
def renewalTime (o : ClientOptions) : Nat :=
  Rounding.nearest
    (Rounding.toDouble (renewalShare * Rounding.toDouble o.tokenLifetime) * Duration.perSecond)
    (Rounding.unit Rounding.digits)

example :
    (Float.ofNat renewalShare / Float.ofNat (Rounding.unit Rounding.digits) == 0.85) = true := by
  rfl

end ClientOptions

end HubLink
