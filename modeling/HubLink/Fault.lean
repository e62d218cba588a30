import HubLink.Clock
import HubLink.Text.Decimal

/-! # Faults

What can go wrong with an operation, how it is worded, and how it is classified for retrying.
Requests and answers are matched by correlation ids, which are natural numbers. -/

namespace HubLink

/-- What a failure of the link was. -/
inductive LinkFailure where
  /-- Connecting, reading or writing took too long. -/
  | timeout
  /-- The link was reset, refused or closed. -/
  | reset
  /-- The peer sent something that cannot be understood. -/
  | protocol
  /-- The protocol in use has no such operation. -/
  | unsupported
  /-- Securing the link failed. -/
  | tls
  deriving DecidableEq, Repr

/-- The word for the failure. -/
def LinkFailure.name : LinkFailure → String
  | .timeout => "Timeout"
  | .reset => "Reset"
  | .protocol => "Protocol"
  | .unsupported => "Unsupported"
  | .tls => "Tls"

/-- Why an operation failed. -/
inductive Fault where
  /-- Bad or missing credentials or arguments. -/
  | configuration (detail : String)
  /-- The link failed. -/
  | link (failure : LinkFailure) (detail : String)
  /-- The hub answered with a failure, perhaps saying when to try again. -/
  | service (status : Nat) (detail : String) (retryAfter : Option Nat)
  /-- A deadline passed. -/
  | timeout
  /-- The operation was cancelled by the caller or by closing. -/
  | cancelled
  /-- The connection is not open. -/
  | closed
  /-- The correlation id is in use. -/
  | duplicateId (id : Nat)
  deriving DecidableEq, Repr

/-- Failures as far as retrying is concerned. -/
inductive FailureKind where
  /-- The network took too long. -/
  | networkTimeout
  /-- The link was reset, refused or closed. -/
  | transportReset
  /-- The service failed. -/
  | serviceUnavailable
  /-- The service is busy and may say when to try again. -/
  | throttled (retryAfter : Option Nat)
  /-- The credentials were refused. -/
  | unauthorized
  /-- The request was malformed or the protocol violated. -/
  | malformed
  /-- The configuration is wrong. -/
  | configuration
  /-- A deadline passed. -/
  | timeout
  /-- The operation was cancelled. -/
  | cancelled
  /-- The connection is not open. -/
  | closed
  deriving DecidableEq, Repr

namespace FailureKind

/-- Whether trying again may help. -/
def isTransient : FailureKind → Bool
  | .networkTimeout | .transportReset | .serviceUnavailable | .throttled _ => true
  | _ => false

/-- Whether the failure takes the link with it. -/
def breaksLink : FailureKind → Bool
  | .networkTimeout | .transportReset => true
  | _ => false

end FailureKind

namespace Fault

/-- The whole text of a fault. -/
def message : Fault → String
  | .configuration detail => "configuration error: " ++ detail
  | .link failure detail => "transport error (" ++ failure.name ++ "): " ++ detail
  | .service status detail _ =>
    "service error " ++ String.ofList (Text.decimal status) ++ ": " ++ detail
  | .timeout => "operation timed out"
  | .cancelled => "operation cancelled"
  | .closed => "connection is closed"
  | .duplicateId id =>
    "correlation id " ++ String.ofList (Text.decimal id) ++ " is already registered"

/-- The class of a failure of the link. -/
def kindOfLink : LinkFailure → FailureKind
  | .timeout => .networkTimeout
  | .reset | .tls => .transportReset
  | .protocol | .unsupported => .malformed

/-- The class of an answer with a failure status. -/
def kindOfStatus (status : Nat) (retryAfter : Option Nat) : FailureKind :=
  if status = 401 ∨ status = 403 then .unauthorized
  else if status = 429 ∨ status = 503 then .throttled retryAfter
  else if 500 ≤ status ∧ status ≤ 599 then .serviceUnavailable
  else .malformed

/-- The class of a fault. -/
def kind : Fault → FailureKind
  | .configuration _ => .configuration
  | .link failure _ => kindOfLink failure
  | .service status _ retryAfter => kindOfStatus status retryAfter
  | .timeout => .timeout
  | .cancelled => .cancelled
  | .closed => .closed
  | .duplicateId _ => .malformed

/-- Whether trying again may help. -/
def isTransient (f : Fault) : Bool := f.kind.isTransient

/-- Whether the fault takes the link with it. -/
def breaksLink (f : Fault) : Bool := f.kind.breaksLink

/-- An operation of the link took longer than it may. -/
def slowLink : Fault := .link .timeout "transport operation timed out"

/-- A sent message was not acknowledged in time. -/
def missingAcknowledgement : Fault := .link .timeout "no acknowledgement received"

end Fault

/-- The kinds of failure that the operating system reports for a stream. -/
inductive StreamFailure where
  /-- The operation took too long or would have to wait. -/
  | tooSlow
  /-- The data or an argument is not valid. -/
  | invalid
  /-- Anything else. -/
  | broken
  deriving DecidableEq, Repr

/-- A stream failure as a failure of the link. -/
def StreamFailure.linkFailure : StreamFailure → LinkFailure
  | .tooSlow => .timeout
  | .invalid => .protocol
  | .broken => .reset

end HubLink
