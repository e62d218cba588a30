import HubLink.Connection.Identity
import HubLink.Https.Header
import HubLink.Https.Path
import HubLink.Https.Poller
import HubLink.Options.Basic
import HubLink.Token.Basic
import HubLink.Upload.Records

/-! # HTTPS links

A link to the hub over HTTPS: which requests it makes and what it makes of the responses. Handing a
message over is a request whose response is the confirmation; messages to the device are polled. -/

namespace HubLink.Https

open Text

/-- A request to the hub. -/
structure HttpRequest where
  /-- The method. -/
  method : Method
  /-- Path and query. -/
  path : List Char
  /-- The headers. -/
  headers : Headers
  /-- The contents. -/
  body : List UInt8
  deriving DecidableEq

/-- A link over HTTPS. -/
structure Link where
  /-- Whom it connects. -/
  identity : Identity
  /-- What tokens are made from. -/
  credential : Credential
  /-- The settings. -/
  options : ClientOptions
  /-- Whether it polls for messages. -/
  isPolling : Bool := false
  /-- Whether there is a connection for requests. -/
  isConnected : Bool := false

namespace Link

/-- The link was never connected, or it was closed. -/
def notConnected : Fault := .link .reset "https link is not connected"

/-- The poller has ended. -/
def pollerStopped : Fault := .link .reset "cloud to device poller stopped"

/-- An operation that other protocols have. -/
def unavailable (operation : String) : Fault :=
  .link .unsupported (operation ++ " is not available over HTTPS")

/-- How an operation without a request is called. -/
def operationName : MessageKind → String
  | .telemetry => "Telemetry"
  | .twinPatch => "TwinPatch"
  | .twinGet => "TwinGet"
  | .commandResponse requestId status =>
    "CommandResponse \x7b request_id: " ++ quotedString requestId ++ ", status: "
      ++ String.ofList (decimalInt status) ++ " \x7d"
  | .uploadRequest blobName =>
    "FileUploadRequest \x7b blob_name: " ++ quotedString blobName ++ " \x7d"
  | .uploadComplete => "FileUploadComplete"

/-- The header of contents in JSON. -/
def jsonHeaders : Headers := .ofList [("content-type", "application/json")]

/-- The request for a message. -/
def draft (l : Link) (m : Outbound) : Except Fault HttpRequest :=
  let device := l.identity.device
  match m.kind with
  | .telemetry =>
    (messageHeaders m.message).map fun headers =>
      { method := .post, path := eventPath device, headers, body := m.message.body }
  | .uploadRequest blobName =>
    .ok {
      method := .post
      path := uploadPath device
      headers := jsonHeaders
      body := Utf8.ofString (UploadRequest.render { blobName }) }
  | .uploadComplete =>
    .ok {
      method := .post
      path := uploadReportPath device
      headers := jsonHeaders
      body := m.message.body }
  | kind => .error (unavailable (operationName kind))

/-- The request that polls for a message. -/
def pollDraft (l : Link) : HttpRequest where
  method := .get
  path := inboxPath l.identity.device
  headers := .empty
  body := []

/-- The request that settles a message. -/
def settleDraft (l : Link) (tag : DeliveryTag) (disposition : Disposition) : HttpRequest :=
  let (method, path) := settlePath l.identity.device tag disposition
  { method, path, headers := .empty, body := [] }

/-- Put the host and a token that expires at a number of seconds into a request. -/
def authorize (l : Link) (expiry : Int) (d : HttpRequest) : Except Fault HttpRequest := do
  let token ←
    match l.credential.token expiry with
    | .ok token => .ok token
    | .error e => .error e.fault
  let host ← headerValue l.identity.host
  let token ← headerValue token
  return { d with headers := (d.headers.insert "host" host).insert "authorization" token }

/-- What the response to a message means. -/
def outcome (kind : MessageKind) (r : HttpResponse) : Except Fault SendOutcome :=
  if r.isSuccess then
    .ok (.acknowledged
      (match kind with
        | .uploadRequest _ => some { status := r.status, body := r.body }
        | _ => none))
  else .error r.fault

/-- What the response to settling a message means. -/
def settleOutcome (r : HttpResponse) : Except Fault Unit :=
  if r.isSuccess then .ok () else .error r.fault

/-- What the response to a poll means. -/
def pollOutcome (r : HttpResponse) : Except Fault (Option Notification) :=
  if r.status = 204 then .ok none
  else if r.status = 200 then .ok (some r.notification)
  else .error r.fault

/-- Close the link. -/
def close (l : Link) : Link := { l with isPolling := false, isConnected := false }

/-- Connect, where reaching the hub and polling once had a result; the poll proves the credentials.
Also the events to begin with. -/
def connect (l : Link) (polled : Except Fault (Option Notification)) :
    Link × Except Fault (List LinkEvent) :=
  let l := l.close
  match polled with
  | .error fault => (l, .error fault)
  | .ok n =>
    ({ l with isPolling := true, isConnected := true },
      .ok ((n.map LinkEvent.notification).toList))

/-- Hand over a message, where the exchange of its request had a result. A failed exchange costs
the connection. -/
def send (l : Link) (m : Outbound) (exchange : HttpRequest → Except Fault HttpResponse) :
    Link × Except Fault SendOutcome :=
  match l.draft m with
  | .error fault => (l, .error fault)
  | .ok d =>
    match exchange d with
    | .error fault => ({ l with isConnected := false }, .error fault)
    | .ok r => ({ l with isConnected := true }, outcome m.kind r)

/-- Settle a message, where the exchange of the request had a result. -/
def settle (l : Link) (tag : DeliveryTag) (disposition : Disposition)
    (exchange : HttpRequest → Except Fault HttpResponse) : Link × Except Fault Unit :=
  match exchange (l.settleDraft tag disposition) with
  | .error fault => ({ l with isConnected := false }, .error fault)
  | .ok r => ({ l with isConnected := true }, settleOutcome r)

/-- Wait for an event while nothing is polled: a link that is down says so. -/
def idle (l : Link) : Option Fault := if l.isPolling then none else some notConnected

end Link

end HubLink.Https
