import HubLink.Connection.Worker
import HubLink.Upload.Records

/-! # Requests to a client

What an application may ask of a client, the command for the worker that each request becomes, and
how the end of a delivery is read as the answer to the request. Ids are given out one after the
other. -/

namespace HubLink

open Json

/-- The answer to a request. -/
inductive Answer where
  /-- It was done. -/
  | done
  /-- The message was delivered. -/
  | delivered (d : Delivered)
  /-- The version of the reported properties. -/
  | version (v : Option Nat)
  /-- The twin document. -/
  | document (v : Value)
  /-- The place for a file. -/
  | target (t : UploadTarget)
  /-- The state of the connection. -/
  | state (s : ConnectionState)

/-- How the end of a delivery is read. -/
inductive Reading where
  /-- As it is. -/
  | delivered
  /-- For the version of the twin. -/
  | version
  /-- For the twin document. -/
  | document
  /-- For the place for a file. -/
  | target
  deriving DecidableEq, Repr

/-- The document of an answer that has to have one, where there are complaints about those that
cannot be read. -/
def Delivered.document {α : Type} (d : Delivered) (read? : List UInt8 → Option α)
    (complaint : List UInt8 → String) (missing : String) : Except Fault α :=
  match d.response with
  | some r => r.document read? complaint
  | none => .error (.link .protocol missing)

/-- Read the end of a delivery, where there are complaints about documents that cannot be read. -/
def Reading.answer (complaint : List UInt8 → String) : Reading → Delivered → Except Fault Answer
  | .delivered, d => .ok (.delivered d)
  | .version, d => .ok (.version (d.response.bind (·.version)))
  | .document, d =>
    (d.document Value.parse? complaint "twin response carried no document").map .document
  | .target, d =>
    (d.document UploadTarget.parse? complaint
      "file upload response carried no storage details").map .target

/-- What an application may ask. -/
inductive Request where
  /-- Connect. -/
  | open
  /-- Disconnect. -/
  | close
  /-- Deliver a message within a time, if one is given. -/
  | deliver (kind : MessageKind) (message : Message) (timeout : Option Nat) (reading : Reading)
  /-- Settle an inbound message. -/
  | settle (tag : DeliveryTag) (disposition : Disposition)
  /-- Wait for a change of state. -/
  | watch

namespace Request

/-- Deliver telemetry. -/
def telemetry (message : Message) : Request := .deliver .telemetry message none .delivered

/-- Report properties; answered with their version. -/
def propertyUpdate (body : String) : Request :=
  .deliver .twinPatch (.ofBody (Text.Utf8.ofString body)) none .version

/-- Get the twin document. -/
def twin : Request := .deliver .twinGet .empty none .document

/-- Answer the call of a method. -/
def methodResponse (requestId : String) (status : Int) (body : String) : Request :=
  .deliver (.commandResponse requestId status) (.ofBody (Text.Utf8.ofString body)) none .delivered

/-- Get a place for a file. -/
def uploadTarget (blobName : String) : Request :=
  .deliver (.uploadRequest blobName) .empty none .target

/-- Report on an upload. -/
def uploadReport (r : UploadReport) : Request :=
  .deliver .uploadComplete r.message none .delivered

end Request

/-- What the handles of a client share. -/
structure Client where
  /-- The id of the next message, a number of 64 bits. -/
  nextId : Nat := 1
  /-- How long a delivery may take unless a request says otherwise. -/
  operationTime : Nat

namespace Client

/-- The command for a request that is answered under a token, and the id given to its message.
Waiting for a change of state needs no command. -/
def command (c : Client) (now token : Nat) : Request → Client × Option (Command × Option Nat)
  | .open => (c, some (.open token, none))
  | .close => (c, some (.close token, none))
  | .settle tag disposition => (c, some (.settle ⟨tag, disposition, token⟩, none))
  | .watch => (c, none)
  | .deliver kind message timeout _ =>
    let deadline := deadlineAfter now (timeout.getD c.operationTime)
    let outbound : Outbound := { id := c.nextId, kind, message }
    ({ c with nextId := (c.nextId + 1) % Text.bound64 },
      some (.submit outbound token deadline, some c.nextId))

end Client

end HubLink
