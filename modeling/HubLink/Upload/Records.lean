import HubLink.Json.Record
import HubLink.Json.Render
import HubLink.Message
import HubLink.Timestamp

/-! # Upload records

What is said in JSON when a device uploads a file: its request for a place to store the file, the
place given to it, its report, and the news of the finished upload for the service. -/

namespace HubLink

open Json

/-- The request for a place to store a file. -/
structure UploadRequest where
  /-- Name of the blob. -/
  blobName : String
  deriving DecidableEq, Repr

/-- The place given for a file. -/
structure UploadTarget where
  /-- The id to name in the report. -/
  correlationId : String
  /-- Host of the store. -/
  hostName : String
  /-- Container in the store. -/
  containerName : String
  /-- Name of the blob. -/
  blobName : String
  /-- The query that permits writing. -/
  token : String
  deriving DecidableEq, Repr

/-- The report on an upload. -/
structure UploadReport where
  /-- The id of the place. -/
  correlationId : String
  /-- Whether it went well. -/
  isSuccess : Bool
  /-- Status code of the store. -/
  statusCode : Int
  /-- Description in words. -/
  statusDescription : String
  deriving DecidableEq, Repr

/-- The news that a device finished an upload. -/
structure UploadNotification where
  /-- The device. -/
  deviceId : String
  /-- Address of the blob. -/
  blobUri : String
  /-- Name of the blob. -/
  blobName : String
  /-- When the blob was last changed. -/
  lastUpdated : Timestamp
  /-- Size of the blob in octets. -/
  blobSize : Nat
  /-- When the news was queued. -/
  enqueued : Timestamp
  deriving DecidableEq, Repr

namespace UploadRequest

/-- Read a request. -/
def ofTree? (t : Tree) : Option UploadRequest := do
  let r ← t.record? ["blobName"]
  return { blobName := ← r.required? "blobName" Tree.string? }

/-- Read a request from a JSON text. -/
def parse? (text : List UInt8) : Option UploadRequest := (Tree.parse? text).bind ofTree?

/-- The request in JSON. -/
def render (r : UploadRequest) : String :=
  (Value.object [("blobName", .string r.blobName)]).render

end UploadRequest

namespace UploadTarget

/-- Read a place. -/
def ofTree? (t : Tree) : Option UploadTarget := do
  let r ← t.record? ["correlationId", "hostName", "containerName", "blobName", "sasToken"]
  return {
    correlationId := ← r.required? "correlationId" Tree.string?
    hostName := ← r.required? "hostName" Tree.string?
    containerName := ← r.required? "containerName" Tree.string?
    blobName := ← r.required? "blobName" Tree.string?
    token := ← r.required? "sasToken" Tree.string? }

/-- Read a place from a JSON text. -/
def parse? (text : List UInt8) : Option UploadTarget := (Tree.parse? text).bind ofTree?

/-- The place in JSON. -/
def render (t : UploadTarget) : String :=
  (Value.object [
    ("correlationId", .string t.correlationId), ("hostName", .string t.hostName),
    ("containerName", .string t.containerName), ("blobName", .string t.blobName),
    ("sasToken", .string t.token)]).render

/-- The address of the blob with the permission to write it. -/
def blobUri (t : UploadTarget) : String :=
  "https://" ++ t.hostName ++ "/" ++ t.containerName ++ "/" ++ t.blobName ++ t.token

end UploadTarget

namespace UploadReport

/-- Read a report. -/
def ofTree? (t : Tree) : Option UploadReport := do
  let r ← t.record? ["correlationId", "isSuccess", "statusCode", "statusDescription"]
  return {
    correlationId := ← r.required? "correlationId" Tree.string?
    isSuccess := ← r.required? "isSuccess" Tree.bool?
    statusCode := ← r.required? "statusCode" (Tree.intWithin? Text.bound31)
    statusDescription := ← r.required? "statusDescription" Tree.string? }

/-- Read a report from a JSON text. -/
def parse? (text : List UInt8) : Option UploadReport := (Tree.parse? text).bind ofTree?

/-- The report in JSON. -/
def render (r : UploadReport) : String :=
  let code : Number :=
    if r.statusCode < 0 then .negative r.statusCode.natAbs else .natural r.statusCode.natAbs
  (Value.object [
    ("correlationId", .string r.correlationId), ("isSuccess", .bool r.isSuccess),
    ("statusCode", .number code), ("statusDescription", .string r.statusDescription)]).render

/-- The report as the contents of a message. -/
def message (r : UploadReport) : Message :=
  (Message.ofBody (Text.Utf8.ofString r.render)).withContentType "application/json"

end UploadReport

namespace UploadNotification

/-- Read the news. -/
def ofTree? (t : Tree) : Option UploadNotification := do
  let r ← t.record?
    ["deviceId", "blobUri", "blobName", "lastUpdatedTime", "blobSizeInBytes", "enqueuedTimeUtc"]
  let time (t : Tree) : Option Timestamp := t.string?.bind Timestamp.parse?
  return {
    deviceId := ← r.required? "deviceId" Tree.string?
    blobUri := ← r.required? "blobUri" Tree.string?
    blobName := ← r.required? "blobName" Tree.string?
    lastUpdated := ← r.required? "lastUpdatedTime" time
    blobSize := ← r.required? "blobSizeInBytes" (Tree.natBelow? Text.bound64)
    enqueued := ← r.required? "enqueuedTimeUtc" time }

/-- Read the news from a JSON text. -/
def parse? (text : List UInt8) : Option UploadNotification := (Tree.parse? text).bind ofTree?

end UploadNotification

/-! ## Texts that cannot be read -/

section Reading

variable {α : Type}

/-- Read a text by `read?`, or tell the complaint about it. -/
def readOr (read? : List UInt8 → Option α) (complaint : List UInt8 → String) (text : List UInt8) :
    Except Fault α :=
  match read? text with
  | some x => .ok x
  | none => .error (.link .protocol (complaint text))

@[simp] theorem readOr_eq_ok_iff {read? : List UInt8 → Option α} {complaint : List UInt8 → String}
    {text : List UInt8} {x : α} : readOr read? complaint text = .ok x ↔ read? text = some x := by
  rw [readOr]
  cases read? text <;> simp

/-- The document of an answer. -/
def Response.document (r : Response) (read? : List UInt8 → Option α)
    (complaint : List UInt8 → String) : Except Fault α :=
  readOr read? complaint r.body

end Reading

end HubLink
