import HubLink.Message
import HubLink.Text.Decimal
import HubLink.Text.Percent
import HubLink.Text.Quoted
import HubLink.Text.Blank

/-! # Headers

Properties of messages as headers of HTTP requests, and back. Names of headers are in lower case,
so properties whose names differ in case only share a header. -/

namespace HubLink.Https

open Text

/-- Headers of a request by name. -/
abbrev Headers := SortedMap String String

/-- What the headers of application properties start with. -/
def propertyLead : String := "iothub-app-"

/-- The system properties that have headers, and the names of these. -/
def systemHeaders : List (String × String) := [
  ("$.mid", "iothub-messageid"),
  ("$.cid", "iothub-correlationid"),
  ("$.ct", "iothub-contenttype"),
  ("$.ce", "iothub-contentencoding"),
  ("$.to", "iothub-to"),
  ("$.exp", "iothub-expiry")]

/-- Whether an octet may stand in the value of a header. -/
def isValueOctet (b : UInt8) : Bool := b = 0x09 || (0x20 ≤ b && b ≠ 0x7f)

/-- The value of a header, unless it cannot be one. -/
def headerValue (value : String) : Except Fault String :=
  if (Utf8.ofString value).all isValueOctet then .ok value
  else .error (.configuration (quotedString value ++ " is not a valid header value"))

/-- Whether an octet may stand in the name of a header. -/
def isNameOctet (b : UInt8) : Bool :=
  Percent.isAlphanumeric b || Percent.isOneOf "!#$%&'*+-.^_`|~" b

/-- The longest name of a header, in octets. -/
def maxNameLength : Nat := 65535

/-- The name of the header of an application property, unless there cannot be one. -/
def propertyHeader (key : String) : Except Fault String :=
  let name := propertyLead ++ key
  if (Utf8.ofString name).all isNameOctet && name.utf8ByteSize ≤ maxNameLength then
    .ok (String.ofList (name.toList.map Char.toLower))
  else .error (.configuration (quotedString key ++ " is not a valid property name"))

/-- Add the header of a system property, if the message has that property. -/
def addSystemHeader (m : Message) (headers : Headers) (entry : String × String) :
    Except Fault Headers :=
  match m.systemProperties.get? entry.1 with
  | some value => (headerValue value).map (headers.insert entry.2)
  | none => .ok headers

/-- Add the header of an application property. -/
def addPropertyHeader (headers : Headers) (property : String × String) :
    Except Fault Headers := do
  let name ← propertyHeader property.1
  let value ← headerValue property.2
  return headers.insert name value

/-- The headers that carry the properties of a message, those of the application added in the order
in which they are listed. -/
def headersInOrder (m : Message) (listed : List (String × String)) : Except Fault Headers := do
  let headers ← systemHeaders.foldlM (addSystemHeader m) .empty
  listed.foldlM addPropertyHeader headers

/-- The headers that carry the properties of a message. -/
def messageHeaders (m : Message) : Except Fault Headers := headersInOrder m m.properties.entries

/-! ## Responses -/

/-- A response of the hub. -/
structure HttpResponse where
  /-- The status code. -/
  status : Nat
  /-- Names, in lower case, and values of the headers, in order. -/
  headers : List (String × List UInt8)
  /-- The contents. -/
  body : List UInt8
  deriving DecidableEq, Repr

namespace HttpResponse

/-- Whether the request succeeded. -/
def isSuccess (r : HttpResponse) : Bool := 200 ≤ r.status && r.status < 300

/-- The text of a header's value, unless it has other characters than visible ASCII, blanks and
tabs. -/
def valueText? (value : List UInt8) : Option String :=
  if value.all fun b => b = 0x09 || (0x20 ≤ b && b < 0x7f) then Utf8.string? value else none

/-- The text of the first header of a name. -/
def header? (r : HttpResponse) (name : String) : Option String :=
  (r.headers.find? (·.1 = name)).bind fun h => valueText? h.2

/-- The headers that can be read as texts. -/
def texts (r : HttpResponse) : List (String × String) :=
  r.headers.filterMap fun (name, value) => (valueText? value).map (name, ·)

/-- The seconds to wait before trying again. -/
def retryAfter? (r : HttpResponse) : Option Nat :=
  (r.header? "retry-after").bind fun value => readNumber? bound64 (trim value.toList)

/-- A response without success as a fault. -/
def fault (r : HttpResponse) : Fault :=
  .service r.status (Utf8.lenientString r.body) (r.retryAfter?.map Duration.ofSeconds)

/-- The application property that a header stands for. -/
def propertyOf? (header : String × String) : Option (String × String) :=
  (afterLead propertyLead.toList header.1.toList).map fun key => (String.ofList key, header.2)

/-- The system property that a header stands for. -/
def systemPropertyOf? (header : String × String) : Option (String × String) :=
  if (propertyOf? header).isSome then none
  else (systemHeaders.find? (·.2 = header.1)).map fun entry => (entry.1, header.2)

/-- A response that holds a message to the device, settled by its entity tag. -/
def notification (r : HttpResponse) : Notification where
  kind := .cloudToDevice
  message := {
    body := r.body
    properties := .ofList (r.texts.filterMap propertyOf?)
    systemProperties := .ofList (r.texts.filterMap systemPropertyOf?) }
  tag := (r.header? "etag").map fun tag => ⟨String.ofList (trimBy (· = '"') tag.toList)⟩

end HttpResponse

end HubLink.Https
