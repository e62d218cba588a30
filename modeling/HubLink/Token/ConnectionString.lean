import HubLink.Text.Blank
import HubLink.Token.Basic

/-! # Connection strings

The address of a hub and a credential in one string of `key=value` segments between semicolons.
Only the first `=` of a segment divides it, unknown keys are ignored, and the last segment of a key
counts. -/

namespace HubLink

/-- The components of a connection string. -/
structure ConnectionString where
  /-- The host of the hub. -/
  hostName : String
  /-- The device, absent for a service. -/
  deviceId : Option String
  /-- The name of the policy, present for a service. -/
  keyName : Option String
  /-- The shared key, in base64. -/
  key : Option String
  /-- A token made beforehand. -/
  signature : Option String
  deriving DecidableEq, Repr

namespace ConnectionString

/-- The key of the host. -/
def hostNameKey : String := "HostName"

/-- The key of the device. -/
def deviceIdKey : String := "DeviceId"

/-- The key of the shared key. -/
def sharedKeyKey : String := "SharedAccessKey"

/-- The key of the name of the policy. -/
def keyNameKey : String := "SharedAccessKeyName"

/-- The key of the token. -/
def signatureKey : String := "SharedAccessSignature"

/-- The segments of a string that are not blank. -/
def segments (text : List Char) : List (List Char) :=
  (Text.pieces ';' text).filter fun s => !(Text.trim s).isEmpty

/-- The trimmed key and value of a segment. -/
def field (segment : List Char) : Except TokenError (String × String) :=
  match Text.cut '=' segment with
  | some (key, value) => .ok (String.ofList (Text.trim key), String.ofList (Text.trim value))
  | none => .error (.malformedSegment (String.ofList segment))

/-- The value of the last field with a key. -/
def lastValue? (fields : List (String × String)) (key : String) : Option String :=
  (fields.reverse.find? fun f => f.1 = key).map (·.2)

/-- Read a connection string. -/
def parse (s : String) : Except TokenError ConnectionString := do
  let fields ← (segments s.toList).mapM field
  match (lastValue? fields hostNameKey).filter (· ≠ "") with
  | none => throw (.missingField hostNameKey)
  | some hostName =>
    let key := lastValue? fields sharedKeyKey
    let signature := lastValue? fields signatureKey
    if key.isNone ∧ signature.isNone then throw (.missingField sharedKeyKey)
    return {
      hostName, key, signature
      deviceId := lastValue? fields deviceIdKey
      keyName := lastValue? fields keyNameKey }

/-- The device and its credential; a key is preferred to a token. -/
def deviceCredential (c : ConnectionString) : Except TokenError (String × Credential) := do
  match c.deviceId.filter (· ≠ "") with
  | none => throw (.missingField deviceIdKey)
  | some device =>
    let credential ←
      match c.key, c.signature with
      | some key, _ => Credential.ofDeviceKey c.hostName device (Text.Utf8.ofString key)
      | none, some token => Credential.ofToken token
      | none, none => throw (.missingField sharedKeyKey)
    return (device, credential)

/-- The policy and its credential. -/
def serviceCredential (c : ConnectionString) : Except TokenError (String × Credential) :=
  match c.keyName, c.key with
  | none, _ => .error (.missingField keyNameKey)
  | _, none => .error (.missingField sharedKeyKey)
  | some policy, some key =>
    (Credential.ofServiceKey c.hostName policy (Text.Utf8.ofString key)).map (policy, ·)

end ConnectionString

end HubLink
