import HubLink.Crypto.Hmac
import HubLink.Fault
import HubLink.Text.Base64
import HubLink.Text.Form

/-! # Tokens

The credentials of a device or a service and the tokens they give, which are presented to the hub
as passwords. A token made from a key names the resource, when it expires and a signature of both;
its fields are joined as in a query. -/

namespace HubLink

/-- Why there is no credential or no token. -/
inductive TokenError where
  /-- A connection string lacks a component. -/
  | missingField (name : String)
  /-- A segment of a connection string is not a key and a value. -/
  | malformedSegment (segment : String)
  /-- A key is not in base64. -/
  | invalidKey
  /-- A fixed token is no shared access signature. -/
  | malformedSignature
  /-- The caller's own source of tokens failed. -/
  | source (detail : String)
  deriving DecidableEq, Repr

namespace TokenError

/-- The whole text of the error. -/
def message : TokenError → String
  | .missingField name => "connection string is missing " ++ name
  | .malformedSegment segment => "malformed connection string segment '" ++ segment ++ "'"
  | .invalidKey => "shared access key is not valid base64"
  | .malformedSignature => "malformed shared access signature"
  | .source detail => "token source failed: " ++ detail

/-- The error as a fault of the configuration. -/
def fault (e : TokenError) : Fault := .configuration e.message

end TokenError

namespace Token

/-- What every token starts with. -/
def lead : List Char := "SharedAccessSignature ".toList

/-- Octets of a resource that are not escaped. -/
def isPlain (b : UInt8) : Bool := Text.Percent.isAlphanumeric b || Text.Percent.isOneOf ".-_~" b

/-- A resource as it stands in a token. -/
def resourceText (resource : List Char) : List Char := Text.Percent.encode isPlain resource

/-- The keyed digest of a text, in base64. -/
def signature (key : List UInt8) (text : List Char) : List Char :=
  Text.Base64.encode (Crypto.Hmac.sha256 key (Text.Utf8.encode text))

/-- The token for a resource that expires at a number of seconds, issued under a policy or for the
device itself. -/
def sign (resource : List Char) (key : List UInt8) (expiry : Int) (policy : Option String) :
    List Char :=
  let resource := resourceText resource
  let expiry := Text.decimalInt expiry
  let signature := signature key (resource ++ '\n' :: expiry)
  lead ++ "sr=".toList ++ resource ++ '&' :: Text.Form.encodePair ("sig", String.ofList signature)
    ++ "&se=".toList ++ expiry
    ++ match policy with
      | some policy => "&skn=".toList ++ policy.toList
      | none => []

/-- Whether a text looks like a token: it starts like one and has a resource and a signature. -/
def isToken (text : List Char) : Bool :=
  match Text.afterLead lead text with
  | some fields => Text.occursIn "sr=".toList fields && Text.occursIn "sig=".toList fields
  | none => false

end Token

/-- What tokens are made from. -/
inductive Credential where
  /-- The key of a device, whose resource is given. -/
  | deviceKey (resource : String) (key : List UInt8)
  /-- The key of a policy of a hub. -/
  | serviceKey (host policy : String) (key : List UInt8)
  /-- A token made beforehand. -/
  | fixed (token : String)
  /-- The caller's own source, asked for a token that expires at a number of seconds. -/
  | custom (token : Int → Except TokenError String) (renewable : Bool)

namespace Credential

/-- Read a key in base64. -/
def readKey (key : List UInt8) : Except TokenError (List UInt8) :=
  match Text.Base64.decode? (key.map fun b => Char.ofNat b.toNat) with
  | some key => .ok key
  | none => .error .invalidKey

/-- The credential of a device with a key in base64. -/
def ofDeviceKey (hub device : String) (key : List UInt8) : Except TokenError Credential :=
  (readKey key).map (.deviceKey (hub ++ "/devices/" ++ device))

/-- The credential of a policy with a key in base64. -/
def ofServiceKey (host policy : String) (key : List UInt8) : Except TokenError Credential :=
  (readKey key).map (.serviceKey host policy)

/-- The credential that is a token made beforehand. -/
def ofToken (token : String) : Except TokenError Credential :=
  if Token.isToken token.toList then .ok (.fixed token) else .error .malformedSignature

/-- A token that expires at a number of seconds. -/
def token : Credential → Int → Except TokenError String
  | .deviceKey resource key, expiry =>
    .ok (String.ofList (Token.sign resource.toList key expiry none))
  | .serviceKey host policy key, expiry =>
    .ok (String.ofList (Token.sign host.toList key expiry (some policy)))
  | .fixed token, _ => .ok token
  | .custom token _, expiry => token expiry

/-- Whether asking again gives a fresh token. -/
def isRenewable : Credential → Bool
  | .deviceKey .. | .serviceKey .. => true
  | .fixed _ => false
  | .custom _ renewable => renewable

end Credential

end HubLink
