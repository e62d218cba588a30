import HubLink.Message
import HubLink.Text.Percent

/-! # Paths

The paths of the requests a device makes over HTTPS. What the caller supplies is a segment of its
own: characters that would end or change the segment are escaped. -/

namespace HubLink.Https

open Text

/-- The method of a request. -/
inductive Method where
  /-- Fetch. -/
  | get
  /-- Submit. -/
  | post
  /-- Remove. -/
  | delete
  deriving DecidableEq, Repr

/-- The version of the interface to the hub. -/
def apiVersion : List Char := "api-version=2020-09-30".toList

/-- Octets of a segment that are not escaped. -/
def isPlain (b : UInt8) : Bool := 0x20 < b && b < 0x7f && !Percent.isOneOf "\"#%/?<>`\x7b\x7d" b

/-- A segment of a path. -/
def segment (text : String) : List Char := Percent.encode isPlain text.toList

/-- What the paths of a device start with. -/
def devicePath (device : String) : List Char := "/devices/".toList ++ segment device

/-- The path for telemetry. -/
def eventPath (device : String) : List Char :=
  devicePath device ++ "/messages/events?".toList ++ apiVersion

/-- The path from which messages to the device are fetched. -/
def inboxPath (device : String) : List Char :=
  devicePath device ++ "/messages/devicebound?".toList ++ apiVersion

/-- The path that asks for a place for a file. -/
def uploadPath (device : String) : List Char :=
  devicePath device ++ "/files?".toList ++ apiVersion

/-- The path for the report on an upload. -/
def uploadReportPath (device : String) : List Char :=
  devicePath device ++ "/files/notifications?".toList ++ apiVersion

/-- What follows the tag in the path that settles a message. -/
def settleEnd : Disposition → List Char
  | .complete => '?' :: apiVersion
  | .reject => "?reject&".toList ++ apiVersion
  | .abandon => "/abandon?".toList ++ apiVersion

/-- The method and the path that settle a message. -/
def settlePath (device : String) (tag : DeliveryTag) (disposition : Disposition) :
    Method × List Char :=
  (match disposition with
    | .complete | .reject => .delete
    | .abandon => .post,
    devicePath device ++ "/messages/devicebound/".toList ++ segment tag.text
      ++ settleEnd disposition)

end HubLink.Https
