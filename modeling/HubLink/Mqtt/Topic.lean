import HubLink.Message
import HubLink.Text.Form

/-! # Topics

The topics on which a device and its hub talk over MQTT, which names and filters are legal, and how
the properties of a message are put into a topic. -/

namespace HubLink.Mqtt

open Text

/-- A text that a topic is made from. -/
abbrev Topic := List Char

namespace Topic

/-- The longest name, in octets. -/
def maxLength : Nat := 65535

/-- Whether a topic is a legal name: not empty, not too long, and without wildcards. -/
def isName (t : Topic) : Bool :=
  !t.isEmpty && (Utf8.encode t).length ≤ maxLength && !t.contains '+' && !t.contains '#'

/-- Whether a piece between slashes is a level of a filter. -/
def isLevel (t : Topic) : Bool := t = ['+'] || (!t.contains '+' && !t.contains '#')

/-- Whether a topic is a legal filter: levels between slashes, of which the last may stand for any
further levels. -/
def isFilter (t : Topic) : Bool :=
  let levels := pieces '/' t
  !t.isEmpty && levels.dropLast.all isLevel
    && levels.getLast?.any fun last => last = ['#'] || isLevel last

/-! ## From the hub -/

/-- What topics of method calls start with. -/
def methodLead : Topic := "$iothub/methods/POST/".toList

/-- What topics of answers about the twin start with. -/
def twinResponseLead : Topic := "$iothub/twin/res/".toList

/-- What topics of patches of the desired properties start with. -/
def twinPatchLead : Topic := "$iothub/twin/PATCH/properties/desired/".toList

/-- What topics of messages to a device start with. -/
def deviceLead (device : String) : Topic :=
  "devices/".toList ++ device.toList ++ "/messages/devicebound/".toList

/-- The filters a device subscribes to, with the quality of service asked for. -/
def filters (device : String) : List (Topic × Nat) := [
  (methodLead ++ ['#'], 0),
  (deviceLead device ++ ['#'], 1),
  (twinResponseLead ++ ['#'], 0),
  (twinPatchLead ++ ['#'], 0)]

/-! ## To the hub -/

/-- What topics of telemetry start with. -/
def telemetryLead (device : String) : Topic :=
  "devices/".toList ++ device.toList ++ "/messages/events/".toList

/-- The topic of the answer to the call of a method. -/
def methodResponse (status : Int) (requestId : String) : Topic :=
  "$iothub/methods/res/".toList ++ decimalInt status ++ "/?$rid=".toList ++ requestId.toList

/-- The topic that asks for the twin. -/
def twinGet (id : Nat) : Topic := "$iothub/twin/GET/?$rid=".toList ++ decimal id

/-- The topic of a patch of the reported properties. -/
def twinPatch (id : Nat) : Topic :=
  "$iothub/twin/PATCH/properties/reported/?$rid=".toList ++ decimal id

/-- Whether one property is listed before another: by key, then by value. -/
def isBefore (a b : String × String) : Bool := a.1 < b.1 || (a.1 = b.1 && a.2 ≤ b.2)

/-- All properties of a message in the order of the topic. -/
def properties (m : Message) : List (String × String) :=
  (m.systemProperties.entries ++ m.properties.entries).mergeSort isBefore

/-- A topic with the properties of a message after its start. -/
def withProperties (lead : Topic) (m : Message) : Topic :=
  lead ++ Form.encodePairs (properties m)

end Topic

/-- The version of the interface to the hub. -/
def apiVersion : String := "2021-04-12"

/-- The name under which a device logs in. -/
def userName (host device : String) (modelId : Option String) : String :=
  host ++ "/" ++ device ++ "/?api-version=" ++ apiVersion
    ++ match modelId with
      | some id => "&model-id=" ++ String.ofList (Form.encode id.toList)
      | none => ""

end HubLink.Mqtt
