import ControlChannel.Json.Printer
import ControlChannel.Message.Basic

/-!
# Message text

A message is written as an object whose first member is its class. The members after it are those
of its kind, in a fixed order; a version, a sender, a recipient and a preference that are absent are
left out, while an absent pin or selection is written as `null`. The payload of an endpoint
message follows its sender and recipient.
-/

namespace ControlChannel

/-- The integer of a word. -/
def Json.ofInt32 (n : Int32) : Json :=
  .number (.integer n.toInt)

namespace VideoConstraints

/-- The object that writes constraints. -/
def toJson (c : VideoConstraints) : Json :=
  .object (("idealHeight", .ofInt32 c.idealHeight) ::
    ((c.preferredHeight.toList.map fun n => ("preferredHeight", .ofInt32 n)) ++
      (c.preferredFps.toList.map fun x => ("preferredFps", .number (.real x)))))

end VideoConstraints

namespace EndpointMessage

/-- The members that write an endpoint message. -/
def members (m : EndpointMessage) : List (String × Json) :=
  (m.sender.toList.map fun id => ("from", .string id)) ++
    (m.recipient.toList.map fun id => ("to", .string id)) ++ m.payload.members

/-- The object that writes an endpoint message on its own, without a class. -/
def toJson (m : EndpointMessage) : Json :=
  .object m.members

end EndpointMessage

namespace Message

/-- The name of the member that holds a message's class. -/
def classField : String := "colibriClass"

/-- The members of a message after its class. -/
def members : Message → List (String × Json)
  | clientHello | unknown => []
  | serverHello version => version.toList.map fun v => ("version", .string v)
  | pinnedEndpoint id => [("pinnedEndpoint", .ofOption id)]
  | pinnedEndpoints ids => [("pinnedEndpoints", .ofStrings ids)]
  | selectedEndpoint id => [("selectedEndpoint", .ofOption id)]
  | selectedEndpoints ids => [("selectedEndpoints", .ofStrings ids)]
  | receiverVideoConstraint height => [("maxFrameHeight", .ofInt32 height)]
  | lastN value => [("lastN", .ofInt32 value)]
  | endpointMessage m => m.members
  | dominantSpeaker id => [("dominantSpeakerEndpoint", .string id)]
  | connectivityStatus id active => [("endpoint", .string id), ("active", .boolean active)]
  | lastNEndpoints ids => [("lastNEndpoints", .ofStrings ids)]
  | senderVideoConstraints c => [("videoConstraints", c.toJson)]

/-- The object that writes a message. -/
def toJson (m : Message) : Json :=
  .object ((classField, .string m.kind.name) :: m.members)

/-- The text of a message. -/
def encode (m : Message) : String :=
  m.toJson.toText

end Message

end ControlChannel
