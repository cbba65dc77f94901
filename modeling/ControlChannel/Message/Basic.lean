import ControlChannel.Json.Basic
import ControlChannel.Text.Blank

/-!
# Control messages

The messages that an endpoint of a conference and its bridge exchange. A message has one of
fourteen kinds; a class that is not among the thirteen named ones makes a message of the kind
`unknown`, which keeps nothing else.
-/

namespace ControlChannel

/-- The kind of a message. -/
inductive Kind where
  | clientHello
  | serverHello
  | pinnedEndpoint
  | pinnedEndpoints
  | selectedEndpoint
  | selectedEndpoints
  | receiverVideoConstraint
  | lastN
  | endpointMessage
  | dominantSpeaker
  | connectivityStatus
  | lastNEndpoints
  | senderVideoConstraints
  | unknown
  deriving DecidableEq, Repr

namespace Kind

/-- All kinds, in the order of their numbers. -/
def all : List Kind :=
  [clientHello, serverHello, pinnedEndpoint, pinnedEndpoints, selectedEndpoint, selectedEndpoints,
    receiverVideoConstraint, lastN, endpointMessage, dominantSpeaker, connectivityStatus,
    lastNEndpoints, senderVideoConstraints, unknown]

/-- The number of kinds. -/
def count : Nat := 14

/-- The number of a kind. -/
def index (kind : Kind) : Fin count :=
  ⟨kind.ctorIdx, by cases kind <;> decide⟩

/-- The class that names a kind in a message's text. -/
def name : Kind → String
  | clientHello => "ClientHello"
  | serverHello => "ServerHello"
  | pinnedEndpoint => "PinnedEndpointChangedEvent"
  | pinnedEndpoints => "PinnedEndpointsChangedEvent"
  | selectedEndpoint => "SelectedEndpointChangedEvent"
  | selectedEndpoints => "SelectedEndpointsChangedEvent"
  | receiverVideoConstraint => "ReceiverVideoConstraint"
  | lastN => "LastNChangedEvent"
  | endpointMessage => "EndpointMessage"
  | dominantSpeaker => "DominantSpeakerEndpointChangeEvent"
  | connectivityStatus => "EndpointConnectivityStatusChangeEvent"
  | lastNEndpoints => "LastNEndpointsChangeEvent"
  | senderVideoConstraints => "SenderVideoConstraints"
  | unknown => "Unknown"

/-- The kind that a class names. -/
def ofName (className : String) : Kind :=
  (all.find? (·.name == className)).getD unknown

theorem all_index (kind : Kind) : all[kind.index]? = some kind := by
  cases kind <;> rfl

theorem ofName_name (kind : Kind) : ofName kind.name = kind := by
  cases kind <;> decide

end Kind

/-- What a receiver asks of the video of one sender. -/
structure VideoConstraints where
  idealHeight : Int32
  preferredHeight : Option Int32 := none
  preferredFps : Option Float := none
  deriving DecidableEq, Repr

namespace VideoConstraints

/-- Constraints with an ideal height only. -/
def ideal (height : Int32) : VideoConstraints :=
  { idealHeight := height }

end VideoConstraints

/-- A message from one endpoint to another or to all others of its conference. Only its sender and
    its recipient are interpreted. -/
structure EndpointMessage where
  sender : Option String
  recipient : Option String
  payload : Payload
  deriving BEq, Repr

namespace EndpointMessage

/-- The message names no recipient and so goes to everyone; a blank name is none. -/
def isBroadcast (message : EndpointMessage) : Bool :=
  message.recipient.all Text.isBlank

end EndpointMessage

/-- A control message. -/
inductive Message where
  | clientHello
  | serverHello (version : Option String)
  | pinnedEndpoint (id : Option String)
  | pinnedEndpoints (ids : List String)
  | selectedEndpoint (id : Option String)
  | selectedEndpoints (ids : List String)
  | receiverVideoConstraint (maxFrameHeight : Int32)
  | lastN (value : Int32)
  | endpointMessage (message : EndpointMessage)
  | dominantSpeaker (id : String)
  | connectivityStatus (id : String) (active : Bool)
  | lastNEndpoints (ids : List String)
  | senderVideoConstraints (constraints : VideoConstraints)
  | unknown
  deriving BEq, Repr

namespace Message

/-- The kind of a message. -/
def kind : Message → Kind
  | clientHello => .clientHello
  | serverHello _ => .serverHello
  | pinnedEndpoint _ => .pinnedEndpoint
  | pinnedEndpoints _ => .pinnedEndpoints
  | selectedEndpoint _ => .selectedEndpoint
  | selectedEndpoints _ => .selectedEndpoints
  | receiverVideoConstraint _ => .receiverVideoConstraint
  | lastN _ => .lastN
  | endpointMessage _ => .endpointMessage
  | dominantSpeaker _ => .dominantSpeaker
  | connectivityStatus _ _ => .connectivityStatus
  | lastNEndpoints _ => .lastNEndpoints
  | senderVideoConstraints _ => .senderVideoConstraints
  | unknown => .unknown

/-- The bridge's answer to a hello, and its greeting on a new socket. -/
def hello : Message := serverHello none

end Message

end ControlChannel
