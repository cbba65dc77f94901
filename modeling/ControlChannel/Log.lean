import ControlChannel.Channel.Basic
import ControlChannel.Error
import ControlChannel.Route

/-!
# Log entries

What the transports report about their work, as causes; the level, the target and the words of an
entry follow from its cause. The text of a log may hold anything that a client sent.
-/

namespace ControlChannel

/-- The importance of an entry. -/
inductive Level where
  | debug
  | info
  | warn
  deriving DecidableEq, Repr

/-- The word for a level. -/
def Level.name : Level → String
  | debug => "DEBUG"
  | info => "INFO"
  | warn => "WARN"

/-- The part of the transport that an entry comes from. -/
inductive Target where
  | transport
  | channels
  | socket
  | outbound
  | inbound
  | relay
  deriving DecidableEq, Repr

/-- The name of a part. -/
def Target.name : Target → String
  | transport => "bridge.transport"
  | channels => "bridge.transport.channels"
  | socket => "bridge.transport.socket"
  | outbound => "bridge.transport.outbound"
  | inbound => "bridge.transport.inbound"
  | relay => "bridge.transport.relay"

/-- A value that an entry carries. -/
inductive LogValue where
  | text (value : String)
  | integer (value : Int)
  | boolean (value : Bool)
  | socket (id : SocketId)
  deriving DecidableEq, Repr

/-- What an entry reports. -/
inductive LogEntry where
  | replacingSocket (old new : SocketId)
  | closeNotQueued (socket : SocketId) (error : TransportError)
  | noChannel (endpoint : String) (kind : Kind)
  | sending (endpoint : String) (channel : ChannelKind) (kind : Kind)
  | notAccepted (endpoint : String) (channel : ChannelKind) (kind : Kind) (error : TransportError)
  | relaying (endpoint : String) (route : Route.Label) (targets : Nat) (relayRemote : Bool)
  | conferenceMissing (endpoint : String)
  | targetUnknown (endpoint target : String)
  | socketConnected (endpoint : String) (socket : SocketId)
  | channelConnected (endpoint : String)
  | socketCleared (endpoint : String) (socket : SocketId) (status : UInt16) (reason : String)
  | closed (endpoint : String)
  | unknownSocket (endpoint : String) (socket : SocketId)
  | binaryIgnored (endpoint : String) (length : Nat)
  | undecodable (endpoint : String) (error : TransportError)
  | pinsChanged (endpoint : String)
  | selectionChanged (endpoint : String)
  | heightReceived (endpoint : String) (height : Int32)
  | superseded (endpoint : String) (generation : Nat)
  | newConstraints (endpoint : String) (senders generation : Nat)
  | constraintsUndelivered (endpoint : String)
  | lastNUndelivered (endpoint : String)
  | unexpectedKind (endpoint : String) (kind : Kind)
  deriving DecidableEq, Repr

namespace LogEntry

/-- The importance of the entry. -/
def level : LogEntry → Level
  | socketConnected .. => .info
  | conferenceMissing .. | targetUnknown .. | unknownSocket .. | undecodable ..
  | unexpectedKind .. => .warn
  | _ => .debug

/-- The part that the entry comes from. -/
def target : LogEntry → Target
  | replacingSocket .. => .channels
  | closeNotQueued .. => .socket
  | noChannel .. | sending .. | notAccepted .. => .outbound
  | relaying .. | conferenceMissing .. | targetUnknown .. => .relay
  | socketConnected .. | channelConnected .. | socketCleared .. | closed .. => .transport
  | _ => .inbound

/-- The words of the entry. -/
def message : LogEntry → String
  | replacingSocket .. => "Replacing socket"
  | closeNotQueued .. => "Close frame not queued"
  | noChannel .. => "No available transport channel, can't send a message"
  | sending .. => "Sending message"
  | notAccepted .. => "Channel did not accept message"
  | relaying .. => "Relaying endpoint message"
  | conferenceMissing .. => "Unable to send EndpointMessage, conference is missing or expired"
  | targetUnknown .. => "Unable to find endpoint to send EndpointMessage to"
  | socketConnected .. => "Socket connected"
  | channelConnected .. => "Transport channel connected"
  | socketCleared .. => "Socket closed"
  | closed .. => "Endpoint expired, closed socket"
  | unknownSocket .. => "Received text from an unknown socket"
  | binaryIgnored .. => "Ignoring binary data channel message"
  | undecodable .. => "Dropping undecodable message"
  | pinsChanged .. => "Pinned endpoints changed"
  | selectionChanged .. => "Selected endpoints changed"
  | heightReceived .. => "Received a maxFrameHeight video constraint"
  | superseded .. => "Skipping superseded video constraints"
  | newConstraints .. => "New video constraints"
  | constraintsUndelivered .. => "Endpoint gone, dropping video constraints"
  | lastNUndelivered .. => "Endpoint gone, ignoring last-N"
  | unexpectedKind .. => "Received a message with an unexpected type"

/-- The field that names the endpoint. -/
def endpointField (id : String) : String × LogValue :=
  ("endpoint_id", .text id)

/-- The field that names a kind of message. -/
def kindField (kind : Kind) : String × LogValue :=
  ("message_type", .text kind.name)

/-- The field that names a kind of channel. -/
def channelField (channel : ChannelKind) : String × LogValue :=
  ("channel", .text channel.name)

/-- The field that words an error. -/
def errorField (error : TransportError) : String × LogValue :=
  ("error", .text error.message)

/-- The values that the entry carries, by name. -/
def fields : LogEntry → List (String × LogValue)
  | replacingSocket old new => [("old_socket_id", .socket old), ("new_socket_id", .socket new)]
  | closeNotQueued socket error => [("socket_id", .socket socket), errorField error]
  | noChannel endpoint kind => [endpointField endpoint, kindField kind]
  | sending endpoint channel kind =>
      [endpointField endpoint, channelField channel, kindField kind]
  | notAccepted endpoint channel kind error =>
      [endpointField endpoint, channelField channel, kindField kind, errorField error]
  | relaying endpoint route targets relayRemote =>
      [endpointField endpoint, ("route", .text route.name), ("targets", .integer targets),
        ("relay_remote", .boolean relayRemote)]
  | targetUnknown endpoint target => [endpointField endpoint, ("to", .text target)]
  | socketConnected endpoint socket | unknownSocket endpoint socket =>
      [endpointField endpoint, ("socket_id", .socket socket)]
  | socketCleared endpoint socket status reason =>
      [endpointField endpoint, ("socket_id", .socket socket), ("status", .integer status.toNat),
        ("reason", .text reason)]
  | binaryIgnored endpoint length => [endpointField endpoint, ("len", .integer length)]
  | undecodable endpoint error => [endpointField endpoint, errorField error]
  | heightReceived endpoint height =>
      [endpointField endpoint, ("max_frame_height", .integer height.toInt)]
  | superseded endpoint generation => [endpointField endpoint, ("generation", .integer generation)]
  | newConstraints endpoint senders generation =>
      [endpointField endpoint, ("senders", .integer senders), ("generation", .integer generation)]
  | unexpectedKind endpoint kind => [endpointField endpoint, kindField kind]
  | conferenceMissing endpoint | channelConnected endpoint | closed endpoint
  | pinsChanged endpoint | selectionChanged endpoint | constraintsUndelivered endpoint
  | lastNUndelivered endpoint => [endpointField endpoint]

end LogEntry

end ControlChannel
