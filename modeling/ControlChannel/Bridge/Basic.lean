import ControlChannel.Channel.DataChannel
import ControlChannel.Channel.Pair
import ControlChannel.Channel.Socket
import ControlChannel.Config
import ControlChannel.Constraint.Inputs
import ControlChannel.Log
import ControlChannel.Metric.Basic
import ControlChannel.Metric.Statistics

/-!
# The bridge

The state of a bridge's control channels as one value: the sockets, the data channels, the
conferences, the statistics, and a transport for each endpoint. Sockets and data channels have one
state each, wherever they are referred to. What a transport does to the outside is written to the
trace, in order: frames that a channel took, constraints and values given to an endpoint, messages
given to a conference, counts and log entries.
-/

namespace ControlChannel

/-- The number of a set of statistics. -/
abbrev StatisticsId := Nat

/-- Where an inbound text comes from. -/
inductive Source where
  | socket (id : SocketId)
  | dataChannel
  deriving DecidableEq, Repr

namespace Source

/-- The kind of channel that the text came on. -/
def kind : Source → ChannelKind
  | socket _ => .socket
  | dataChannel => .dataChannel

end Source

/-- What an endpoint does with its own transport while it is being given constraints. -/
inductive Reaction where
  | receive (source : Source) (text : String)
  | send (text : String)
  | clearSocket (socket : SocketId) (status : UInt16)
  | close
  /-- It looks at the transport's state. -/
  | observe
  deriving DecidableEq, Repr

/-- The endpoint that owns a transport. -/
structure Endpoint where
  conference : Option ConferenceId := none
  /-- What it will do at each of the next times that it is given constraints. -/
  script : List (List Reaction) := []
  deriving DecidableEq, Repr, Inhabited

/-- The counts of one transport's outbound messages. -/
structure Outbox where
  /-- The attempts to send on the selected channel, by the number of the message's kind. -/
  attempts : Vector Nat Kind.count := .replicate _ 0
  /-- The messages for which there was no channel. -/
  dropped : Nat := 0
  deriving DecidableEq, Repr, Inhabited

namespace Outbox

/-- The attempts to send messages of one kind. -/
def sent (o : Outbox) (kind : Kind) : Nat :=
  o.attempts.get kind.index

/-- One more attempt. -/
def countAttempt (o : Outbox) (kind : Kind) : Outbox :=
  { o with attempts := o.attempts.set kind.index (o.sent kind + 1) }

/-- One more message without a channel. -/
def countDropped (o : Outbox) : Outbox :=
  { o with dropped := o.dropped + 1 }

/-- The kinds of which messages were attempted, with their counts. -/
def sentCounts (o : Outbox) : List (Kind × Nat) :=
  (Kind.all.map fun kind => (kind, o.sent kind)).filter (0 < ·.2)

/-- The attempts to send messages of any kind. -/
def sentTotal (o : Outbox) : Nat :=
  Kind.all.foldr (fun kind total => o.sent kind + total) 0

end Outbox

/-- The transport of one endpoint. -/
structure Transport where
  endpointId : String
  config : Config := {}
  channels : ChannelPair := {}
  outbox : Outbox := {}
  inputs : ConstraintInputs
  /-- The number of times that an input was set. -/
  generation : Nat := 0
  /-- The newest generation of inputs whose constraints were given to the endpoint. -/
  pushed : Nat := 0
  statistics : StatisticsId
  /-- The endpoint, while it is there. -/
  endpoint : Option Endpoint := some {}
  /-- The transport was not dropped. -/
  live : Bool := true
  deriving DecidableEq

namespace Transport

instance : Inhabited Transport :=
  ⟨{ endpointId := "", inputs := .initial 0, statistics := 0, endpoint := none, live := false }⟩

/-- A new transport. -/
def create (endpointId : String) (config : Config) (conference : Option ConferenceId)
    (statistics : StatisticsId) : Transport where
  endpointId := endpointId
  config := config
  inputs := .initial config.maxFrameHeight
  statistics := statistics
  endpoint := some { conference := conference }

end Transport

/-- The state of a transport as it is shown for diagnosis. -/
structure Snapshot where
  endpointId : String
  socketLastActive : Bool
  hasSocket : Bool
  dataChannelReady : Bool
  dropped : Nat
  sentCounts : List (Kind × Nat)
  inputs : ConstraintInputs
  connected : Bool
  deriving DecidableEq

/-- What an endpoint's reaction came to. -/
inductive Reacted where
  | seen (state : Snapshot)
  | unreadable (error : TransportError)
  deriving DecidableEq

/-- What a transport did to the outside. -/
inductive Event where
  /-- A channel took a frame. -/
  | accepted (channel : Channel) (frame : Frame)
  /-- Constraints were computed from inputs. -/
  | computed (transport : TransportId) (inputs : ConstraintInputs)
  /-- Constraints were given to the endpoint. -/
  | pushed (transport : TransportId) (constraints : SenderConstraints)
  /-- The endpoint begins to react to constraints that it was given. -/
  | reacting (transport : TransportId) (constraints : SenderConstraints)
  /-- The endpoint finished one reaction. -/
  | reacted (transport : TransportId) (outcome : Reacted)
  /-- A number of senders was given to the endpoint. -/
  | lastN (transport : TransportId) (value : Int32)
  /-- The transport told that a channel is there, by the id of its endpoint. -/
  | connected (transport : TransportId) (endpointId : String)
  /-- A message was given to a conference, for local targets and perhaps for other bridges. -/
  | delivered (conference : ConferenceId) (message : EndpointMessage) (targets : List String)
      (relayRemote : Bool)
  | counted (metric : Metric)
  | logged (entry : LogEntry)

/-- The state of a bridge. -/
structure Bridge where
  sockets : List Socket := []
  dataChannels : List DataChannel := []
  conferences : List Conference := []
  statistics : List Statistics := []
  transports : List Transport := []
  trace : List Event := []
  deriving Inhabited

namespace Bridge

/-! ## Parts -/

/-- The state of a socket. -/
def socket (b : Bridge) (s : SocketId) : Socket :=
  b.sockets.getD s default

/-- The state of a data channel. -/
def dataChannel (b : Bridge) (d : DataChannelId) : DataChannel :=
  b.dataChannels.getD d { live := false }

/-- The state of a transport. -/
def transport (b : Bridge) (t : TransportId) : Transport :=
  b.transports.getD t default

/-- The statistics that a transport counts in. -/
def statisticsOf (b : Bridge) (t : TransportId) : Statistics :=
  b.statistics.getD (b.transport t).statistics {}

/-- Puts a new state in place of a socket's. -/
def setSocket (b : Bridge) (s : SocketId) (state : Socket) : Bridge :=
  { b with sockets := b.sockets.set s state }

/-- Puts a new state in place of a data channel's. -/
def setDataChannel (b : Bridge) (d : DataChannelId) (state : DataChannel) : Bridge :=
  { b with dataChannels := b.dataChannels.set d state }

/-- Changes the state of a transport. -/
def updateTransport (b : Bridge) (t : TransportId) (f : Transport → Transport) : Bridge :=
  { b with transports := b.transports.modify t f }

/-- Changes the channels of a transport. -/
def setChannels (b : Bridge) (t : TransportId) (channels : ChannelPair) : Bridge :=
  b.updateTransport t fun tr => { tr with channels := channels }

/-- Changes the statistics that a transport counts in. -/
def updateStatistics (b : Bridge) (t : TransportId) (f : Statistics → Statistics) : Bridge :=
  { b with statistics := b.statistics.modify (b.transport t).statistics f }

/-! ## The trace -/

/-- Writes to the trace. -/
def emit (b : Bridge) (e : Event) : Bridge :=
  { b with trace := b.trace ++ [e] }

/-- Counts a metric once. -/
def count (b : Bridge) (m : Metric) : Bridge :=
  b.emit (.counted m)

/-- Writes a log entry. -/
def log (b : Bridge) (entry : LogEntry) : Bridge :=
  b.emit (.logged entry)

/-- The trace so far, and the bridge with an empty trace. -/
def takeTrace (b : Bridge) : List Event × Bridge :=
  (b.trace, { b with trace := [] })

/-! ## New parts -/

/-- A new socket with room for `buffer` frames, and its number. -/
def addSocket (b : Bridge) (buffer : Nat) : Except Misuse (SocketId × Bridge) := do
  let state ← Socket.create buffer
  pure (b.sockets.length, { b with sockets := b.sockets ++ [state] })

/-- A new data channel and its number. -/
def addDataChannel (b : Bridge) (ready : Bool) : DataChannelId × Bridge :=
  (b.dataChannels.length, { b with dataChannels := b.dataChannels ++ [{ ready := ready }] })

/-- A new conference and its number. -/
def addConference (b : Bridge) (c : Conference) : ConferenceId × Bridge :=
  (b.conferences.length, { b with conferences := b.conferences ++ [c] })

/-- New statistics and their number. -/
def addStatistics (b : Bridge) : StatisticsId × Bridge :=
  (b.statistics.length, { b with statistics := b.statistics ++ [{}] })

/-- A new transport and its number. -/
def addTransport (b : Bridge) (tr : Transport) : TransportId × Bridge :=
  (b.transports.length, { b with transports := b.transports ++ [tr] })

/-! ## Questions -/

/-- The transport was not dropped. -/
def isLive (b : Bridge) (t : TransportId) : Bool :=
  (b.transport t).live

/-- Some handle of the socket is left, outside the bridge or in a slot. -/
def isHeld (b : Bridge) (s : SocketId) : Bool :=
  0 < (b.socket s).handles || b.transports.any fun tr => tr.channels.socket == some s

/-- The data channel in a transport's slot, if it is alive. -/
def liveDataChannel (b : Bridge) (t : TransportId) : Option DataChannelId :=
  (b.transport t).channels.dataChannel.filter fun d => (b.dataChannel d).live

/-- The data channel in a transport's slot is alive and ready. -/
def dataChannelReady (b : Bridge) (t : TransportId) : Bool :=
  (b.liveDataChannel t).any fun d => (b.dataChannel d).ready

/-- The channel on which a transport would send now. -/
def activeChannel (b : Bridge) (t : TransportId) : Option Channel :=
  let channels := (b.transport t).channels
  match channels.lastActive.select channels.socket.isSome (b.dataChannelReady t) with
  | some .socket => channels.socket.map .socket
  | some .dataChannel => (b.liveDataChannel t).map .dataChannel
  | none => none

/-- A transport has a channel to send on. -/
def isConnected (b : Bridge) (t : TransportId) : Bool :=
  (b.activeChannel t).isSome

/-- The state of a transport for diagnosis. -/
def snapshot (b : Bridge) (t : TransportId) : Snapshot :=
  let tr := b.transport t
  { endpointId := tr.endpointId
    socketLastActive := tr.channels.lastActive == .socket
    hasSocket := tr.channels.socket.isSome
    dataChannelReady := b.dataChannelReady t
    dropped := tr.outbox.dropped
    sentCounts := tr.outbox.sentCounts
    inputs := tr.inputs
    connected := b.isConnected t }

end Bridge

end ControlChannel
