import ControlChannel.Channel.Basic

/-!
# A pair of channels

A transport has a slot for a socket and a slot for a data channel, and remembers which of the two
kinds it last heard from. That kind is preferred for sending; the other one takes its place if
the preferred one is not usable.
-/

namespace ControlChannel

/-- The channels of one transport. A data channel in the slot may be dead; it then counts as
    absent. -/
structure ChannelPair where
  socket : Option SocketId := none
  dataChannel : Option DataChannelId := none
  lastActive : ChannelKind := .dataChannel
  deriving DecidableEq, Repr, Inhabited

/-- The kind of channel to send on: the preferred one if it is usable, otherwise the other. -/
def ChannelKind.select (lastActive : ChannelKind) (socketPresent dataChannelReady : Bool) :
    Option ChannelKind :=
  if lastActive = .socket ∧ socketPresent then some .socket
  else if dataChannelReady then some .dataChannel
  else if socketPresent then some .socket
  else none

namespace ChannelPair

/-- The socket takes the slot and becomes the channel last heard from. -/
def putSocket (p : ChannelPair) (s : SocketId) : ChannelPair :=
  { p with socket := some s, lastActive := .socket }

/-- The socket leaves the slot, and the data channel is preferred. Nothing happens if the socket
    is not the one in the slot. -/
def clearSocket (p : ChannelPair) (s : SocketId) : Option ChannelPair :=
  if p.socket = some s then some { p with socket := none, lastActive := .dataChannel } else none

/-- The socket was heard from. Nothing happens if it is not the one in the slot. -/
def markSocket (p : ChannelPair) (s : SocketId) : Option ChannelPair :=
  if p.socket = some s then some { p with lastActive := .socket } else none

/-- The data channel was heard from. -/
def markDataChannel (p : ChannelPair) : ChannelPair :=
  { p with lastActive := .dataChannel }

/-- Whatever socket is in the slot leaves it. -/
def dropSocket (p : ChannelPair) : ChannelPair :=
  { p with socket := none }

/-- The data channel takes the slot. -/
def putDataChannel (p : ChannelPair) (d : DataChannelId) : ChannelPair :=
  { p with dataChannel := some d }

end ChannelPair

end ControlChannel
