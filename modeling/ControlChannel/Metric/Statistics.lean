import ControlChannel.Channel.Basic

/-!
# Statistics

Messages sent and received on each kind of channel, counted by all transports that share the
statistics.
-/

namespace ControlChannel

/-- The counts. -/
structure Statistics where
  socketSent : Nat := 0
  socketReceived : Nat := 0
  dataChannelSent : Nat := 0
  dataChannelReceived : Nat := 0
  deriving DecidableEq, Repr, Inhabited

namespace Statistics

/-- One more message sent. -/
def countSent (s : Statistics) : ChannelKind → Statistics
  | .socket => { s with socketSent := s.socketSent + 1 }
  | .dataChannel => { s with dataChannelSent := s.dataChannelSent + 1 }

/-- One more message received. -/
def countReceived (s : Statistics) : ChannelKind → Statistics
  | .socket => { s with socketReceived := s.socketReceived + 1 }
  | .dataChannel => { s with dataChannelReceived := s.dataChannelReceived + 1 }

/-- The messages sent on a kind of channel. -/
def sent (s : Statistics) : ChannelKind → Nat
  | .socket => s.socketSent
  | .dataChannel => s.dataChannelSent

/-- The messages received on a kind of channel. -/
def received (s : Statistics) : ChannelKind → Nat
  | .socket => s.socketReceived
  | .dataChannel => s.dataChannelReceived

end Statistics

end ControlChannel
