/-!
# Channels

An endpoint talks to its bridge over a socket, over a data channel, or over both. Channels,
transports and conferences are known by numbers, which the bridge gives out in order.
-/

namespace ControlChannel

/-- The number of a socket. -/
abbrev SocketId := Nat

/-- The number of a data channel. -/
abbrev DataChannelId := Nat

/-- The number of a transport. -/
abbrev TransportId := Nat

/-- The number of a conference. -/
abbrev ConferenceId := Nat

/-- The kind of a channel. -/
inductive ChannelKind where
  | socket
  | dataChannel
  deriving DecidableEq, Repr

namespace ChannelKind

/-- The word for a kind of channel. -/
def name : ChannelKind → String
  | socket => "socket"
  | dataChannel => "data_channel"

end ChannelKind

/-- A channel that a message can be sent on. -/
inductive Channel where
  | socket (id : SocketId)
  | dataChannel (id : DataChannelId)
  deriving DecidableEq, Repr

namespace Channel

/-- The kind of the channel. -/
def kind : Channel → ChannelKind
  | socket _ => .socket
  | dataChannel _ => .dataChannel

end Channel

/-- A call that its caller must not make. It has no effect. -/
inductive Misuse where
  /-- A data channel was attached where it is attached already. -/
  | sameDataChannel
  /-- A data channel was attached where another one is alive. -/
  | otherDataChannel
  /-- A data channel got a message that nobody listens for. -/
  | noListener
  /-- A queue was asked for that is longer than any queue can be. -/
  | queueTooLong
  deriving DecidableEq, Repr

/-- The greatest number of frames that a queue can be made for: a word of 64 bits counts them, with
    three bits to spare. -/
def longestQueue : Nat := UInt64.size / 8 - 1

namespace Misuse

/-- The wording of the misuse. -/
def message : Misuse → String
  | sameDataChannel => "Re-setting the same data channel"
  | otherDataChannel => "Overwriting a previous data channel"
  | noListener => "no message listener registered"
  | queueTooLong =>
      "a semaphore may not have more than MAX_PERMITS permits (" ++ toString longestQueue ++ ")"

end Misuse

end ControlChannel
