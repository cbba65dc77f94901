import ControlChannel.Json.Fault

/-!
# Transport errors

Why a message was not read, not sent, or not taken by a channel. The label of an error is one of
seven fixed words and serves as a metric label; its wording may hold text from outside.
-/

namespace ControlChannel

/-- A failure of the transport. -/
inductive TransportError where
  | decode (detail : String)
  | encode (detail : String)
  | tooLarge (size limit : Nat)
  | backpressure
  | channelClosed
  | notReady
  | dataChannel (detail : String)
  deriving DecidableEq, Repr

namespace TransportError

/-- The failure to read a text. -/
def ofDecodeError (e : DecodeError) : TransportError :=
  decode e.message

/-- The kind of a failure. -/
inductive Label where
  | decode
  | encode
  | tooLarge
  | backpressure
  | channelClosed
  | notReady
  | dataChannel
  deriving DecidableEq, Repr

/-- The fixed word for a kind of failure. -/
def Label.name : Label → String
  | decode => "decode"
  | encode => "encode"
  | tooLarge => "too_large"
  | backpressure => "backpressure"
  | channelClosed => "channel_closed"
  | notReady => "not_ready"
  | dataChannel => "data_channel"

/-- The kind of the failure. -/
def label : TransportError → Label
  | decode _ => .decode
  | encode _ => .encode
  | tooLarge _ _ => .tooLarge
  | backpressure => .backpressure
  | channelClosed => .channelClosed
  | notReady => .notReady
  | dataChannel _ => .dataChannel

/-- The wording of a failure. -/
def message : TransportError → String
  | decode detail => "Decode error: " ++ detail
  | encode detail => "Encode error: " ++ detail
  | tooLarge size limit =>
      "Message too large: " ++ toString size ++ " bytes (limit " ++ toString limit ++ ")"
  | backpressure => "Socket send queue full"
  | channelClosed => "Channel closed"
  | notReady => "Data channel not ready"
  | dataChannel detail => "Data channel error: " ++ detail

end TransportError

end ControlChannel
