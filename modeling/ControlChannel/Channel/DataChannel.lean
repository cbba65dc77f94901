import ControlChannel.Channel.Basic
import ControlChannel.Error

/-!
# Data channels

A data channel belongs to the media connection, which may drop it at any time. It carries texts
once it is ready, and reports its readiness and its messages to the transport it was attached to
last.
-/

namespace ControlChannel

/-- The state of a data channel. -/
structure DataChannel where
  /-- Its owner still keeps it. -/
  live : Bool := true
  ready : Bool := false
  /-- Everything sent on it fails. -/
  failing : Bool := false
  /-- The transport that it reports to. -/
  listener : Option TransportId := none
  deriving DecidableEq, Repr, Inhabited

namespace DataChannel

/-- Why a text cannot be sent now, if it cannot. -/
def refusal (d : DataChannel) : Option TransportError :=
  if d.failing then some (.dataChannel "send refused")
  else if ¬ d.ready then some .notReady
  else none

end DataChannel

end ControlChannel
