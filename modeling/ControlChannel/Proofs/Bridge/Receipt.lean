import ControlChannel.Proofs.Bridge.Bisimulation
import ControlChannel.Proofs.Bridge.Outbound

/-!
# Taking note of a text

Before a transport looks at a text, it looks at where the text comes from. From a source that it
hears it takes note of the kind of channel and counts the text as received, and the channel for an
answer is settled then, whatever the text is and whatever channel would be selected. A text from
any other source is told of in the trace and goes no further.
-/

namespace ControlChannel

/-- The transport was last heard from on this kind of channel. -/
def Transport.heardOn (kind : ChannelKind) (tr : Transport) : Transport :=
  { tr with channels := { tr.channels with lastActive := kind } }

namespace Bridge

variable {b : Bridge} {t : TransportId} {source : Source}

/-- Entries are written to the trace. -/
def write (b : Bridge) (events : List Event) : Bridge :=
  { b with trace := b.trace ++ events }

theorem write_write (b : Bridge) (events more : List Event) :
    (b.write events).write more = b.write (events ++ more) := by
  simp [write]

/-- The bridge once a transport has taken note of a text on this kind of channel: the kind is the one
    last heard from, and the text is counted as received. -/
def taken (b : Bridge) (t : TransportId) (kind : ChannelKind) : Bridge :=
  { b with
    transports := b.transports.modify t (Transport.heardOn kind)
    statistics := b.statistics.modify (b.transport t).statistics (·.countReceived kind)
    trace := b.trace ++ [.counted (.received kind)] }

/-- The channel on which an answer to a text is owed: the socket that the text came from, or the data
    channel of the transport, if it is alive. -/
def answerChannel (b : Bridge) (t : TransportId) : Source → Option Channel
  | .socket s => some (.socket s)
  | .dataChannel => (b.liveDataChannel t).map .dataChannel

/-- Where the note is taken in the channels of the transport, and counted after that. -/
theorem countReceived_eq_taken (b : Bridge) (t : TransportId) (kind : ChannelKind) :
    (b.setChannels t { (b.transport t).channels with lastActive := kind }).countReceived t kind =
      b.taken t kind := by
  have owner : ((b.updateTransport t (Transport.heardOn kind)).transport t).statistics =
      (b.transport t).statistics :=
    transport_updateTransport_keeps (f := Transport.heardOn kind) (·.statistics) (fun _ => rfl) b t t
  rw [setChannels_eq b t fun p => { p with lastActive := kind }]
  change (b.updateTransport t (Transport.heardOn kind)).countReceived t kind = b.taken t kind
  unfold countReceived updateStatistics
  rw [owner]
  rfl

theorem hear_of_hears (hears : b.hears t source = true) :
    b.hear t source = some (b.taken t source.kind, b.answerChannel t source) := by
  cases source with
  | socket s =>
    have current : b.currentSocket t = some s := eq_of_beq hears
    rw [hear, markSocket_of_current current, Option.map_some, countReceived_eq_taken]
    rfl
  | dataChannel =>
    have noted := countReceived_eq_taken b t .dataChannel
    have marked : b.markDataChannel t =
        b.setChannels t { (b.transport t).channels with lastActive := .dataChannel } := rfl
    rw [← marked] at noted
    unfold hear answerChannel
    dsimp only
    rw [noted, liveDataChannel_markDataChannel]
    rfl

/-- A text from a source that is heard is looked at once it is taken note of. -/
theorem receiveWith_of_hears (hears : b.hears t source = true) (onPush : Callback)
    (text : String) : b.receiveWith onPush t source text =
      (b.taken t source.kind).handleText onPush t (b.answerChannel t source) text := by
  rw [receiveWith_eq, hear_of_hears hears]

/-- A text from a socket that is not the current one is counted as that, and told of. -/
theorem receiveWith_of_ne {s : SocketId} (other : b.currentSocket t ≠ some s) (onPush : Callback)
    (text : String) : b.receiveWith onPush t (.socket s) text =
      b.write [.counted (.dropped .inbound .staleSocket),
        .logged (.unknownSocket (b.transport t).endpointId s)] := by
  unfold receiveWith
  dsimp only
  rw [markSocket_of_ne other]
  exact write_write b [_] [_]

/-- Taking note of a text leaves all of a transport but its channels. -/
theorem transport_taken {α : Type} (part : Transport → α)
    (only : ∀ (tr : Transport) channels, part { tr with channels := channels } = part tr)
    (b : Bridge) (t : TransportId) (kind : ChannelKind) (u : TransportId) :
    part ((b.taken t kind).transport u) = part (b.transport u) :=
  transport_updateTransport_keeps (f := Transport.heardOn kind) part (fun tr => only tr _) b t u

end Bridge

end ControlChannel
