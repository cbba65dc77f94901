import ControlChannel.Bridge.Slots
import ControlChannel.Message.Printer

/-!
# Sending

A message is sent once, on one channel, and never again: with no channel to send on it is counted
and dropped, and so it is when the channel does not take it.
-/

namespace ControlChannel.Bridge

/-- Sends a message on a certain channel, whichever would be selected. -/
def sendVia (b : Bridge) (t : TransportId) (channel : Channel) (message : Message) : Bridge :=
  let id := (b.transport t).endpointId
  let b := b.log (.sending id channel.kind message.kind)
  match b.sendOn channel message.encode with
  | .ok b =>
      (b.updateStatistics t (·.countSent channel.kind)).count (.sent channel.kind message.kind)
  | .error e =>
      (b.count (.dropped .outbound (.failed e.label))).log
        (.notAccepted id channel.kind message.kind e)

/-- Sends a message on a channel that was selected, or drops it if none was. -/
def dispatch (b : Bridge) (t : TransportId) (channel : Option Channel) (message : Message) :
    Bridge :=
  match channel with
  | none =>
      ((b.updateTransport t fun tr => { tr with outbox := tr.outbox.countDropped }).count
        (.dropped .outbound .noChannel)).log
          (.noChannel (b.transport t).endpointId message.kind)
  | some channel =>
      (b.updateTransport t fun tr =>
        { tr with outbox := tr.outbox.countAttempt message.kind }).sendVia t channel message

/-- Sends a message on the channel that the transport selects now. -/
def send (b : Bridge) (t : TransportId) (message : Message) : Bridge :=
  b.dispatch t (b.activeChannel t) message

end ControlChannel.Bridge
