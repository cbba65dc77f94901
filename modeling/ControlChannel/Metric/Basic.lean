import ControlChannel.Channel.Basic
import ControlChannel.Error
import ControlChannel.KeyMap
import ControlChannel.Route

/-!
# Metrics

What the transports count for their operators. The labels of a metric are taken from fixed sets, so
that nothing a client sends can become one. A series is a metric's name with the words of its
labels.
-/

namespace ControlChannel

/-- The direction of a message. -/
inductive Direction where
  | inbound
  | outbound
  deriving DecidableEq, Repr

/-- The word for a direction. -/
def Direction.name : Direction → String
  | inbound => "inbound"
  | outbound => "outbound"

/-- Why a message was dropped. -/
inductive DropReason where
  | noChannel
  | staleSocket
  | failed (label : TransportError.Label)
  deriving DecidableEq, Repr

/-- The word for a reason. -/
def DropReason.name : DropReason → String
  | noChannel => "no_channel"
  | staleSocket => "stale_socket"
  | failed label => label.name

/-- One count of a metric. -/
inductive Metric where
  | sent (channel : ChannelKind) (kind : Kind)
  | received (channel : ChannelKind)
  | dropped (direction : Direction) (reason : DropReason)
  | unhandled (kind : Kind)
  | routed (route : Route.Label)
  /-- A message was handled; the time that it took is one sample. -/
  | handled (kind : Kind)
  deriving DecidableEq, Repr

/-- A metric's name with the words of its labels. -/
structure Series where
  name : String
  labels : List (String × String)
  deriving DecidableEq, Repr

namespace Series

/-- Messages that a channel took, by kind. -/
def sent (channel kind : String) : Series :=
  ⟨"bridge_messages_sent_total", [("channel", channel), ("message_type", kind)]⟩

/-- Messages received, by channel. -/
def received (channel : String) : Series :=
  ⟨"bridge_messages_received_total", [("channel", channel)]⟩

/-- Messages dropped, by direction and reason. -/
def dropped (direction reason : String) : Series :=
  ⟨"bridge_messages_dropped_total", [("direction", direction), ("reason", reason)]⟩

/-- Messages of a kind that is not handled. -/
def unhandled (kind : String) : Series :=
  ⟨"bridge_unhandled_messages_total", [("message_type", kind)]⟩

/-- Endpoint messages, by kind of route. -/
def routed (route : String) : Series :=
  ⟨"bridge_endpoint_messages_routed_total", [("route", route)]⟩

/-- Samples of handling times, by kind of message. -/
def handled (kind : String) : Series :=
  ⟨"bridge_inbound_handle_duration_seconds", [("message_type", kind)]⟩

/-- The series as one text: the name, and the labels between braces. -/
def key (s : Series) : String :=
  let labels := s.labels.map fun label => label.1 ++ "=" ++ label.2
  s.name ++ "\x7b" ++ ",".intercalate labels ++ "\x7d"

/-- How often each series was counted. -/
def tally (counted : List Series) : KeyMap Nat :=
  counted.foldl (fun m s => m.insert s.key ((m.get? s.key).getD 0 + 1)) .empty

end Series

/-- The series that a count belongs to. -/
def Metric.series : Metric → Series
  | sent channel kind => .sent channel.name kind.name
  | received channel => .received channel.name
  | dropped direction reason => .dropped direction.name reason.name
  | unhandled kind => .unhandled kind.name
  | routed route => .routed route.name
  | handled kind => .handled kind.name

end ControlChannel
