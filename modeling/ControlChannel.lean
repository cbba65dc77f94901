import ControlChannel.Bridge.Operation
import ControlChannel.Proofs.Metric.Duration
import ControlChannel.Proofs.Json.RoundTrip
import ControlChannel.Proofs.Json.Reader
import ControlChannel.Proofs.Json.Integer
import ControlChannel.Proofs.Message.Envelope
import ControlChannel.Proofs.Message.Record
import ControlChannel.Proofs.Message.RoundTrip
import ControlChannel.Proofs.Message.NormalForm
import ControlChannel.Proofs.Message.Class
import ControlChannel.Proofs.Message.Field
import ControlChannel.Proofs.Message.Gathering
import ControlChannel.Proofs.Message.Declared
import ControlChannel.Proofs.Json.Consumption
import ControlChannel.Proofs.Message.Listed
import ControlChannel.Proofs.Constraint.Wishes
import ControlChannel.Proofs.Bridge.Growth
import ControlChannel.Proofs.Bridge.Sender
import ControlChannel.Proofs.Bridge.SlotHistory
import ControlChannel.Proofs.Bridge.SocketQueue
import ControlChannel.Proofs.Bridge.Effect
import ControlChannel.Proofs.Bridge.Arbitration
import ControlChannel.Proofs.Bridge.ConstraintHistory
import ControlChannel.Proofs.Bridge.PushOrder
import ControlChannel.Proofs.Bridge.Work
import ControlChannel.Proofs.Bridge.Books
import ControlChannel.Proofs.Bridge.Outbound
import ControlChannel.Proofs.Bridge.OutboundBooks
import ControlChannel.Proofs.Bridge.InboundBooks
import ControlChannel.Proofs.Bridge.SocketWire
import ControlChannel.Proofs.Bridge.SlotWire
import ControlChannel.Proofs.Bridge.WireTrace
import ControlChannel.Proofs.Bridge.Handles
import ControlChannel.Proofs.Bridge.Finishing
import ControlChannel.Proofs.Bridge.Detached
import ControlChannel.Proofs.Bridge.Connections
import ControlChannel.Proofs.Bridge.Bereft
import ControlChannel.Proofs.Bridge.Interchange
import ControlChannel.Proofs.Bridge.Routing
import ControlChannel.Proofs.Bridge.Series
import ControlChannel.Proofs.Bridge.Receipt
import ControlChannel.Proofs.Bridge.Stale
import ControlChannel.Proofs.Bridge.Unusable
import ControlChannel.Proofs.Bridge.Answer
import ControlChannel.Proofs.Settings
import ControlChannel.Proofs.Bridge.Attachment
import ControlChannel.Proofs.Bridge.Room
import ControlChannel.Proofs.Bridge.Sending
import ControlChannel.Proofs.Bridge.Outlived
