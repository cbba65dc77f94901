import ControlChannel.Proofs.Bridge.InboundBooks
import ControlChannel.Proofs.Bridge.Lockstep
import ControlChannel.Proofs.Bridge.PushOrder

/-!
# Texts on either channel

It makes no difference on which of its two channels a transport hears a text, but to the channel that
was last heard from, to the counts of each channel, and to where an answer goes. Two runs in which the
same texts come on different channels are compared by what is left of a bridge if nobody looks at
these.
-/

namespace ControlChannel

namespace Metric

/-- The metric without the channel that it tells of; of an answer, it is left that there was one. -/
def unsplit : Metric → Metric
  | received _ => received .socket
  | sent _ _ | dropped .outbound _ => dropped .outbound .noChannel
  | metric => metric

/-- What a channel did is counted: it took a message, or it did not. -/
def isAttempt (metric : Metric) : Bool :=
  metric.isSent || metric.isOutboundDrop

/-- The metric is about what was received, and does not tell of the channel. -/
def isHandling (metric : Metric) : Bool :=
  metric.isInbound && !metric.isReceived

theorem isReceived_unsplit (metric : Metric) : metric.unsplit.isReceived = metric.isReceived := by
  cases metric with
  | dropped direction reason => cases direction <;> rfl
  | _ => rfl

theorem isAttempt_unsplit (metric : Metric) : metric.unsplit.isAttempt = metric.isAttempt := by
  cases metric with
  | dropped direction reason => cases direction <;> rfl
  | _ => rfl

theorem isHandling_unsplit (metric : Metric) : metric.unsplit.isHandling = metric.isHandling := by
  cases metric with
  | dropped direction reason => cases direction <;> rfl
  | _ => rfl

theorem unsplit_of_isHandling {metric : Metric} (handling : metric.isHandling = true) :
    metric.unsplit = metric := by
  cases metric with
  | received channel => cases handling
  | sent channel kind => cases handling
  | dropped direction reason =>
    cases direction with
    | inbound => rfl
    | outbound => cases handling
  | _ => rfl

end Metric

namespace Event

/-- What is left of an event if nobody looks at which channel a message came on, nor at what became
    of an answer to it. -/
def unsplit? : Event → Option Event
  | accepted _ _ | logged (.notAccepted _ _ _ _) => none
  | logged (.sending id _ kind) => some (.logged (.sending id .socket kind))
  | counted metric => some (.counted metric.unsplit)
  | e => some e

/-- A hello is about to be sent. -/
def greets : Event → Bool
  | logged (.sending _ _ .serverHello) => true
  | _ => false

/-- What tells neither of frames nor of logs, nor of channels, can be seen from what is left. -/
theorem bind_unsplit {α : Type} {f : Event → Option α}
    (accepted : ∀ channel frame, f (.accepted channel frame) = none)
    (logged : ∀ entry, f (.logged entry) = none)
    (counted : ∀ metric, f (.counted metric.unsplit) = f (.counted metric)) (e : Event) :
    e.unsplit?.bind f = f e := by
  cases e with
  | accepted channel frame => exact (accepted channel frame).symm
  | logged entry =>
    rw [logged]
    cases entry <;> first | rfl | exact logged _
  | counted metric => exact counted metric
  | _ => rfl

end Event

/-- The counts of messages received, of which only the sum is left. -/
def Statistics.unsplit (counts : Statistics) : Statistics :=
  { socketReceived := counts.received .socket + counts.received .dataChannel }

/-- The socket without the frames that it has taken. -/
def Socket.emptied (state : Socket) : Socket :=
  { state with queue := [] }

namespace Transport

/-- The transport without the channel that it last heard from. -/
def unsplit (tr : Transport) : Transport :=
  { tr with channels := { tr.channels with lastActive := .socket } }

/-- The endpoint does nothing with the constraints that it is given. -/
def IsQuiet (tr : Transport) : Prop :=
  ∀ reactions ∈ (tr.endpoint.map Endpoint.script).getD [], reactions = []

variable {f : Transport → Transport}

theorem Inner.unsplit (h : Inner f) (tr : Transport) : (f tr).unsplit = f tr.unsplit :=
  (h.comm (fun p => { p with lastActive := .socket }) id tr).symm

theorem Inner.quiet (h : Inner f) {tr : Transport} (quiet : tr.IsQuiet) : (f tr).IsQuiet := by
  unfold IsQuiet
  rw [(h.keeps tr).2]
  exact quiet

end Transport

namespace Bridge

open Transport

variable {b b' : Bridge} {t : TransportId} {s : SocketId} {d : DataChannelId}

/-- What is left of a bridge if nobody looks at which channel a transport hears a message on, nor at
    what becomes of an answer. -/
def unsplit (b : Bridge) (t : TransportId) (s : SocketId) : Bridge :=
  { b with
    sockets := b.sockets.modify s Socket.emptied
    statistics := b.statistics.modify (b.transport t).statistics Statistics.unsplit
    transports := b.transports.modify t Transport.unsplit
    trace := b.trace.filterMap (·.unsplit?) }

/-- The texts come to a transport, each from where it comes from. -/
def arrivals (t : TransportId) (texts : List (Source × String)) : List Operation :=
  texts.map fun (source, text) => .transport t (.receive source text)

/-- The transport can be heard on both of its channels, and its endpoint does nothing. -/
structure Open (b : Bridge) (t : TransportId) (s : SocketId) (d : DataChannelId) : Prop where
  socket : b.currentSocket t = some s
  dataChannel : b.liveDataChannel t = some d
  quiet : (b.transport t).IsQuiet

/-- A change of the transport that leaves its channels in their slots, and its endpoint quiet. -/
theorem Open.update {f : Transport → Transport} (opened : b.Open t s d)
    (socket : ∀ tr, (f tr).channels.socket = tr.channels.socket)
    (dataChannel : ∀ tr, (f tr).channels.dataChannel = tr.channels.dataChannel)
    (quiet : ∀ tr, tr.IsQuiet → (f tr).IsQuiet) : (b.updateTransport t f).Open t s d where
  socket := (transport_updateTransport_keeps (·.channels.socket) socket b t t).trans opened.socket
  dataChannel := by
    have slot := transport_updateTransport_keeps (·.channels.dataChannel) dataChannel b t t
    have live := opened.dataChannel
    unfold liveDataChannel at live ⊢
    rw [slot]
    exact live
  quiet := by
    rcases transport_updateTransport_cases b t f with moved | ⟨absent, same⟩
    · rw [moved]
      exact quiet _ opened.quiet
    · rw [same, ← absent]
      exact opened.quiet

/-! ## What is left of small writes -/

theorem unsplit_emit_some {e e' : Event} (left : e.unsplit? = some e') (b : Bridge) :
    (b.emit e).unsplit t s = (b.unsplit t s).emit e' := by
  have trace : (b.trace ++ [e]).filterMap (·.unsplit?) =
      b.trace.filterMap (·.unsplit?) ++ [e'] := by
    rw [List.filterMap_append, List.filterMap_cons_some left, List.filterMap_nil]
  exact congrArg (fun trace => { b.unsplit t s with trace := trace }) trace

theorem unsplit_emit_none {e : Event} (left : e.unsplit? = none) (b : Bridge) :
    (b.emit e).unsplit t s = b.unsplit t s := by
  have trace : (b.trace ++ [e]).filterMap (·.unsplit?) = b.trace.filterMap (·.unsplit?) := by
    rw [List.filterMap_append, List.filterMap_cons_none left, List.filterMap_nil, List.append_nil]
  exact congrArg (fun trace => { b.unsplit t s with trace := trace }) trace

/-- A change of the transport changes what is left of it. -/
theorem unsplit_updateTransport {f g : Transport → Transport}
    (left : ∀ tr, (f tr).unsplit = g tr.unsplit)
    (statistics : ∀ tr, (f tr).statistics = tr.statistics) (b : Bridge) :
    (b.updateTransport t f).unsplit t s = (b.unsplit t s).updateTransport t g := by
  have counts : ((b.updateTransport t f).transport t).statistics = (b.transport t).statistics :=
    transport_updateTransport_keeps (·.statistics) statistics b t t
  have moved : (b.transports.modify t f).modify t Transport.unsplit =
      (b.transports.modify t Transport.unsplit).modify t g := by
    rw [List.modify_modify_eq, List.modify_modify_eq]
    congr 1
    exact funext left
  unfold unsplit
  rw [counts]
  exact congrArg (fun transports => { b.unsplit t s with transports := transports }) moved

/-- It is not left which channel was last heard from. -/
theorem unsplit_mark (kind : ChannelKind) (b : Bridge) :
    (b.setChannels t { (b.transport t).channels with lastActive := kind }).unsplit t s =
      b.unsplit t s := by
  rw [setChannels_eq b t fun p => { p with lastActive := kind }]
  have stays : (b.unsplit t s).updateTransport t id = b.unsplit t s := by
    unfold Bridge.updateTransport
    rw [List.modify_id]
  refine (unsplit_updateTransport (g := id) (fun _ => ?_) (fun _ => ?_) b).trans stays
  · rfl
  · rfl

/-- A change of the statistics changes what is left of them. -/
theorem unsplit_updateStatistics {f g : Statistics → Statistics}
    (left : ∀ counts, (f counts).unsplit = g counts.unsplit) (b : Bridge) :
    (b.updateStatistics t f).unsplit t s =
      { b.unsplit t s with
        statistics := (b.unsplit t s).statistics.modify (b.transport t).statistics g } := by
  have moved : (b.statistics.modify (b.transport t).statistics f).modify (b.transport t).statistics
      Statistics.unsplit = (b.statistics.modify (b.transport t).statistics
        Statistics.unsplit).modify (b.transport t).statistics g := by
    rw [List.modify_modify_eq, List.modify_modify_eq]
    congr 1
    exact funext left
  exact congrArg (fun statistics => { b.unsplit t s with statistics := statistics }) moved

/-- It is not left which channel took a message. -/
theorem unsplit_countSent (kind : ChannelKind) (b : Bridge) :
    (b.updateStatistics t (·.countSent kind)).unsplit t s = b.unsplit t s := by
  refine (unsplit_updateStatistics (g := id) (fun counts => ?_) b).trans ?_
  · cases kind <;> rfl
  · rw [List.modify_id]

/-- A socket that takes a text has only its queue changed. -/
theorem emptied_of_send {state after : Socket} {text : String} (sent : state.send text = .ok after) :
    after.emptied = state.emptied := by
  unfold Socket.send Socket.offer at sent
  split at sent
  · cases sent
  · split at sent
    · cases sent
    · split at sent
      · cases sent
        rfl
      · cases sent

theorem unsplit_setSocket {state : Socket} (same : state.emptied = (b.socket s).emptied) :
    (b.setSocket s state).unsplit t s = b.unsplit t s := by
  have emptied : (b.sockets.set s state).modify s Socket.emptied =
      b.sockets.modify s Socket.emptied := by
    refine List.ext_getElem? fun u => ?_
    rw [List.getElem?_modify, List.getElem?_modify, List.getElem?_set]
    by_cases here : s = u
    · subst here
      unfold socket at same
      rw [List.getD_eq_getElem?_getD] at same
      cases found : b.sockets[s]? with
      | none => simp [List.getElem?_eq_none_iff.1 found]
      | some old =>
        obtain ⟨present, -⟩ := List.getElem?_eq_some_iff.1 found
        rw [found, Option.getD_some] at same
        simp [present, same]
    · simp [here]
  exact congrArg (fun sockets => { b.unsplit t s with sockets := sockets }) emptied

/-- Of a message sent on one of the channels, it is left that it was tried. -/
theorem unsplit_sendVia {channel : Channel} (own : channel = .socket s ∨ channel = .dataChannel d)
    (message : Message) (b : Bridge) : (b.sendVia t channel message).unsplit t s =
      ((b.log (.sending (b.transport t).endpointId .socket message.kind)).count
        (.dropped .outbound .noChannel)).unsplit t s := by
  -- Once the attempt is logged, one metric is all that is left, whether the channel took the text
  -- or not.
  let told := b.log (.sending (b.transport t).endpointId channel.kind message.kind)
  have tried : ((b.log (.sending (b.transport t).endpointId .socket message.kind)).count
      (.dropped .outbound .noChannel)).unsplit t s =
        (told.unsplit t s).emit (.counted (.dropped .outbound .noChannel)) := by
    have begun : told.unsplit t s = (b.unsplit t s).emit
        (.logged (.sending (b.transport t).endpointId .socket message.kind)) :=
      unsplit_emit_some rfl b
    rw [begun]
    exact (unsplit_emit_some rfl _).trans (congrArg (Bridge.emit · _) (unsplit_emit_some rfl b))
  have refused (e : TransportError) : ((told.count (.dropped .outbound (.failed e.label))).log
      (.notAccepted (b.transport t).endpointId channel.kind message.kind e)).unsplit t s =
        (told.unsplit t s).emit (.counted (.dropped .outbound .noChannel)) :=
    (unsplit_emit_none rfl _).trans (unsplit_emit_some rfl told)
  have taken {c : Bridge} (accepted : c.unsplit t s = told.unsplit t s) :
      ((c.updateStatistics t (·.countSent channel.kind)).count
        (.sent channel.kind message.kind)).unsplit t s =
        (told.unsplit t s).emit (.counted (.dropped .outbound .noChannel)) := by
    rw [← accepted, ← unsplit_countSent channel.kind c]
    exact unsplit_emit_some rfl _
  rw [tried]
  rcases own with rfl | rfl
  · unfold sendVia sendOn
    dsimp only
    cases sent : (told.socket s).send message.encode with
    | error e => exact refused e
    | ok state =>
      exact taken ((unsplit_emit_none rfl _).trans (unsplit_setSocket (emptied_of_send sent)))
  · unfold sendVia sendOn
    dsimp only
    cases (told.dataChannel d).refusal with
    | some e => exact refused e
    | none => exact taken (unsplit_emit_none rfl _)

/-! ## Two bridges that are the same but for that -/

/-- Of both bridges the same is left, and the transport can be heard on both of its channels. -/
structure Interchanged (t : TransportId) (s : SocketId) (d : DataChannelId) (b b' : Bridge) :
    Prop where
  same : b'.unsplit t s = b.unsplit t s
  opened : b.Open t s d

/-- A part of the transport that does not tell which channel was last heard from. -/
theorem read_of_unsplit {α : Type} (part : Transport → α)
    (only : ∀ tr : Transport, part tr.unsplit = part tr) (same : b'.unsplit t s = b.unsplit t s) :
    part (b'.transport t) = part (b.transport t) := by
  have read (b : Bridge) : part ((b.unsplit t s).transport t) = part (b.transport t) :=
    transport_updateTransport_keeps part only b t t
  rw [← read, same, read]

/-- Whether a transport can be heard on both channels can be told from what is left. -/
theorem Open.of_unsplit (same : b'.unsplit t s = b.unsplit t s) (opened : b.Open t s d) :
    b'.Open t s d where
  socket := (read_of_unsplit (·.channels.socket) (fun _ => rfl) same).trans opened.socket
  dataChannel := by
    have slot := read_of_unsplit (·.channels.dataChannel) (fun _ => rfl) same
    have dataChannels : b'.dataChannels = b.dataChannels := congrArg (·.dataChannels) same
    have live := opened.dataChannel
    unfold liveDataChannel Bridge.dataChannel at live ⊢
    rw [slot, dataChannels]
    exact live
  quiet := by
    have endpoint := read_of_unsplit (·.endpoint) (fun _ => rfl) same
    have quiet := opened.quiet
    unfold IsQuiet at quiet ⊢
    rw [endpoint]
    exact quiet

/-- A text is counted on either channel, and it is not left on which. -/
theorem unsplit_countReceived (same : b'.unsplit t s = b.unsplit t s) (kind : ChannelKind) :
    (b'.countReceived t kind).unsplit t s = (b.countReceived t .socket).unsplit t s := by
  have summed (kind : ChannelKind) (counts : Statistics) :
      (counts.countReceived kind).unsplit = counts.unsplit.countReceived .socket := by
    cases kind <;>
      simp [Statistics.unsplit, Statistics.countReceived, Statistics.received] <;> omega
  have left (kind : ChannelKind) (b : Bridge) : (b.countReceived t kind).unsplit t s =
      ((b.updateStatistics t (·.countReceived kind)).unsplit t s).emit
        (.counted (.received .socket)) := unsplit_emit_some rfl _
  rw [left, left, unsplit_updateStatistics (g := (·.countReceived .socket)) (summed _),
    unsplit_updateStatistics (g := (·.countReceived .socket)) (summed _), same,
    read_of_unsplit (·.statistics) (fun _ => rfl) same]

namespace Interchanged

theorem read {α : Type} (part : Transport → α) (only : ∀ tr : Transport, part tr.unsplit = part tr)
    (related : Interchanged t s d b b') : part (b'.transport t) = part (b.transport t) :=
  read_of_unsplit part only related.same

theorem emit (e : Event) (related : Interchanged t s d b b') :
    Interchanged t s d (b.emit e) (b'.emit e) := by
  refine ⟨?_, related.opened.socket, related.opened.dataChannel, related.opened.quiet⟩
  cases left : e.unsplit? with
  | none => rw [unsplit_emit_none left, unsplit_emit_none left, related.same]
  | some e' => rw [unsplit_emit_some left, unsplit_emit_some left, related.same]

theorem update {f : Transport → Transport} (left : ∀ tr, (f tr).unsplit = f tr.unsplit)
    (statistics : ∀ tr, (f tr).statistics = tr.statistics)
    (channels : ∀ tr, (f tr).channels = tr.channels) (quiet : ∀ tr, tr.IsQuiet → (f tr).IsQuiet)
    (related : Interchanged t s d b b') :
    Interchanged t s d (b.updateTransport t f) (b'.updateTransport t f) := by
  refine ⟨?_, related.opened.update (fun tr => by rw [channels]) (fun tr => by rw [channels]) quiet⟩
  rw [unsplit_updateTransport left statistics, unsplit_updateTransport left statistics,
    related.same]

theorem script (related : Interchanged t s d b b') : b'.script t = b.script t :=
  related.read (fun tr => (tr.endpoint.map Endpoint.script).getD []) fun _ => rfl

/-- An endpoint that does nothing keeps its transport as it is. -/
theorem follows (t : TransportId) (s : SocketId) (d : DataChannelId) (depth : Nat) :
    Follows t (Interchanged t s d) depth := by
  intro constraints b b' related
  cases depth with
  | zero => exact related
  | succ depth =>
    unfold followScript
    rw [nextReactions_eq, nextReactions_eq, related.script]
    cases next : (b.script t).head? with
    | none => exact related
    | some reactions =>
      -- The script goes on by an entry that asks for nothing.
      have nothing : reactions = [] := related.opened.quiet reactions (List.mem_of_mem_head? next)
      subst nothing
      refine Interchanged.emit _ (related.update (fun _ => rfl) (fun _ => rfl) (fun _ => rfl) ?_)
      intro tr quiet reactions mem
      refine quiet reactions ?_
      cases there : tr.endpoint with
      | none => simp [there] at mem
      | some e =>
        simp only [there, Option.map_some, Option.getD_some] at mem ⊢
        exact List.mem_of_mem_tail mem

/-- A message is handled alike. -/
theorem handles (t : TransportId) (s : SocketId) (d : DataChannelId) :
    Handles t (Interchanged t s d) :=
  .of_endpoint (fun _ related => related.emit _) (fun _ _ related => related.emit _)
    (fun related => related.read Transport.inner fun _ => rfl)
    (fun related => related.read (·.endpoint) fun _ => rfl)
    (fun related => congrArg (·.conferences) related.same)
    fun inner related => related.update inner.unsplit inner.statistics
      (fun tr => (inner.keeps tr).1) fun _ => inner.quiet

/-- Bridges of which the same is left as of these. -/
theorem of_unsplit {c c' : Bridge} (left : c.unsplit t s = b.unsplit t s)
    (left' : c'.unsplit t s = b'.unsplit t s) (related : Interchanged t s d b b') :
    Interchanged t s d c c' :=
  ⟨left'.trans (related.same.trans left.symm), related.opened.of_unsplit left⟩

/-- An answer comes to the same on both channels. -/
theorem reply {channel channel' : Channel} (own : channel = .socket s ∨ channel = .dataChannel d)
    (own' : channel' = .socket s ∨ channel' = .dataChannel d) (message : Message)
    (related : Interchanged t s d b b') :
    Interchanged t s d (b.reply t (some channel) message) (b'.reply t (some channel') message) := by
  have sent := unsplit_sendVia own' message b' (t := t)
  rw [related.read (·.endpointId) fun _ => rfl] at sent
  exact ((related.emit _).emit _).of_unsplit (unsplit_sendVia own message b) sent

theorem countReceived (related : Interchanged t s d b b') :
    Interchanged t s d (b.countReceived t .socket) (b'.countReceived t .socket) :=
  ⟨unsplit_countReceived related.same .socket, related.opened.socket, related.opened.dataChannel,
    related.opened.quiet⟩

end Interchanged

/-- A text is heard on either channel, and it is not left on which. -/
theorem unsplit_hear (opened : b.Open t s d) {source : Source}
    (own : source = .socket s ∨ source = .dataChannel) :
    ∃ heard channel, b.hear t source = some (heard, some channel) ∧
      (channel = .socket s ∨ channel = .dataChannel d) ∧
        heard.unsplit t s = (b.countReceived t .socket).unsplit t s := by
  rcases own with rfl | rfl
  · refine ⟨_, _, ?_, .inl rfl, unsplit_countReceived (unsplit_mark .socket b) .socket⟩
    rw [hear, markSocket_of_current opened.socket]
    rfl
  · let marked := b.markDataChannel t
    have left : marked.unsplit t s = b.unsplit t s := unsplit_mark .dataChannel b
    have live : marked.liveDataChannel t = some d := (opened.of_unsplit left).dataChannel
    refine ⟨marked.countReceived t .dataChannel, .dataChannel d, ?_, .inr rfl,
      unsplit_countReceived left .dataChannel⟩
    have answers : (marked.liveDataChannel t).map Channel.dataChannel = some (.dataChannel d) := by
      rw [live]
      rfl
    exact congrArg (fun channel => some (marked.countReceived t .dataChannel, channel)) answers

/-- A text that is heard is handled. -/
theorem receiveWith_of_hear {source : Source} {channel : Option Channel} {heard : Bridge}
    (hears : b.hear t source = some (heard, channel)) (onPush : Callback) (text : String) :
    b.receiveWith onPush t source text = heard.handleText onPush t channel text := by
  rw [receiveWith_eq, hears]

namespace Interchanged

/-- A text comes to the same on both channels. -/
theorem receive {source source' : Source} (own : source = .socket s ∨ source = .dataChannel)
    (own' : source' = .socket s ∨ source' = .dataChannel) (text : String)
    (related : Interchanged t s d b b') :
    Interchanged t s d (b.receive t source text) (b'.receive t source' text) := by
  have opened' := related.opened.of_unsplit related.same
  obtain ⟨heard, channel, hears, answers, left⟩ := unsplit_hear related.opened own
  obtain ⟨heard', channel', hears', answers', left'⟩ := unsplit_hear opened' own'
  unfold Bridge.receive
  rw [scriptLength_eq, scriptLength_eq, related.script, receiveWith_of_hear hears,
    receiveWith_of_hear hears']
  exact (handles t s d).handleText (follows t s d _) (reply answers answers' _) text
    (related.countReceived.of_unsplit left left')

/-- So it is for many texts. The induction is on the texts. -/
theorem run {first second : List (Source × String)}
    (texts : first.map Prod.snd = second.map Prod.snd)
    (own : ∀ text ∈ first, text.1 = .socket s ∨ text.1 = .dataChannel)
    (own' : ∀ text ∈ second, text.1 = .socket s ∨ text.1 = .dataChannel)
    (related : Interchanged t s d b b') :
    Interchanged t s d (b.run (arrivals t first)) (b'.run (arrivals t second)) := by
  induction first generalizing second b b' with
  | nil =>
    obtain rfl : second = [] := List.map_eq_nil_iff.1 texts.symm
    exact related
  | cons here rest ih =>
    cases second with
    | nil => cases texts
    | cons there rest' =>
      obtain ⟨now, later⟩ := List.forall_mem_cons.1 own
      obtain ⟨now', later'⟩ := List.forall_mem_cons.1 own'
      obtain ⟨source, text⟩ := here
      obtain ⟨source', text'⟩ := there
      obtain ⟨same, more⟩ := List.cons.inj texts
      obtain rfl : text = text' := same
      have last := ih more later later' (related.receive now now' text)
      exact last

/-- What can be seen of the trace from what is left of it. -/
theorem trace {α : Type} {f : Event → Option α}
    (accepted : ∀ channel frame, f (.accepted channel frame) = none)
    (logged : ∀ entry, f (.logged entry) = none)
    (counted : ∀ metric, f (.counted metric.unsplit) = f (.counted metric))
    (related : Interchanged t s d b b') : b'.trace.filterMap f = b.trace.filterMap f := by
  have via (b : Bridge) : b.trace.filterMap f = (b.unsplit t s).trace.filterMap f := by
    unfold unsplit
    rw [List.filterMap_filterMap]
    exact List.filterMap_congr fun e _ => (Event.bind_unsplit accepted logged counted e).symm
  rw [via, related.same, ← via]

theorem metrics (related : Interchanged t s d b b') :
    b'.metrics.map Metric.unsplit = b.metrics.map Metric.unsplit := by
  unfold Bridge.metrics
  rw [List.map_filterMap, List.map_filterMap]
  refine related.trace (fun _ _ => rfl) (fun _ => rfl) fun metric => ?_
  cases metric with
  | dropped direction reason => cases direction <;> rfl
  | _ => rfl

/-- Metrics are counted alike if the channel is not looked at. -/
theorem countP_metrics {mark : Metric → Bool} (left : ∀ metric, mark metric.unsplit = mark metric)
    (related : Interchanged t s d b b') : b'.metrics.countP mark = b.metrics.countP mark := by
  have via (metrics : List Metric) :
      metrics.countP mark = (metrics.map Metric.unsplit).countP mark := by
    rw [List.countP_map]
    exact List.countP_congr fun metric _ => by rw [Function.comp_apply, left]
  rw [via, related.metrics, ← via]

/-- Metrics that do not tell of a channel are the same. -/
theorem filter_metrics {mark : Metric → Bool} (left : ∀ metric, mark metric.unsplit = mark metric)
    (apart : ∀ metric, mark metric = true → metric.unsplit = metric)
    (related : Interchanged t s d b b') : b'.metrics.filter mark = b.metrics.filter mark := by
  have via (metrics : List Metric) :
      metrics.filter mark = (metrics.map Metric.unsplit).filter mark := by
    have same : mark ∘ Metric.unsplit = mark := funext left
    rw [List.filter_map, same, List.map_congr_left (g := id) fun metric mem =>
      apart metric (List.mem_filter.1 mem).2, List.map_id]
  rw [via, related.metrics, ← via]

theorem countP_greets (related : Interchanged t s d b b') :
    b'.trace.countP (·.greets) = b.trace.countP (·.greets) := by
  have via (b : Bridge) : b.trace.countP (·.greets) = (b.unsplit t s).trace.countP (·.greets) := by
    unfold unsplit
    rw [List.countP_filterMap]
    refine List.countP_congr fun e _ => ?_
    cases e with
    | logged entry =>
      cases entry with
      | sending id channel kind => cases kind <;> rfl
      | _ => rfl
    | _ => rfl
  rw [via, related.same, ← via]

/-- The messages received are as many in all. -/
theorem received (related : Interchanged t s d b b') :
    (b'.statisticsOf t).received .socket + (b'.statisticsOf t).received .dataChannel =
      (b.statisticsOf t).received .socket + (b.statisticsOf t).received .dataChannel := by
  have left (b : Bridge) : (b.unsplit t s).statistics.getD (b.transport t).statistics {} =
      (b.statisticsOf t).unsplit := by
    unfold unsplit statisticsOf
    dsimp only
    rw [List.getD_eq_getElem?_getD, List.getD_eq_getElem?_getD, List.getElem?_modify_eq]
    cases b.statistics[(b.transport t).statistics]? <;> rfl
  have same := left b'
  rw [related.same, related.read (·.statistics) fun _ => rfl, left] at same
  exact (congrArg Statistics.socketReceived same).symm

end Interchanged

/-- The two channels of a transport are interchangeable for what comes in. Let the transport have a
    socket and a data channel that is alive, let its endpoint do nothing with what it is given, and let
    the same texts come in two ways, each on the socket or on the data channel. Then the runs end with
    the same inputs, calls and gifts to the endpoint and to conferences, the same metrics about what
    was handled or dropped, the same number of messages received in all, and as many answers tried.
    The bridges are the same but for the channel last heard from, the counts of each channel, and what
    became of the answers. -/
theorem channels_interchangeable {first second : List (Source × String)} (opened : b.Open t s d)
    (texts : first.map Prod.snd = second.map Prod.snd)
    (own : ∀ text ∈ first ++ second, text.1 = .socket s ∨ text.1 = .dataChannel) :
    let now := b.run (arrivals t first)
    let other := b.run (arrivals t second)
    (other.transport t).inputs = (now.transport t).inputs ∧
      other.calls t = now.calls t ∧ other.pushes t = now.pushes t ∧
      other.trace.filter (·.isGift) = now.trace.filter (·.isGift) ∧
      other.metrics.filter (·.isHandling) = now.metrics.filter (·.isHandling) ∧
      other.metrics.countP (·.isReceived) = now.metrics.countP (·.isReceived) ∧
      (other.statisticsOf t).received .socket + (other.statisticsOf t).received .dataChannel =
        (now.statisticsOf t).received .socket + (now.statisticsOf t).received .dataChannel ∧
      other.trace.countP (·.greets) = now.trace.countP (·.greets) ∧
      other.metrics.countP (·.isAttempt) = now.metrics.countP (·.isAttempt) ∧
      other.unsplit t s = now.unsplit t s := by
  intro now other
  obtain ⟨ownFirst, ownSecond⟩ := List.forall_mem_append.1 own
  have related : Interchanged t s d now other :=
    Interchanged.run texts ownFirst ownSecond ⟨rfl, opened⟩
  have gifts : other.trace.filter (·.isGift) = now.trace.filter (·.isGift) := by
    rw [← List.filterMap_eq_filter]
    exact related.trace (fun _ _ => rfl) (fun _ => rfl) fun _ => rfl
  refine ⟨related.read (·.inputs) fun _ => rfl,
    related.trace (fun _ _ => rfl) (fun _ => rfl) fun _ => rfl,
    related.trace (fun _ _ => rfl) (fun _ => rfl) fun _ => rfl, gifts,
    related.filter_metrics Metric.isHandling_unsplit fun _ => Metric.unsplit_of_isHandling,
    related.countP_metrics Metric.isReceived_unsplit, related.received, related.countP_greets,
    related.countP_metrics Metric.isAttempt_unsplit, related.same⟩

/-- An endpoint in a conference, with a socket that has room for one frame, and with a data channel. -/
def twoChannels : Bridge where
  sockets := [{ capacity := 1 }]
  dataChannels := [{ ready := true, listener := some 0 }]
  conferences := [{ locals := ["a", "b"], remotes := [] }]
  statistics := [{}]
  transports := [{ Transport.create "a" {} (some 0) 0 with
    channels := { socket := some 0, dataChannel := some 0 } }]

/-- A hello, a pin, a message for the others and a hello again, mostly on the first channel. -/
def mostlyOn (first second : Source) : List (Source × String) :=
  [(first, "\x7b\"colibriClass\":\"ClientHello\"\x7d"),
    (second, "\x7b\"colibriClass\":\"PinnedEndpointChangedEvent\",\"pinnedEndpoint\":\"b\"\x7d"),
    (first, "\x7b\"colibriClass\":\"EndpointMessage\",\"to\":\"\"\x7d"),
    (first, "\x7b\"colibriClass\":\"ClientHello\"\x7d")]

theorem channels_interchangeable_twoChannels :
    let now := twoChannels.run (arrivals 0 (mostlyOn (.socket 0) .dataChannel))
    let other := twoChannels.run (arrivals 0 (mostlyOn .dataChannel (.socket 0)))
    twoChannels.Open 0 0 0 ∧ now.frames.length = 1 ∧ other.frames.length = 2 ∧
      other.trace.countP (·.greets) = 2 ∧ (other.calls 0).length = 1 ∧
      (other.trace.filter (·.isGift)).length = 2 ∧
      (other.transport 0).channels.lastActive ≠ (now.transport 0).channels.lastActive := by
  intro now other
  have opened : twoChannels.Open 0 0 0 := ⟨rfl, rfl, nofun⟩
  have texts (first second : Source) : (mostlyOn first second).map Prod.snd =
      (mostlyOn second first).map Prod.snd := rfl
  have own : ∀ text ∈ mostlyOn (.socket 0) .dataChannel ++ mostlyOn .dataChannel (.socket 0),
      text.1 = .socket 0 ∨ text.1 = .dataChannel := by
    simp [mostlyOn]
  obtain ⟨-, calls, -, gifts, -, -, -, greetings, -, -⟩ :=
    channels_interchangeable opened (texts (.socket 0) .dataChannel) own
  have came : (now.calls 0).length = 1 ∧ now.trace.countP (·.isGift) = 2 ∧
      now.trace.countP (·.greets) = 2 := by
    decide +kernel
  obtain ⟨called, given, greeted⟩ := came
  rw [List.countP_eq_length_filter] at given
  exact ⟨opened, by decide +kernel, by decide +kernel, greetings.trans greeted,
    (congrArg List.length calls).trans called, (congrArg List.length gifts).trans given,
    by decide +kernel⟩

end Bridge

end ControlChannel
