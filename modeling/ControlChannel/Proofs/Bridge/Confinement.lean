import ControlChannel.Proofs.Bridge.Lockstep

/-!
# Work stays with its transport

What a transport does with a message, and all that its endpoint asks for meanwhile, stays with this
transport. Other transports, the sockets that are not in its slot, the data channels, the
conferences and the statistics of others are left as they are, and what is written to the trace is
about this transport: only its own channels take frames, and only the conference of its endpoint is
given messages, in the name of that endpoint.
-/

namespace ControlChannel

/-- What stays of a transport while it works: whose it is and whether it is there, where it counts,
    the conference of its endpoint, and the slot for its data channel. -/
def Transport.lasting (tr : Transport) : Transport :=
  { tr with
    channels := { dataChannel := tr.channels.dataChannel }
    outbox := {}
    inputs := .initial 0
    generation := 0
    pushed := 0
    endpoint := tr.endpoint.map fun e => { e with script := [] } }

namespace Bridge

/-- The channel is in a slot of the transport, and it is alive. -/
def Reaches (b : Bridge) (t : TransportId) : Channel → Prop
  | .socket s => b.currentSocket t = some s
  | .dataChannel d => b.liveDataChannel t = some d

end Bridge

/-- The event is about this transport. Metrics and the log are kept for all transports together. -/
def Event.IsWithin (b : Bridge) (t : TransportId) : Event → Prop
  | accepted channel _ => b.Reaches t channel
  | computed u _ | pushed u _ | reacting u _ | reacted u _ | lastN u _ => u = t
  | connected u id => u = t ∧ id = (b.transport t).endpointId
  | delivered c m _ _ => (b.transport t).endpoint.bind (·.conference) = some c ∧
      m.sender = some (b.transport t).endpointId
  | counted _ | logged _ => True

namespace Bridge

variable {b b' now : Bridge} {t : TransportId} {s : SocketId}

/-- All that changed from one state of a bridge to another belongs to one transport. -/
structure Confined (t : TransportId) (b b' : Bridge) : Prop where
  others (u : TransportId) : u ≠ t → b'.transport u = b.transport u
  lasting : (b'.transport t).lasting = (b.transport t).lasting
  /-- No socket comes into the slot. -/
  slot (s : SocketId) : b'.currentSocket t = some s → b.currentSocket t = some s
  sockets (s : SocketId) : b.currentSocket t ≠ some s → b'.socket s = b.socket s
  dataChannels : b'.dataChannels = b.dataChannels
  conferences : b'.conferences = b.conferences
  statistics (σ : StatisticsId) : σ ≠ (b.transport t).statistics →
    b'.statistics[σ]? = b.statistics[σ]?
  trace : ∃ events, b'.trace = b.trace ++ events ∧ ∀ e ∈ events, e.IsWithin b t

namespace Confined

theorem refl (t : TransportId) (b : Bridge) : Confined t b b where
  others _ _ := rfl
  lasting := rfl
  slot _ := id
  sockets _ _ := rfl
  dataChannels := rfl
  conferences := rfl
  statistics _ _ := rfl
  trace := ⟨[], (List.append_nil _).symm, List.forall_mem_nil _⟩

/-! ## What stays -/

theorem endpointId (h : Confined t b now) :
    (now.transport t).endpointId = (b.transport t).endpointId := by
  have same := congrArg Transport.endpointId h.lasting
  exact same

theorem owner (h : Confined t b now) :
    (now.transport t).statistics = (b.transport t).statistics := by
  have same := congrArg Transport.statistics h.lasting
  exact same

theorem conference (h : Confined t b now) : (now.transport t).endpoint.bind (·.conference) =
    (b.transport t).endpoint.bind (·.conference) := by
  have only (tr : Transport) :
      tr.lasting.endpoint.bind (·.conference) = tr.endpoint.bind (·.conference) := by
    unfold Transport.lasting
    cases tr.endpoint <;> rfl
  rw [← only, h.lasting, only]

theorem liveDataChannel (h : Confined t b now) : now.liveDataChannel t = b.liveDataChannel t := by
  have slot : (now.transport t).channels.dataChannel = (b.transport t).channels.dataChannel :=
    congrArg (·.channels.dataChannel) h.lasting
  have state (d : DataChannelId) : now.dataChannel d = b.dataChannel d := by
    rw [dataChannel, h.dataChannels, dataChannel]
  unfold Bridge.liveDataChannel
  rw [slot]
  simp only [state]

/-- The transport reaches no channel that it did not reach before. -/
theorem reaches {channel : Channel} (h : Confined t b now) (reaches : now.Reaches t channel) :
    b.Reaches t channel := by
  cases channel with
  | socket s => exact h.slot s reaches
  | dataChannel d => exact h.liveDataChannel.symm.trans reaches

theorem isWithin {e : Event} (h : Confined t b now) (within : e.IsWithin now t) :
    e.IsWithin b t := by
  cases e with
  | accepted channel frame => exact h.reaches within
  | connected u id => exact ⟨within.1, within.2.trans h.endpointId⟩
  | delivered c m targets relayRemote =>
    exact ⟨h.conference.symm.trans within.1, within.2.trans (congrArg some h.endpointId)⟩
  | _ => exact within

theorem trans {b'' : Bridge} (first : Confined t b b') (second : Confined t b' b'') :
    Confined t b b'' where
  others u other := (second.others u other).trans (first.others u other)
  lasting := second.lasting.trans first.lasting
  slot s current := first.slot s (second.slot s current)
  sockets s absent := (second.sockets s (mt (first.slot s) absent)).trans (first.sockets s absent)
  dataChannels := second.dataChannels.trans first.dataChannels
  conferences := second.conferences.trans first.conferences
  statistics σ other :=
    (second.statistics σ (first.owner ▸ other)).trans (first.statistics σ other)
  trace := by
    obtain ⟨events, written, within⟩ := first.trace
    obtain ⟨more, writtenMore, withinMore⟩ := second.trace
    refine ⟨events ++ more, ?_, List.forall_mem_append.2 ⟨within, fun e mem => ?_⟩⟩
    · rw [writtenMore, written, List.append_assoc]
    · exact first.isWithin (withinMore e mem)

/-! ## Small writes -/

theorem emit {e : Event} (h : Confined t b now) (within : e.IsWithin b t) :
    Confined t b (now.emit e) :=
  { h with
    trace := by
      obtain ⟨events, written, among⟩ := h.trace
      refine ⟨events ++ [e], ?_, List.forall_mem_append.2 ⟨among, List.forall_mem_singleton.2 within⟩⟩
      rw [Bridge.emit, written, List.append_assoc] }

theorem log (h : Confined t b now) (entry : LogEntry) : Confined t b (now.log entry) :=
  h.emit trivial

theorem count (h : Confined t b now) (metric : Metric) : Confined t b (now.count metric) :=
  h.emit trivial

theorem updateStatistics (h : Confined t b now) (f : Statistics → Statistics) :
    Confined t b (now.updateStatistics t f) :=
  { h with
    statistics := fun σ other => by
      have apart : (now.transport t).statistics ≠ σ := h.owner ▸ Ne.symm other
      exact (List.getElem?_modify_ne f _ apart).trans (h.statistics σ other) }

/-- The socket in the slot changes. -/
theorem setSocket (h : Confined t b now) (current : b.currentSocket t = some s) (state : Socket) :
    Confined t b (now.setSocket s state) :=
  { h with
    sockets := fun other absent => by
      have apart : other ≠ s := by
        rintro rfl
        exact absent current
      exact (socket_setSocket_ne now state apart).trans (h.sockets other absent) }

/-- The transport changes, but nothing of it that stays, and no socket comes into its slot. -/
theorem updateTransport {f : Transport → Transport} (h : Confined t b now)
    (lasts : (f (now.transport t)).lasting = (now.transport t).lasting)
    (slot : ∀ s, (f (now.transport t)).channels.socket = some s → now.currentSocket t = some s) :
    Confined t b (now.updateTransport t f) := by
  have moved := transport_updateTransport_cases now t f
  refine { h with others := fun u other => ?_, lasting := ?_, slot := fun s current => ?_ }
  · exact (transport_updateTransport_ne (Ne.symm other) now f).trans (h.others u other)
  · rw [← h.lasting]
    rcases moved with moved | ⟨before, after⟩
    · rw [moved, lasts]
    · rw [before, after]
  · unfold currentSocket at current
    rcases moved with moved | ⟨-, after⟩
    · rw [moved] at current
      exact h.slot s (slot s current)
    · rw [after] at current
      cases current

/-- The channels of the transport change, but not the slot for its data channel, and no socket comes
    to them. -/
theorem setChannels (h : Confined t b now) (channels : ChannelPair)
    (dataChannel : channels.dataChannel = (now.transport t).channels.dataChannel)
    (slot : ∀ s, channels.socket = some s → now.currentSocket t = some s) :
    Confined t b (now.setChannels t channels) := by
  refine h.updateTransport ?_ slot
  unfold Transport.lasting
  dsimp only
  rw [dataChannel]

/-! ## Channels -/

theorem sendOn {channel : Channel} {text : String} (h : Confined t b now)
    (reaches : b.Reaches t channel) (sent : now.sendOn channel text = .ok b') :
    Confined t b b' := by
  cases channel with
  | socket s =>
    cases taken : (now.socket s).send text with
    | error e => simp [Bridge.sendOn, taken] at sent
    | ok state =>
      obtain rfl : (now.setSocket s state).emit (.accepted (.socket s) (.text text)) = b' := by
        simpa [Bridge.sendOn, taken] using sent
      exact (h.setSocket reaches state).emit reaches
  | dataChannel d =>
    cases refused : (now.dataChannel d).refusal with
    | some e => simp [Bridge.sendOn, refused] at sent
    | none =>
      obtain rfl : now.emit (.accepted (.dataChannel d) (.text text)) = b' := by
        simpa [Bridge.sendOn, refused] using sent
      exact h.emit reaches

theorem closeSession (h : Confined t b now) (current : b.currentSocket t = some s)
    (status : UInt16) (reason : String) : Confined t b (now.closeSession s status reason) := by
  unfold Bridge.closeSession
  obtain ⟨state, closing⟩ := (now.socket s).close status reason
  have put := h.setSocket current state
  cases closing with
  | already => exact put
  | queued => exact put.emit current
  | unqueued e => exact put.log _

theorem sendVia {channel : Channel} (h : Confined t b now) (reaches : b.Reaches t channel)
    (message : Message) : Confined t b (now.sendVia t channel message) := by
  have told := h.log (.sending (now.transport t).endpointId channel.kind message.kind)
  unfold Bridge.sendVia
  dsimp only
  cases sent : (now.log _).sendOn channel message.encode with
  | ok b' => exact ((told.sendOn reaches sent).updateStatistics _).count _
  | error e => exact (told.count _).log _

theorem dispatch {channel : Option Channel} (h : Confined t b now)
    (reaches : ∀ c, channel = some c → b.Reaches t c) (message : Message) :
    Confined t b (now.dispatch t channel message) := by
  cases channel with
  | none => exact ((h.updateTransport rfl fun _ => id).count _).log _
  | some channel => exact (h.updateTransport rfl fun _ => id).sendVia (reaches channel rfl) message

theorem reply {channel : Option Channel} (h : Confined t b now)
    (reaches : ∀ c, channel = some c → b.Reaches t c) (message : Message) :
    Confined t b (now.reply t channel message) := by
  cases channel with
  | none => exact h.dispatch reaches message
  | some channel => exact h.sendVia (reaches channel rfl) message

end Confined

/-- The channel that a transport selects is in one of its slots, and alive. -/
theorem reaches_of_activeChannel {channel : Channel} (selected : b.activeChannel t = some channel) :
    b.Reaches t channel := by
  unfold activeChannel at selected
  dsimp only at selected
  split at selected
  · obtain ⟨s, current, rfl⟩ := Option.map_eq_some_iff.1 selected
    exact current
  · obtain ⟨d, live, rfl⟩ := Option.map_eq_some_iff.1 selected
    exact live
  · cases selected

namespace Confined

theorem send (h : Confined t b now) (message : Message) : Confined t b (now.send t message) :=
  h.dispatch (fun _ selected => h.reaches (reaches_of_activeChannel selected)) message

theorem clearSocket (h : Confined t b now) (s : SocketId) (status : UInt16) (reason : String) :
    Confined t b (now.clearSocket t s status reason) := by
  unfold Bridge.clearSocket takeSocket ChannelPair.clearSocket
  by_cases current : (now.transport t).channels.socket = some s
  · rw [if_pos current]
    exact (h.setChannels { (now.transport t).channels with
      socket := none, lastActive := .dataChannel } rfl nofun).log _
  · rw [if_neg current]
    exact h

theorem close (h : Confined t b now) : Confined t b (now.close t) := by
  unfold Bridge.close giveUpSocket
  cases current : (now.transport t).channels.socket with
  | none => exact h
  | some s =>
    have left := h.setChannels (now.transport t).channels.dropSocket rfl nofun
    exact (left.closeSession (h.slot s current) _ _).log _

/-! ## A message -/

/-- A message is given to the conference of the endpoint that it comes from, in its name. -/
theorem relay (h : Confined t b now) (m : EndpointMessage) :
    Confined t b (now.relay (now.transport t).endpointId
      ((now.transport t).endpoint.bind (·.conference)) m).2 := by
  unfold Bridge.relay relayIn
  cases found : (now.rosterOf ((now.transport t).endpoint.bind (·.conference))).filter
      (¬ ·.2.expired) with
  | none => exact (h.log _).count _
  | some pair =>
    obtain ⟨c, roster⟩ := pair
    have joined : (b.transport t).endpoint.bind (·.conference) = some c := by
      rw [← h.conference]
      obtain ⟨there, -⟩ := Option.filter_eq_some_iff.1 found
      obtain ⟨c', joined, state⟩ := Option.bind_eq_some_iff.1 there
      obtain ⟨_, -, same⟩ := Option.map_eq_some_iff.1 state
      cases same
      exact joined
    have delivered (entry : LogEntry) (targets : List String) (relayRemote : Bool)
        (metric : Metric) : Confined t b (((now.log entry).emit
          (.delivered c (m.stamp (now.transport t).endpointId) targets relayRemote)).count metric) := by
      refine ((h.log entry).emit ?_).count metric
      exact ⟨joined, congrArg some h.endpointId⟩
    dsimp only
    cases Route.resolve (now.transport t).endpointId roster
        (m.stamp (now.transport t).endpointId) with
    | broadcast targets => exact delivered _ _ _ _
    | unicast target => exact delivered _ _ _ _
    | remote => exact delivered _ _ _ _
    | unknownTarget target => exact (h.log _).count _
    | noConference => exact (h.log _).count _

theorem updateConstraints (h : Confined t b now) (set : ConstraintInputs → ConstraintInputs) :
    Confined t b (now.updateConstraints ignore t set) := by
  have computed : Confined t b ((now.updateTransport t fun tr => { tr with
      inputs := set (now.transport t).inputs
      generation := (now.transport t).generation + 1 }).emit
        (.computed t (set (now.transport t).inputs))) :=
    (h.updateTransport rfl fun _ => id).emit rfl
  unfold Bridge.updateConstraints
  dsimp only
  split
  · exact computed.log _
  · cases (now.transport t).endpoint with
    | none => exact ((computed.updateTransport rfl fun _ => id).log _).log _
    | some endpoint => exact ((computed.updateTransport rfl fun _ => id).log _).emit rfl

theorem handle (h : Confined t b now) (message : Message) :
    Confined t b (now.handle ignore t message) := by
  cases sets : message.update? with
  | some set =>
    obtain ⟨entry, -, handled⟩ := handle_of_update (t := t) sets now
    rw [handled]
    exact (h.log entry).updateConstraints set
  | none =>
    cases message with
    | clientHello => exact h
    | lastN value =>
      unfold Bridge.handle
      dsimp only
      cases (now.transport t).endpoint with
      | none => exact h.log _
      | some endpoint => exact h.emit rfl
    | endpointMessage m => exact h.relay m
    | pinnedEndpoint id => cases sets
    | pinnedEndpoints ids => cases sets
    | selectedEndpoint id => cases sets
    | selectedEndpoints ids => cases sets
    | receiverVideoConstraint height => cases sets
    | _ => exact (h.count _).log _

theorem handleText {channel : Option Channel} (h : Confined t b now)
    (reaches : ∀ c, channel = some c → b.Reaches t c) (text : String) :
    Confined t b (now.handleText ignore t channel text) := by
  unfold Bridge.handleText
  dsimp only
  cases readText (now.transport t).config.maxInboundBytes text with
  | error e => exact (h.count _).log _
  | ok message =>
    have handled := (h.handle message).count (.handled message.kind)
    dsimp only
    cases message.reply? with
    | none => exact handled
    | some answer => exact handled.reply reaches answer

theorem countReceived (h : Confined t b now) (channel : ChannelKind) :
    Confined t b (now.countReceived t channel) :=
  (h.updateStatistics _).count _

theorem markDataChannel (h : Confined t b now) : Confined t b (now.markDataChannel t) :=
  h.setChannels _ rfl fun _ => id

/-- A transport that takes note of a source owes the answer to a channel that it reaches. -/
theorem hear {source : Source} {heard : Bridge} {channel : Option Channel} (h : Confined t b now)
    (hears : now.hear t source = some (heard, channel)) :
    Confined t b heard ∧ ∀ c, channel = some c → b.Reaches t c := by
  cases source with
  | dataChannel =>
    cases hears
    refine ⟨h.markDataChannel.countReceived _, fun c owed => ?_⟩
    obtain ⟨d, live, rfl⟩ := Option.map_eq_some_iff.1 owed
    have reached : (now.markDataChannel t).Reaches t (.dataChannel d) := live
    exact h.markDataChannel.reaches reached
  | socket s =>
    obtain ⟨marked, mark, same⟩ := Option.map_eq_some_iff.1 hears
    cases same
    have current : now.currentSocket t = some s := by
      by_contra other
      rw [markSocket_of_ne other] at mark
      cases mark
    rw [markSocket_of_current current] at mark
    cases mark
    have active := h.setChannels { (now.transport t).channels with lastActive := .socket } rfl
      fun _ => id
    refine ⟨active.countReceived _, fun c owed => ?_⟩
    cases owed
    exact h.slot s current

theorem receiveWith (h : Confined t b now) (source : Source) (text : String) :
    Confined t b (now.receiveWith ignore t source text) := by
  rw [receiveWith_eq]
  cases hears : now.hear t source with
  | some found =>
    obtain ⟨heard, channel⟩ := found
    obtain ⟨noted, reaches⟩ := h.hear hears
    exact noted.handleText reaches text
  | none =>
    obtain ⟨s, rfl, other⟩ := hear_eq_none hears
    unfold Bridge.receiveWith
    dsimp only
    rw [markSocket_of_ne other]
    exact (h.count _).log _

/-! ## With the script -/

/-- All that comes of a text stays with the transport. -/
theorem nested (t : TransportId) : Nested t fun b _ b' => Confined t b b' where
  refl := refl t
  trans := trans
  ask := by
    intro b reaction operation asks notText
    rcases Reaction.operation?_cases asks with
      ⟨_, _, rfl⟩ | ⟨message, rfl⟩ | ⟨s, status, rfl⟩ | rfl
    · cases notText
    · exact (refl t b).send message
    · exact (refl t b).clearSocket s status ""
    · exact (refl t b).close
  absorb _ := (refl t _).receiveWith _ _
  push hears _ _ _ called := ((((refl t _).hear hears).1.handle _).trans called).count _
  reacting _ next := by
    rw [nextReactions_eq] at next
    obtain ⟨_, -, same⟩ := Option.map_eq_some_iff.1 next
    cases same
    refine ((refl t _).updateTransport ?_ fun _ => id).emit rfl
    unfold Transport.lasting
    dsimp only
    rw [Option.map_map]
    rfl
  reacted b _ := (refl t b).emit rfl

theorem receive (t : TransportId) (b : Bridge) (source : Source) (text : String) :
    Confined t b (b.receive t source text) :=
  (nested t).stepTransport (.receive source text) b nofun

theorem receiveBinary (t : TransportId) (b : Bridge) (length : Nat) :
    Confined t b (b.receiveBinary t length) :=
  ((refl t b).markDataChannel.countReceived _).log _

theorem notifyConnected (t : TransportId) (b : Bridge) : Confined t b (b.notifyConnected t) :=
  ((refl t b).log _).emit ⟨rfl, rfl⟩

end Confined

end Bridge

end ControlChannel
