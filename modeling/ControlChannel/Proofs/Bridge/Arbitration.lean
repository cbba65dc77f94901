import ControlChannel.Proofs.Bridge.Effect
import ControlChannel.Proofs.Bridge.SlotHistory

/-!
# Which channel is preferred

A transport sends on the channel that it last heard from. Which one that is, which socket is in its
slot, and which data channel, is told by what happened to it: by the last thing that says anything
about it. Closing a transport, a data channel that is not taken, and whatever comes from or ends a
socket that is not the current one say nothing.
-/

namespace ControlChannel

namespace Occurrence

variable (t : TransportId) (o : Occurrence)

/-- The kind of channel that comes to be preferred: the socket by being installed and by being heard
    from while it is the current one, the data channel by being heard from, and by the end of the
    current socket. -/
def heard? : Option ChannelKind :=
  if o.transport = t then
    match o.operation with
    | .installSocket _ | .slots (.putSocket _ _) => some .socket
    | .receive (.socket s) _ | .slots (.markSocket s) =>
        if o.bridge.currentSocket t = some s then some .socket else none
    | .clearSocket s _ _ | .slots (.takeSocket s) =>
        if o.bridge.currentSocket t = some s then some .dataChannel else none
    | .receive .dataChannel _ | .receiveBinary _ | .slots .markDataChannel => some .dataChannel
    | _ => none
  else none

/-- What comes to be in the slot of the socket. -/
def socketSlot? : Option (Option SocketId) :=
  if o.transport = t then
    match o.operation with
    | .installSocket s | .slots (.putSocket s _) => some (some s)
    | .clearSocket s _ _ | .slots (.takeSocket s) =>
        if o.bridge.currentSocket t = some s then some none else none
    | .close | .slots .giveUpSocket => some none
    | _ => none
  else none

/-- What comes to be in the slot of the data channel: one that is installed with success. -/
def dataChannelSlot? : Option (Option DataChannelId) :=
  if o.transport = t then
    match o.operation with
    | .installDataChannel d | .slots (.putDataChannel d) =>
        (o.bridge.putDataChannel t d).toOption.map fun _ => some d
    | _ => none
  else none

end Occurrence

/-- The channels of a transport after a history, if they were `p` before it. -/
def channelsBy (t : TransportId) (p : ChannelPair) (past : List Occurrence) : ChannelPair where
  socket := latest (·.socketSlot? t) p.socket past
  dataChannel := latest (·.dataChannelSlot? t) p.dataChannel past
  lastActive := latest (·.heard? t) p.lastActive past

theorem channelsBy_append (t : TransportId) (p : ChannelPair) (past more : List Occurrence) :
    channelsBy t p (past ++ more) = channelsBy t (channelsBy t p past) more := by
  simp only [channelsBy, latest_append]

/-- The channel to send on: the socket if it was heard from last, or else the data channel that is
    ready, or else the socket. -/
def preferredChannel (last : ChannelKind) (socket : Option SocketId)
    (ready : Option DataChannelId) : Option Channel :=
  if last = .socket ∧ socket.isSome then socket.map .socket
  else (ready.map .dataChannel).or (socket.map .socket)

namespace Occurrence

/-- A transport is live only as long as it is not dropped. -/
theorem live_of_moved (o : Occurrence) {st : Standing} (live : (o.moved st).live = true) :
    o.operation ≠ .dropTransport ∧ st.live = true := by
  obtain ⟨b, t, operation⟩ := o
  cases operation with
  | dropTransport => cases live
  | _ => exact ⟨nofun, live⟩

end Occurrence

namespace Bridge

variable {b b' now : Bridge} {t : TransportId}

/-! ## The channels -/

/-- What happens to another transport says nothing. -/
theorem channelsBy_of_ne {o : Occurrence} (other : o.transport ≠ t) (p : ChannelPair) :
    channelsBy t p [o] = p := by
  simp [channelsBy, Occurrence.heard?, Occurrence.socketSlot?, Occurrence.dataChannelSlot?, other]

theorem getD_clearSocket (p : ChannelPair) (s : SocketId) : (p.clearSocket s).getD p =
    { p with
      socket := (if p.socket = some s then some none else none).getD p.socket
      lastActive := (if p.socket = some s then some .dataChannel else none).getD p.lastActive } := by
  unfold ChannelPair.clearSocket
  split <;> rfl

theorem getD_markSocket (p : ChannelPair) (s : SocketId) : (p.markSocket s).getD p =
    { p with
      lastActive := (if p.socket = some s then some .socket else none).getD p.lastActive } := by
  unfold ChannelPair.markSocket
  split <;> rfl

theorem getD_putDataChannel (b : Bridge) (t : TransportId) (d : DataChannelId) :
    (if (b.liveDataChannel t).isNone then (b.transport t).channels.putDataChannel d
      else (b.transport t).channels) =
    { (b.transport t).channels with
      dataChannel := ((b.putDataChannel t d).toOption.map fun _ => some d).getD
        (b.transport t).channels.dataChannel } := by
  unfold putDataChannel
  cases b.liveDataChannel t <;> rfl

/-- What happens to the transport says how its channels change, as long as it is not dropped. -/
theorem channelsBy_single (b : Bridge) (t : TransportId) {operation : TransportOperation}
    (kept : operation ≠ .dropTransport) :
    channelsBy t (b.transport t).channels [⟨b, t, operation⟩] =
      Occurrence.channelsAfter ⟨b, t, operation⟩ (b.transport t).channels := by
  simp only [channelsBy, latest_single, Occurrence.heard?, Occurrence.socketSlot?,
    Occurrence.dataChannelSlot?, if_true]
  cases operation with
  | clearSocket s status reason => exact (getD_clearSocket _ s).symm
  | installDataChannel d => exact (getD_putDataChannel b t d).symm
  | receive source text =>
    cases source with
    | socket s => exact (getD_markSocket _ s).symm
    | dataChannel => rfl
  | slots operation =>
    cases operation with
    | takeSocket s => exact (getD_clearSocket _ s).symm
    | markSocket s => exact (getD_markSocket _ s).symm
    | putDataChannel d => exact (getD_putDataChannel b t d).symm
    | _ => rfl
  | dropTransport => exact absurd rfl kept
  | _ => rfl

/-- The channels of a transport that is not dropped are told by the history. -/
theorem tracked_channels : Tracked fun b past b' => ∀ t after, b'.view.standing t = some after →
    after.live = true → ∃ before, b.view.standing t = some before ∧ before.live = true ∧
      after.channels = channelsBy t before.channels past := by
  refine Tracked.of_view ?trans ?same ?after
  case trans =>
    intro b b' b'' past more first second t after found live
    obtain ⟨middle, present, alive, later⟩ := second t after found live
    obtain ⟨before, present, alive, earlier⟩ := first t middle present alive
    exact ⟨before, present, alive, by rw [channelsBy_append, later, earlier]⟩
  case same =>
    intro b b' same t after found live
    rw [same] at found
    exact ⟨after, found, live, rfl⟩
  case after =>
    intro o b' viewed t after found live
    rw [viewed] at found
    obtain ⟨before, present, rfl⟩ := standing_viewAfter found
    by_cases here : t = o.transport
    · subst here
      rw [if_pos rfl] at live ⊢
      obtain ⟨channels, -, alive, -⟩ := o.effect_eq_moved before
      rw [alive] at live
      obtain ⟨kept, alive⟩ := o.live_of_moved live
      refine ⟨before, present, alive, ?_⟩
      rw [channels, ← standing_view _ _ present]
      exact (channelsBy_single _ _ kept).symm
    · rw [if_neg here] at live ⊢
      exact ⟨before, present, live, (channelsBy_of_ne (Ne.symm here) _).symm⟩

/-- They are told by it at every moment of a run. -/
theorem channels_of_history {operations : List Operation} {past : List Occurrence}
    (moment : b.Moment operations past now) (live : now.isLive t = true) :
    (now.transport t).channels = channelsBy t (b.transport t).channels past := by
  have stands : now.view.standing t = some (now.transport t).standing :=
    view_standing_of_mark Standing.live rfl live
  obtain ⟨before, stood, -, told⟩ := tracked_channels.at_moment moment t _ stands live
  obtain rfl : (b.transport t).standing = before := standing_view b t stood
  exact told

/-- A transport that is not dropped was not dropped earlier. -/
theorem isLive_of_earlier {operations : List Operation} {before after : List Occurrence}
    {o : Occurrence}
    (moment : b.Moment operations (before ++ o :: after) now) (live : now.isLive t = true) :
    o.bridge.isLive t = true := by
  have stands : now.view.standing t = some (now.transport t).standing :=
    view_standing_of_mark Standing.live rfl live
  obtain ⟨before, stood, alive, -⟩ := tracked_channels.since moment t _ stands live
  obtain rfl : (o.bridge.transport t).standing = before := standing_view _ t stood
  exact alive

/-! ## The choice -/

/-- The owner of the data channel still keeps it, and it is ready. -/
def isReady (b : Bridge) (d : DataChannelId) : Bool :=
  (b.dataChannel d).live && (b.dataChannel d).ready

theorem dataChannelReady_eq (b : Bridge) (t : TransportId) :
    b.dataChannelReady t = ((b.transport t).channels.dataChannel.filter b.isReady).isSome := by
  unfold dataChannelReady liveDataChannel isReady
  cases (b.transport t).channels.dataChannel with
  | none => rfl
  | some d => cases live : (b.dataChannel d).live <;> cases ready : (b.dataChannel d).ready <;>
      simp [Option.filter, live, ready]

/-- A data channel that is ready is alive. -/
theorem liveDataChannel_of_ready (ready : b.dataChannelReady t = true) :
    b.liveDataChannel t = (b.transport t).channels.dataChannel.filter b.isReady := by
  unfold dataChannelReady at ready
  cases alive : b.liveDataChannel t with
  | none => simp [alive] at ready
  | some d =>
    rw [alive, Option.any_some] at ready
    obtain ⟨slot, live⟩ := Option.filter_eq_some_iff.1 alive
    exact (Option.filter_eq_some_iff.2 ⟨slot, by simp [isReady, live, ready]⟩).symm

theorem activeChannel_eq (b : Bridge) (t : TransportId) :
    b.activeChannel t = preferredChannel (b.transport t).channels.lastActive (b.currentSocket t)
      ((b.transport t).channels.dataChannel.filter b.isReady) := by
  unfold activeChannel preferredChannel ChannelKind.select currentSocket
  dsimp only
  by_cases first : (b.transport t).channels.lastActive = .socket ∧
      (b.transport t).channels.socket.isSome = true
  · rw [if_pos first, if_pos first]
  · rw [if_neg first, if_neg first]
    cases ready : b.dataChannelReady t with
    | true =>
      rw [if_pos rfl]
      dsimp only
      rw [liveDataChannel_of_ready ready]
      rw [dataChannelReady_eq] at ready
      obtain ⟨d, found⟩ := Option.isSome_iff_exists.1 ready
      rw [found]
      rfl
    | false =>
      rw [dataChannelReady_eq, Option.isSome_eq_false_iff, Option.isNone_iff_eq_none] at ready
      rw [ready]
      cases (b.transport t).channels.socket <;> rfl

/-- A transport is connected if there is a socket, or a data channel that is ready. -/
theorem isConnected_iff (b : Bridge) (t : TransportId) : b.isConnected t = true ↔
    (b.snapshot t).hasSocket = true ∨ (b.snapshot t).dataChannelReady = true := by
  have snapshot : (b.snapshot t).dataChannelReady =
      ((b.transport t).channels.dataChannel.filter b.isReady).isSome := dataChannelReady_eq b t
  have slot : (b.snapshot t).hasSocket = (b.currentSocket t).isSome := rfl
  rw [isConnected, activeChannel_eq, snapshot, slot, preferredChannel]
  cases b.currentSocket t with
  | none => cases (b.transport t).channels.dataChannel.filter b.isReady <;> simp
  | some s =>
    split
    · simp
    · cases (b.transport t).channels.dataChannel.filter b.isReady <;> simp

theorem transport_updateTransport (present : t < b.transports.length) (f : Transport → Transport) :
    (b.updateTransport t f).transport t = f (b.transport t) := by
  unfold updateTransport transport
  simp [List.getD_eq_getElem?_getD, present]

/-- A message is dropped for want of a channel exactly while the transport is not connected. -/
theorem dropped_send (present : t < b.transports.length) (message : Message) :
    ((b.send t message).snapshot t).dropped =
      (b.snapshot t).dropped + if b.isConnected t then 0 else 1 := by
  have counted (b : Bridge) : (b.snapshot t).dropped = (b.transport t).outbox.dropped := rfl
  rw [counted, counted, isConnected, send]
  cases b.activeChannel t with
  | none => exact congrArg (·.outbox.dropped) (transport_updateTransport present _)
  | some channel =>
    rw [dispatch, transport, transports_sendVia]
    exact congrArg (·.outbox.dropped) (transport_updateTransport present _)

/-! ## The law -/

/-- From fresh channels on, the kind last heard from and the channel to send on are told by the
    history; and a transport is connected exactly while one of its channels is there to be used,
    which is while it has no cause to drop a message. -/
theorem activeChannel_of_history {operations : List Operation} {past : List Occurrence}
    (fresh : (b.transport t).channels = {}) (moment : b.Moment operations past now)
    (live : now.isLive t = true) :
    let last := latest (·.heard? t) .dataChannel past
    let socket := latest (·.socketSlot? t) none past
    let dataChannel := latest (·.dataChannelSlot? t) none past
    (now.transport t).channels.lastActive = last ∧
      now.activeChannel t = preferredChannel last socket (dataChannel.filter now.isReady) ∧
      (now.isConnected t = true ↔
        (now.snapshot t).hasSocket = true ∨ (now.snapshot t).dataChannelReady = true) ∧
      ∀ message, now.isConnected t = true ↔
        ¬ (now.snapshot t).dropped < ((now.send t message).snapshot t).dropped := by
  intro last socket dataChannel
  have stands : now.view.standing t = some (now.transport t).standing :=
    view_standing_of_mark Standing.live rfl live
  have present : t < now.transports.length := by
    obtain ⟨tr, found, -⟩ := Option.map_eq_some_iff.1 stands
    exact (List.getElem?_eq_some_iff.1 found).1
  obtain ⟨before, stood, -, told⟩ := tracked_channels.at_moment moment t _ stands live
  have channels : (now.transport t).channels = ⟨socket, dataChannel, last⟩ := by
    have start : before.channels = {} := by
      rw [← standing_view b t stood]
      exact fresh
    rw [start] at told
    exact told
  refine ⟨by rw [channels], ?_, isConnected_iff now t, ?_⟩
  · rw [activeChannel_eq, currentSocket, channels]
  · intro message
    rw [dropped_send present]
    cases now.isConnected t <;> simp

/-- Both channels come, the data channel and then the socket is heard from, a socket that never was
    installed ends, and the transport is closed. -/
def bothChannels : List Operation :=
  [.newDataChannel true, .transport 0 (.installSocket 2), .transport 0 (.installDataChannel 0),
    .transport 0 (.receiveBinary 3), .transport 0 (.slots (.markSocket 2)),
    .transport 0 (.clearSocket 1 1000 "bye"), .transport 0 .close]

/-- The socket was heard from last, but the data channel is what is left. -/
theorem activeChannel_of_history_bothChannels :
    ((fourSockets.run bothChannels).transport 0).channels.lastActive = .socket ∧
      (fourSockets.run bothChannels).activeChannel 0 = some (.dataChannel 0) := by
  have law := activeChannel_of_history (b := fourSockets) (t := 0) rfl
    (.between bothChannels [] (List.append_nil _).symm) rfl
  have last : latest (·.heard? 0) .dataChannel (fourSockets.occurrences bothChannels) = .socket :=
    rfl
  have socket : latest (·.socketSlot? 0) none (fourSockets.occurrences bothChannels) = none := rfl
  have attached : latest (·.dataChannelSlot? 0) none (fourSockets.occurrences bothChannels) =
      some 0 := rfl
  obtain ⟨heard, active, -, -⟩ := law
  rw [last] at heard
  rw [last, socket, attached] at active
  exact ⟨heard, active⟩

end Bridge

end ControlChannel
