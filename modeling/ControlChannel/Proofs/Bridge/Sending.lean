import ControlChannel.Proofs.Bridge.Answer

/-!
# Sending a message

A message goes to at most one channel. If there is none to select, the message is counted as
dropped. If there is one, an attempt is counted, and then the channel takes the message or it does
not: either way no other channel is tried, and nothing else of the bridge changes.
-/

namespace ControlChannel

/-- What became of a message. -/
structure Dispatch where
  /-- It was counted as a message without a channel. -/
  lost : Bool := false
  /-- The kind of which an attempt was counted. -/
  attempted : Option Kind := none
  /-- The channel that took its text. -/
  taker : Option Channel := none
  /-- What was written to the trace. -/
  events : List Event

namespace Bridge

variable {b b' now : Bridge} {t : TransportId} {text : String} {m : Message}

/-- Why a channel does not take a text: its session is closed, its wire takes no frames any more,
    its queue is full, everything sent on it fails, or it is not ready. -/
inductive Refuses (b : Bridge) : Channel → TransportError → Prop where
  | closed {s : SocketId} : (b.socket s).closed = true → Refuses b (.socket s) .channelClosed
  | abandoned {s : SocketId} : (b.socket s).receiving = false →
      Refuses b (.socket s) .channelClosed
  | full {s : SocketId} : (b.socket s).closed = false → (b.socket s).receiving = true →
      (b.socket s).capacity ≤ (b.socket s).queue.length → Refuses b (.socket s) .backpressure
  | failing {d : DataChannelId} : (b.dataChannel d).failing = true →
      Refuses b (.dataChannel d) (.dataChannel "send refused")
  | unready {d : DataChannelId} : (b.dataChannel d).failing = false →
      (b.dataChannel d).ready = false → Refuses b (.dataChannel d) .notReady

/-- From one state of a bridge to another, this became of a message of the transport with this text,
    and that is all that changed. -/
structure Dispatched (b : Bridge) (t : TransportId) (text : String) (dispatch : Dispatch)
    (b' : Bridge) : Prop where
  trace : b'.trace = b.trace ++ dispatch.events
  dropped : (b'.transport t).outbox.dropped =
    (b.transport t).outbox.dropped + dispatch.lost.toNat
  attempts (kind : Kind) : (b'.transport t).outbox.sent kind =
    (b.transport t).outbox.sent kind + if dispatch.attempted = some kind then 1 else 0
  /-- Slots, inputs and all else of the transport stay as they are. -/
  keeps : { b'.transport t with outbox := (b.transport t).outbox } = b.transport t
  others (u : TransportId) : u ≠ t → b'.transport u = b.transport u
  queues (s : SocketId) : b'.socket s = { b.socket s with
    queue := (b.socket s).queue ++
      if dispatch.taker = some (.socket s) then [.text text] else [] }
  sent (σ : StatisticsId) (kind : ChannelKind) : (b'.statistics.getD σ {}).sent kind =
    (b.statistics.getD σ {}).sent kind +
      if (b.transport t).statistics = σ ∧ dispatch.taker.map Channel.kind = some kind then 1 else 0
  received (σ : StatisticsId) (kind : ChannelKind) :
    (b'.statistics.getD σ {}).received kind = (b.statistics.getD σ {}).received kind
  dataChannels : b'.dataChannels = b.dataChannels
  conferences : b'.conferences = b.conferences
  /-- Nothing is made. -/
  lengths : b'.sockets.length = b.sockets.length ∧ b'.transports.length = b.transports.length ∧
    b'.statistics.length = b.statistics.length

/-! ## Refusals -/

theorem Refuses.refusal {channel : Channel} {e : TransportError} (refuses : b.Refuses channel e)
    (text : String) : b.refusal channel text = some e := by
  cases refuses with
  | closed closed => simp [Bridge.refusal, Socket.send_of_closed closed]
  | @abandoned s gone =>
    cases closed : (b.socket s).closed with
    | true => simp [Bridge.refusal, Socket.send_of_closed closed]
    | false => simp [Bridge.refusal, Socket.send_of_open closed, Socket.offer_of_abandoned gone]
  | full isOpen receiving full =>
    simp [Bridge.refusal, Socket.send_of_open isOpen, Socket.offer_of_full receiving full]
  | failing failing => simp [Bridge.refusal, DataChannel.refusal, failing]
  | unready works unready => simp [Bridge.refusal, DataChannel.refusal, works, unready]

theorem refuses_of_refusal {channel : Channel} {e : TransportError}
    (refused : b.refusal channel text = some e) : b.Refuses channel e := by
  have only {reason : TransportError} (refuses : b.Refuses channel reason) :
      b.Refuses channel e := by
    have known := refuses.refusal text
    rw [refused] at known
    cases known
    exact refuses
  cases channel with
  | socket s =>
    cases closed : (b.socket s).closed with
    | true => exact only (.closed closed)
    | false =>
      cases receiving : (b.socket s).receiving with
      | false => exact only (.abandoned receiving)
      | true =>
        by_cases room : (b.socket s).queue.length < (b.socket s).capacity
        · simp [refusal, Socket.send_of_open closed, Socket.offer_of_room receiving room] at refused
        · exact only (.full closed receiving (Nat.not_lt.1 room))
  | dataChannel d =>
    cases failing : (b.dataChannel d).failing with
    | true => exact only (.failing failing)
    | false =>
      cases ready : (b.dataChannel d).ready with
      | false => exact only (.unready failing ready)
      | true => simp [refusal, DataChannel.refusal, failing, ready] at refused

/-- A channel takes every text that it has no reason to refuse. -/
theorem refusal_eq_none {channel : Channel} :
    b.refusal channel text = none ↔ ∀ e, ¬ b.Refuses channel e := by
  constructor
  · intro taken e refuses
    rw [refuses.refusal text] at taken
    cases taken
  · intro willing
    cases refused : b.refusal channel text with
    | none => rfl
    | some e => exact absurd (refuses_of_refusal refused) (willing e)

/-- A socket that takes a text is there. -/
theorem lt_of_refusal_eq_none {s : SocketId} (taken : b.refusal (.socket s) text = none) :
    s < b.sockets.length := by
  refine Nat.lt_of_not_le fun missing => refusal_eq_none.1 taken .channelClosed (.closed ?_)
  unfold socket
  rw [List.getD_eq_getElem?_getD, List.getElem?_eq_none missing]
  rfl

/-! ## The parts of a dispatch -/

/-- A channel takes a text of a transport, if there is one that does, and that is counted in the
    statistics. -/
def hand (b : Bridge) (t : TransportId) (taker : Option Channel) (text : String) : Bridge :=
  taker.elim b fun channel =>
    (b.enqueue channel text).updateStatistics t (·.countSent channel.kind)

/-- The outbox of a transport changes. -/
def updateOutbox (b : Bridge) (t : TransportId) (f : Outbox → Outbox) : Bridge :=
  b.updateTransport t fun tr => { tr with outbox := f tr.outbox }

theorem transports_hand (b : Bridge) (t : TransportId) (taker : Option Channel) (text : String) :
    (b.hand t taker text).transports = b.transports := by
  cases taker with
  | none => rfl
  | some channel => cases channel <;> rfl

/-- A text stands at the end of the queue of the socket that takes it. -/
theorem socket_hand {taker : Option Channel}
    (present : ∀ s, taker = some (.socket s) → s < b.sockets.length) (t : TransportId)
    (text : String) (s : SocketId) : (b.hand t taker text).socket s = { b.socket s with
      queue := (b.socket s).queue ++ if taker = some (.socket s) then [.text text] else [] } := by
  have same (taker : Option Channel) (other : taker ≠ some (.socket s)) :
      b.socket s = { b.socket s with
        queue := (b.socket s).queue ++ if taker = some (.socket s) then [.text text] else [] } := by
    rw [if_neg other, List.append_nil]
  cases taker with
  | none => exact same none nofun
  | some channel =>
    cases channel with
    | dataChannel d => exact same (some (.dataChannel d)) nofun
    | socket id =>
      by_cases here : id = s
      · subst here
        rw [if_pos rfl]
        exact socket_setSocket (present id rfl) _
      · have other : some (Channel.socket id) ≠ some (.socket s) := by simpa using here
        exact (socket_setSocket_ne b _ (Ne.symm here)).trans (same _ other)

/-- A text is counted by the kind of channel that takes it, where the transport counts. -/
theorem sent_hand (counts : (b.transport t).statistics < b.statistics.length)
    (taker : Option Channel) (text : String) (σ : StatisticsId) :
    (∀ kind, ((b.hand t taker text).statistics.getD σ {}).sent kind =
      (b.statistics.getD σ {}).sent kind +
        if (b.transport t).statistics = σ ∧ taker.map Channel.kind = some kind then 1 else 0) ∧
    ∀ kind, ((b.hand t taker text).statistics.getD σ {}).received kind =
      (b.statistics.getD σ {}).received kind := by
  have counted (channel : Channel) : (b.hand t (some channel) text).statistics =
      b.statistics.modify (b.transport t).statistics (·.countSent channel.kind) := by
    cases channel <;> rfl
  cases taker with
  | none => exact ⟨fun kind => by simp [hand], fun kind => rfl⟩
  | some channel =>
    rw [counted, List.getD_eq_getElem?_getD, List.getD_eq_getElem?_getD, List.getElem?_modify]
    by_cases here : (b.transport t).statistics = σ
    · subst here
      rw [List.getElem?_eq_getElem counts]
      constructor
      · intro kind
        simp [Statistics.sent_countSent]
      · intro kind
        simp [Statistics.received_countSent]
    · simp [here]

/-- A text that is taken is not yet written to the trace, and nothing is made. -/
theorem parts_hand (b : Bridge) (t : TransportId) (taker : Option Channel) (text : String) :
    (b.hand t taker text).trace = b.trace ∧ (b.hand t taker text).dataChannels = b.dataChannels ∧
      (b.hand t taker text).conferences = b.conferences ∧
      (b.hand t taker text).sockets.length = b.sockets.length ∧
      (b.hand t taker text).statistics.length = b.statistics.length := by
  cases taker with
  | none => exact ⟨rfl, rfl, rfl, rfl, rfl⟩
  | some channel =>
    cases channel with
    | dataChannel d => exact ⟨rfl, rfl, rfl, rfl, List.length_modify ..⟩
    | socket s => exact ⟨rfl, rfl, rfl, List.length_set, List.length_modify ..⟩

/-- What becomes of a message is told by what is done to the outbox, by who takes its text, and by
    what is written. -/
theorem dispatched {f : Outbox → Outbox} {dispatch : Dispatch} (there : t < b.transports.length)
    (counts : (b.transport t).statistics < b.statistics.length)
    (present : ∀ s, dispatch.taker = some (.socket s) → s < b.sockets.length)
    (dropped : ∀ o, (f o).dropped = o.dropped + dispatch.lost.toNat)
    (attempts : ∀ o kind, (f o).sent kind =
      o.sent kind + if dispatch.attempted = some kind then 1 else 0) :
    Dispatched b t text dispatch
      (((b.updateOutbox t f).hand t dispatch.taker text).write dispatch.events) := by
  have moved (u : TransportId) : (((b.updateOutbox t f).hand t dispatch.taker text).write
      dispatch.events).transport u = (b.updateOutbox t f).transport u :=
    congrArg (List.getD · u default) (transports_hand _ t dispatch.taker text)
  have own : (b.updateOutbox t f).transport t =
      { b.transport t with outbox := f (b.transport t).outbox } := by
    rw [updateOutbox, transport_updateTransport_eq there, if_pos rfl]
  have owner : ((b.updateOutbox t f).transport t).statistics = (b.transport t).statistics := by
    rw [own]
  have stillCounts : ((b.updateOutbox t f).transport t).statistics <
      (b.updateOutbox t f).statistics.length := owner ▸ counts
  have counted := sent_hand stillCounts dispatch.taker text
  rw [owner] at counted
  obtain ⟨trace, dataChannels, conferences, lengths⟩ :=
    parts_hand (b.updateOutbox t f) t dispatch.taker text
  have transports : (b.updateOutbox t f).transports.length = b.transports.length :=
    List.length_modify ..
  exact {
    trace := congrArg (· ++ dispatch.events) trace
    dropped := by rw [moved, own, dropped]
    attempts := fun kind => by rw [moved, own, attempts]
    keeps := by rw [moved, own]
    others := fun u other => (moved u).trans (transport_updateTransport_ne (Ne.symm other) b _)
    queues := socket_hand (b := b.updateOutbox t f) present t text
    sent := fun σ => (counted σ).1
    received := fun σ => (counted σ).2
    dataChannels := dataChannels
    conferences := conferences
    lengths := by
      refine ⟨lengths.1, ?_, lengths.2⟩
      exact (congrArg List.length (transports_hand _ t dispatch.taker text)).trans transports }

/-! ## The ways of a message -/

theorem dispatch_none_eq (b : Bridge) (t : TransportId) (m : Message) : b.dispatch t none m =
    ((b.updateOutbox t Outbox.countDropped).hand t none m.encode).write
      [.counted (.dropped .outbound .noChannel),
        .logged (.noChannel (b.transport t).endpointId m.kind)] :=
  dispatch_none b t m

theorem endpointId_updateOutbox (b : Bridge) (t : TransportId) (f : Outbox → Outbox) :
    ((b.updateOutbox t f).transport t).endpointId = (b.transport t).endpointId :=
  transport_updateTransport_keeps (f := fun tr => { tr with outbox := f tr.outbox })
    (·.endpointId) (fun _ => rfl) b t t

theorem dispatch_of_not_refused {channel : Channel} (t : TransportId)
    (taken : b.refusal channel m.encode = none) : b.dispatch t (some channel) m =
      ((b.updateOutbox t (·.countAttempt m.kind)).hand t (some channel) m.encode).write
        [.logged (.sending (b.transport t).endpointId channel.kind m.kind),
          .accepted channel (.text m.encode), .counted (.sent channel.kind m.kind)] := by
  have sent := sendVia_of_not_refused (b := b.updateOutbox t (·.countAttempt m.kind)) t taken
  rw [endpointId_updateOutbox] at sent
  exact sent

theorem dispatch_of_refused {channel : Channel} {e : TransportError} (t : TransportId)
    (refused : b.refusal channel m.encode = some e) : b.dispatch t (some channel) m =
      ((b.updateOutbox t (·.countAttempt m.kind)).hand t none m.encode).write
        [.logged (.sending (b.transport t).endpointId channel.kind m.kind),
          .counted (.dropped .outbound (.failed e.label)),
          .logged (.notAccepted (b.transport t).endpointId channel.kind m.kind e)] := by
  have sent := sendVia_of_refused (b := b.updateOutbox t (·.countAttempt m.kind)) t refused
  rw [endpointId_updateOutbox] at sent
  exact sent

/-! ## At every moment -/

/-- There are as many transports and statistics as there were, and each transport counts where it
    did. -/
structure SameOwners (b b' : Bridge) : Prop where
  transports : b'.transports.length = b.transports.length
  statistics : b'.statistics.length = b.statistics.length
  owners (t : TransportId) : (b'.transport t).statistics = (b.transport t).statistics

theorem Booked.sameOwners {posts : List Posting} (booked : Booked b posts b') : SameOwners b b' :=
  ⟨booked.length_transports, booked.length_statistics, booked.owners⟩

/-- Nothing that happens makes or removes a transport or statistics. -/
theorem tracked_sameOwners : Tracked fun b _ b' => SameOwners b b' where
  refl b := ⟨rfl, rfl, fun _ => rfl⟩
  trans first second := ⟨second.transports.trans first.transports,
    second.statistics.trans first.statistics, fun t => (second.owners t).trans (first.owners t)⟩
  outside _ := (booked_step _ _).sameOwners
  operate _ _ notText := (Work.stepTransport notText _).booked.sameOwners
  absorb _ := (Work.receiveWith _ _ _).booked.sameOwners
  push push := by
    obtain ⟨_, _, _, hears, -, sets, rfl, -⟩ := pushOf_eq_some push
    exact ((Work.hear hears).trans (Work.handle_of_update sets _)).booked.sameOwners
  handled b kind := ⟨rfl, rfl, fun _ => rfl⟩
  reacting _ next := ((Work.nextReactions next).trans_quiet (Work.note _ rfl)).booked.sameOwners
  reacted b t outcome := ⟨rfl, rfl, fun _ => rfl⟩

/-- A message goes to at most one channel, and what becomes of it is counted exactly. At every
    moment of a run, calls of an endpoint included, and for every message: if no channel is
    selected, the message is counted as dropped, in the outbox and as a metric. If one is selected,
    an attempt to send a message of this kind is counted. If that channel has no reason to refuse
    the text, it takes exactly the text of the message, at the end of its queue if it is a socket,
    and the message is counted as sent, in the statistics and as a metric. If the channel has a
    reason, then that is counted as a metric, and no channel takes the text. Apart from this, and
    from what is told in the log, nothing changes: no other queue, no slot, no input of constraints
    and no other count. -/
theorem send_on_one_channel {operations : List Operation} {past : List Occurrence}
    (moment : b.Moment operations past now) (there : t < b.transports.length)
    (counts : (b.transport t).statistics < b.statistics.length) (m : Message) :
    let id := (now.transport t).endpointId
    (now.activeChannel t = none → Dispatched now t m.encode
      { lost := true
        events := [.counted (.dropped .outbound .noChannel), .logged (.noChannel id m.kind)] }
      (now.send t m)) ∧
    ∀ channel, now.activeChannel t = some channel →
      ((∀ e, ¬ now.Refuses channel e) → Dispatched now t m.encode
        { attempted := some m.kind
          taker := some channel
          events := [.logged (.sending id channel.kind m.kind),
            .accepted channel (.text m.encode), .counted (.sent channel.kind m.kind)] }
        (now.send t m)) ∧
      ∀ e, now.Refuses channel e → Dispatched now t m.encode
        { attempted := some m.kind
          events := [.logged (.sending id channel.kind m.kind),
            .counted (.dropped .outbound (.failed e.label)),
            .logged (.notAccepted id channel.kind m.kind e)] }
        (now.send t m) := by
  intro id
  have same := tracked_sameOwners.at_moment moment
  have there : t < now.transports.length := same.transports ▸ there
  have counts : (now.transport t).statistics < now.statistics.length := by
    rw [same.owners, same.statistics]
    exact counts
  have attempts (o : Outbox) (kind : Kind) : (o.countAttempt m.kind).sent kind =
      o.sent kind + if some m.kind = some kind then 1 else 0 := by
    rw [Outbox.sent_countAttempt]
    simp only [Option.some.injEq]
  refine ⟨fun none => ?_, fun channel selected => ⟨fun willing => ?_, fun e refuses => ?_⟩⟩
  · rw [send, none, dispatch_none_eq]
    exact dispatched there counts (by rintro s ⟨⟩) (fun _ => rfl) fun _ _ => rfl
  · have taken : now.refusal channel m.encode = none := refusal_eq_none.2 willing
    rw [send, selected, dispatch_of_not_refused t taken]
    refine dispatched there counts (fun s taker => ?_) (fun _ => rfl) attempts
    cases taker
    exact lt_of_refusal_eq_none taken
  · rw [send, selected, dispatch_of_refused t (refuses.refusal m.encode)]
    exact dispatched there counts (by rintro s ⟨⟩) (fun _ => rfl) attempts

/-- A transport, a socket whose queue has room for one frame, and a data channel that is ready. -/
def narrow : Bridge where
  sockets := [{ capacity := 1 }]
  dataChannels := [{ ready := true }]
  statistics := [{}]
  transports := [Transport.create "e" {} none 0]

/-- Once both channels are there, the greeting fills the queue of the socket. -/
def filled : List Operation :=
  [.transport 0 (.installDataChannel 0), .transport 0 (.installSocket 0)]

/-- A message for the socket whose queue is full is not sent on the data channel instead. -/
theorem send_on_one_channel_narrow :
    let now := narrow.run filled
    let after := now.send 0 .unknown
    now.activeChannel 0 = some (.socket 0) ∧
      after.trace = now.trace ++ [.logged (.sending "e" .socket .unknown),
        .counted (.dropped .outbound (.failed TransportError.backpressure.label)),
        .logged (.notAccepted "e" .socket .unknown .backpressure)] ∧
      after.socket 0 = now.socket 0 ∧ (after.transport 0).outbox.sent .unknown = 1 := by
  intro now after
  have moment : narrow.Moment filled (narrow.occurrences filled) now :=
    .between filled [] (List.append_nil _).symm
  have selected : now.activeChannel 0 = some (.socket 0) := rfl
  have full : now.Refuses (.socket 0) .backpressure := .full rfl rfl (by decide)
  have law := ((send_on_one_channel moment (by decide) (by decide) .unknown).2 _ selected).2 _ full
  refine ⟨selected, law.trace, law.queues 0, ?_⟩
  rw [law.attempts]
  rfl

end Bridge

end ControlChannel
