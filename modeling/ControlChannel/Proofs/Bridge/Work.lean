import ControlChannel.Proofs.Bridge.Effect

/-!
# Work and what is booked

All that a transport does comes down to a few small writes, and some of them are booked: that a
channel took a frame, that a metric was counted, and that a message was counted as attempted,
dropped, sent or received. A stretch of work is labelled with its postings, in order. What each
operation of a transport posts is computed here from the bridge in which it begins.
-/

namespace ControlChannel

/-- Something that is booked. -/
inductive Posting where
  /-- A channel took a frame. -/
  | accepted (channel : Channel) (frame : Frame)
  | counted (metric : Metric)
  /-- The statistics of a transport count a message sent. -/
  | sent (transport : TransportId) (channel : ChannelKind)
  /-- The statistics of a transport count a message received. -/
  | received (transport : TransportId) (channel : ChannelKind)
  /-- The outbox of a transport counts an attempt. -/
  | attempted (transport : TransportId) (kind : Kind)
  /-- The outbox of a transport counts a message without a channel. -/
  | dropped (transport : TransportId)
  deriving DecidableEq

namespace Posting

/-- The frame that a channel took. -/
def frame? : Posting → Option (Channel × Frame)
  | accepted channel frame => some (channel, frame)
  | _ => none

/-- The metric that was counted. -/
def metric? : Posting → Option Metric
  | counted metric => some metric
  | _ => none

end Posting

namespace Event

/-- The frame that a channel took. -/
def frame? : Event → Option (Channel × Frame)
  | accepted channel frame => some (channel, frame)
  | _ => none

/-- The metric that was counted. -/
def metric? : Event → Option Metric
  | counted metric => some metric
  | _ => none

/-- The event is a posting by itself. -/
def isBooked : Event → Bool
  | accepted _ _ | counted _ => true
  | _ => false

end Event

namespace Bridge

variable {b : Bridge} {t : TransportId}

/-! ## Postings of the parts -/

/-- Why a channel does not take a text, if it does not. -/
def refusal (b : Bridge) (channel : Channel) (text : String) : Option TransportError :=
  match channel with
  | .socket s =>
      match (b.socket s).send text with
      | .ok _ => none
      | .error e => some e
  | .dataChannel d => (b.dataChannel d).refusal

/-- What is posted when a message is sent on a certain channel. -/
def sendPostings (b : Bridge) (t : TransportId) (channel : Channel) (message : Message) :
    List Posting :=
  match b.refusal channel message.encode with
  | none => [.accepted channel (.text message.encode), .sent t channel.kind,
      .counted (.sent channel.kind message.kind)]
  | some e => [.counted (.dropped .outbound (.failed e.label))]

/-- What is posted when a message is sent on a selected channel, if one was selected. -/
def dispatchPostings (b : Bridge) (t : TransportId) (channel : Option Channel)
    (message : Message) : List Posting :=
  match channel with
  | none => [.dropped t, .counted (.dropped .outbound .noChannel)]
  | some channel => .attempted t message.kind :: b.sendPostings t channel message

/-- What is posted when an answer is sent. -/
def replyPostings (b : Bridge) (t : TransportId) (channel : Option Channel) (message : Message) :
    List Posting :=
  match channel with
  | none => b.dispatchPostings t none message
  | some channel => b.sendPostings t channel message

/-- What is posted when a session is closed. -/
def closePostings (b : Bridge) (s : SocketId) (status : UInt16) (reason : String) :
    List Posting :=
  match ((b.socket s).close status reason).2 with
  | .queued => [.accepted (.socket s) (.close status reason)]
  | _ => []

/-- What is posted when a socket displaces the one in a slot. -/
def displacePostings (b : Bridge) (t : TransportId) (s : SocketId) : List Posting :=
  match b.currentSocket t with
  | some old => if old = s then [] else b.closePostings old replacedStatus.1 replacedStatus.2
  | none => []

/-- What is posted when a socket is greeted with a bare text, or with none. -/
def greetPostings (b : Bridge) (s : SocketId) (greeting : Option String) : List Posting :=
  match greeting with
  | some text =>
      if (b.refusal (.socket s) text).isNone then [.accepted (.socket s) (.text text)] else []
  | none => []

/-- What is posted when a slot is given up. -/
def giveUpPostings (b : Bridge) (t : TransportId) : List Posting :=
  match b.currentSocket t with
  | some s => b.closePostings s goneStatus.1 goneStatus.2
  | none => []

/-- What is posted when a message is handled, what its endpoint does because of it and an answer
    apart. -/
def handlePostings (b : Bridge) (t : TransportId) (message : Message) : List Posting :=
  match message with
  | .endpointMessage m =>
      let tr := b.transport t
      let route := (b.relay tr.endpointId (tr.endpoint.bind (·.conference)) m).1
      [.counted (.routed route.label)]
  | .serverHello _ | .dominantSpeaker _ | .connectivityStatus _ _ | .lastNEndpoints _
  | .senderVideoConstraints _ | .unknown => [.counted (.unhandled message.kind)]
  | _ => []

/-- What is posted when a text is read and handled. -/
def textPostings (b : Bridge) (t : TransportId) (channel : Option Channel) (text : String) :
    List Posting :=
  match readText (b.transport t).config.maxInboundBytes text with
  | .error e => [.counted (.dropped .inbound (.failed e.label))]
  | .ok message =>
      b.handlePostings t message ++ .counted (.handled message.kind) ::
        match message.reply? with
        | some answer => b.replyPostings t channel answer
        | none => []

/-- What is posted when a text is received. -/
def receivePostings (b : Bridge) (t : TransportId) (source : Source) (text : String) :
    List Posting :=
  match b.hear t source with
  | some (heard, channel) =>
      [.received t source.kind, .counted (.received source.kind)] ++
        heard.textPostings t channel text
  | none => [.counted (.dropped .inbound .staleSocket)]

end Bridge

/-- What is posted by something that happens, apart from what happens because of it. -/
def Occurrence.postings : Occurrence → List Posting
  | ⟨b, t, operation⟩ =>
      match operation with
      | .installSocket s =>
          b.displacePostings t s ++ (b.displaceSocket t s).sendPostings t (.socket s) .hello
      | .slots (.putSocket s greeting) =>
          b.displacePostings t s ++ (b.displaceSocket t s).greetPostings s greeting
      | .close | .slots .giveUpSocket => b.giveUpPostings t
      | .receive source text => b.receivePostings t source text
      | .receiveBinary _ => [.received t .dataChannel, .counted (.received .dataChannel)]
      | .send message => b.dispatchPostings t (b.activeChannel t) message
      | .dispatch channel message => b.dispatchPostings t channel message
      | .sendVia channel message => b.sendPostings t channel message
      | .countReceived channel => [.received t channel]
      | _ => []

namespace Operation

/-- The handles of a socket change, or its wire takes frames or goes away. -/
def touches (s : SocketId) : Operation → Bool
  | cloneHandle id | dropHandle id | dropReceiver id | takeFrame id | poll id => id == s
  | _ => false

end Operation

/-- What is posted by all that happens. -/
def postings (past : List Occurrence) : List Posting :=
  past.flatMap (·.postings)

namespace Bridge

/-! ## Work -/

/-- Work for a transport, labelled with its postings. -/
inductive Work (t : TransportId) : Bridge → List Posting → Bridge → Prop where
  | refl (b : Bridge) : Work t b [] b
  | trans {b b' b'' : Bridge} {posts more : List Posting} :
      Work t b posts b' → Work t b' more b'' → Work t b (posts ++ more) b''
  /-- Something is written to the trace that is not booked. -/
  | note {event : Event} (b : Bridge) : event.isBooked = false → Work t b [] (b.emit event)
  | count (b : Bridge) (metric : Metric) : Work t b [.counted metric] (b.count metric)
  /-- The transport changes, but neither its outbox nor where it counts. -/
  | update {f : Transport → Transport} (b : Bridge) :
      (∀ tr, (f tr).outbox = tr.outbox) → (∀ tr, (f tr).statistics = tr.statistics) →
        Work t b [] (b.updateTransport t f)
  | attach (b : Bridge) (d : DataChannelId) (state : DataChannel) :
      Work t b [] (b.setDataChannel d state)
  | make {state : Socket} {buffer : Nat} (b : Bridge) : Socket.create buffer = .ok state →
      Work t b [] { b with sockets := b.sockets ++ [state] }
  | countSent (b : Bridge) (channel : ChannelKind) :
      Work t b [.sent t channel] (b.updateStatistics t (·.countSent channel))
  | countReceived (b : Bridge) (channel : ChannelKind) :
      Work t b [.received t channel] (b.updateStatistics t (·.countReceived channel))
  | countAttempt (b : Bridge) (kind : Kind) : Work t b [.attempted t kind]
      (b.updateTransport t fun tr => { tr with outbox := tr.outbox.countAttempt kind })
  | countDropped (b : Bridge) : Work t b [.dropped t]
      (b.updateTransport t fun tr => { tr with outbox := tr.outbox.countDropped })
  /-- A socket takes a text. -/
  | queue {b : Bridge} {s : SocketId} {text : String} {state : Socket} :
      (b.socket s).send text = .ok state → Work t b [.accepted (.socket s) (.text text)]
        ((b.setSocket s state).emit (.accepted (.socket s) (.text text)))
  /-- A data channel takes a text. -/
  | pass {d : DataChannelId} (b : Bridge) (text : String) : (b.dataChannel d).refusal = none →
      Work t b [.accepted (.dataChannel d) (.text text)]
        (b.emit (.accepted (.dataChannel d) (.text text)))
  | shut (b : Bridge) (s : SocketId) (status : UInt16) (reason : String) :
      Work t b (b.closePostings s status reason) (b.closeSession s status reason)

namespace Work

variable {b b' b'' : Bridge} {t : TransportId} {posts : List Posting}

theorem log (b : Bridge) (entry : LogEntry) : Work t b [] (b.log entry) :=
  note b rfl

/-- Work is done after an entry in the log. -/
theorem log_trans {entry : LogEntry} (done : Work t (b.log entry) posts b') : Work t b posts b' :=
  (log b entry).trans done

/-- More is done, and nothing posted. -/
theorem trans_quiet (done : Work t b posts b') (more : Work t b' [] b'') : Work t b posts b'' := by
  have whole := done.trans more
  rwa [List.append_nil] at whole

/-- An entry in the log is written in the end. -/
theorem trans_log (done : Work t b posts b') (entry : LogEntry) :
    Work t b posts (b'.log entry) :=
  done.trans_quiet (log b' entry)

theorem setChannels (b : Bridge) (channels : ChannelPair) : Work t b [] (b.setChannels t channels) :=
  update b (fun _ => rfl) (fun _ => rfl)

/-! ## Sending -/

theorem sendOn {channel : Channel} {text : String} (sent : b.sendOn channel text = .ok b') :
    b.refusal channel text = none ∧ Work t b [.accepted channel (.text text)] b' := by
  cases channel with
  | socket s =>
    cases taken : (b.socket s).send text with
    | error e => simp [Bridge.sendOn, taken] at sent
    | ok state =>
      obtain rfl : (b.setSocket s state).emit (.accepted (.socket s) (.text text)) = b' := by
        simpa [Bridge.sendOn, taken] using sent
      exact ⟨by simp [refusal, taken], queue taken⟩
  | dataChannel d =>
    cases refused : (b.dataChannel d).refusal with
    | some e => simp [Bridge.sendOn, refused] at sent
    | none =>
      obtain rfl : b.emit (.accepted (.dataChannel d) (.text text)) = b' := by
        simpa [Bridge.sendOn, refused] using sent
      exact ⟨refused, pass b text refused⟩

theorem refusal_of_sendOn {channel : Channel} {text : String} {e : TransportError}
    (refused : b.sendOn channel text = .error e) : b.refusal channel text = some e := by
  cases channel with
  | socket s =>
    cases taken : (b.socket s).send text with
    | error e' => simpa [Bridge.sendOn, refusal, taken] using refused
    | ok state => simp [Bridge.sendOn, taken] at refused
  | dataChannel d =>
    cases found : (b.dataChannel d).refusal with
    | none => simp [Bridge.sendOn, found] at refused
    | some e' => simpa [Bridge.sendOn, refusal, found] using refused

theorem sendVia (b : Bridge) (channel : Channel) (message : Message) :
    Work t b (b.sendPostings t channel message) (b.sendVia t channel message) := by
  unfold Bridge.sendVia sendPostings
  dsimp only
  refine (log b (.sending (b.transport t).endpointId channel.kind message.kind)).trans ?_
  cases sent : (b.log _).sendOn channel message.encode with
  | ok b' =>
    obtain ⟨accepted, taken⟩ := sendOn (t := t) sent
    have accepted : b.refusal channel message.encode = none := accepted
    rw [accepted]
    exact taken.trans ((countSent b' channel.kind).trans (count _ _))
  | error e =>
    have refused := refusal_of_sendOn sent
    have refused : b.refusal channel message.encode = some e := refused
    rw [refused]
    exact (count _ _).trans_log _

theorem dispatch (b : Bridge) (channel : Option Channel) (message : Message) :
    Work t b (b.dispatchPostings t channel message) (b.dispatch t channel message) := by
  cases channel with
  | none => exact (countDropped b).trans ((count _ _).trans_log _)
  | some channel => exact (countAttempt b message.kind).trans (sendVia _ channel message)

theorem reply (b : Bridge) (channel : Option Channel) (message : Message) :
    Work t b (b.replyPostings t channel message) (b.reply t channel message) := by
  cases channel with
  | none => exact dispatch b none message
  | some channel => exact sendVia b channel message

/-! ## Slots -/

theorem displaceSocket (b : Bridge) (s : SocketId) :
    Work t b (b.displacePostings t s) (b.displaceSocket t s) := by
  unfold Bridge.displaceSocket displacePostings currentSocket
  cases (b.transport t).channels.socket with
  | none => exact refl b
  | some old =>
    dsimp only
    by_cases same : old = s
    · rw [if_pos same, if_pos same]
      exact refl b
    · rw [if_neg same, if_neg same]
      exact log_trans (shut (b.log _) old _ _)

theorem putSocket (b : Bridge) (s : SocketId) (greet : Bridge → Bridge) (greeting : List Posting)
    (greets : ∀ channels, Work t ((b.displaceSocket t s).setChannels t channels) greeting
      (greet ((b.displaceSocket t s).setChannels t channels))) :
    Work t b (b.displacePostings t s ++ greeting) (b.putSocket t s greet) := by
  unfold Bridge.putSocket
  exact (displaceSocket b s).trans ((setChannels _ _).trans (greets _))

theorem greet_of (b : Bridge) (s : SocketId) (greeting : Option String) :
    Work t b (b.greetPostings s greeting) (match greeting with
      | some text => (b.sendOn (.socket s) text).toOption.getD b
      | none => b) := by
  cases greeting with
  | none => exact refl b
  | some text =>
    unfold greetPostings
    dsimp only
    cases sent : b.sendOn (.socket s) text with
    | ok b' =>
      obtain ⟨accepted, taken⟩ := sendOn (t := t) sent
      rw [if_pos (by simp [accepted])]
      exact taken
    | error e =>
      rw [if_neg (by simp [refusal_of_sendOn sent])]
      exact refl b

theorem takeSocket (b : Bridge) (s : SocketId) : Work t b [] (b.takeSocket t s).2 := by
  unfold Bridge.takeSocket
  cases (b.transport t).channels.clearSocket s with
  | none => exact refl b
  | some channels => exact setChannels b channels

theorem giveUpSocket (b : Bridge) : Work t b (b.giveUpPostings t) (b.giveUpSocket t).2 := by
  unfold Bridge.giveUpSocket giveUpPostings currentSocket
  cases (b.transport t).channels.socket with
  | none => exact refl b
  | some s => exact (setChannels b _).trans (shut (b.setChannels t _) s _ _)

theorem markSocket {s : SocketId} (marked : b.markSocket t s = some b') : Work t b [] b' := by
  obtain ⟨channels, -, rfl⟩ := Option.map_eq_some_iff.1 marked
  exact setChannels b channels

theorem putDataChannel (b : Bridge) (d : DataChannelId) :
    Work t b [] (b.attempt (b.putDataChannel t d)).2 := by
  unfold Bridge.putDataChannel
  cases b.liveDataChannel t with
  | none => exact setChannels b _
  | some old => exact refl b

theorem stepSlots (b : Bridge) (operation : SlotOperation) :
    Work t b (Occurrence.postings ⟨b, t, .slots operation⟩) (b.stepSlots t operation).2 := by
  cases operation with
  | putSocket s greeting =>
    let greet (b : Bridge) : Bridge :=
      match greeting with
      | some text => (b.sendOn (.socket s) text).toOption.getD b
      | none => b
    exact putSocket b s greet _ fun channels => greet_of _ s greeting
  | takeSocket s => exact takeSocket b s
  | markSocket s =>
    unfold Bridge.stepSlots
    dsimp only
    cases marked : b.markSocket t s with
    | none => exact refl b
    | some b' => exact markSocket marked
  | markDataChannel => exact setChannels b _
  | putDataChannel d => exact putDataChannel b d
  | giveUpSocket => exact giveUpSocket b

/-! ## Receiving -/

theorem hear {heard : Bridge} {source : Source} {channel : Option Channel}
    (hears : b.hear t source = some (heard, channel)) :
    Work t b [.received t source.kind, .counted (.received source.kind)] heard := by
  have counted (b : Bridge) (kind : ChannelKind) :
      Work t b [.received t kind, .counted (.received kind)] (b.countReceived t kind) :=
    (countReceived b kind).trans (count _ _)
  cases source with
  | dataChannel =>
    cases hears
    exact (setChannels b _).trans (counted _ _)
  | socket s =>
    obtain ⟨marked, mark, same⟩ := Option.map_eq_some_iff.1 hears
    cases same
    exact (markSocket mark).trans (counted _ _)

theorem relay (b : Bridge) (sender : String) (conference : Option ConferenceId)
    (message : EndpointMessage) :
    Work t b [.counted (.routed (b.relay sender conference message).1.label)]
      (b.relay sender conference message).2 := by
  have delivered {entry : LogEntry} {event : Event} (unbooked : event.isBooked = false) :
      Work t b [] ((b.log entry).emit event) := log_trans (note _ unbooked)
  unfold Bridge.relay Bridge.relayIn
  cases (b.rosterOf conference).filter (¬ ·.2.expired) with
  | none => exact log_trans (count _ _)
  | some found =>
    obtain ⟨c, roster⟩ := found
    dsimp only
    cases Route.resolve sender roster (message.stamp sender) with
    | broadcast targets => exact (delivered rfl).trans (count _ _)
    | unicast target => exact (delivered rfl).trans (count _ _)
    | remote => exact (delivered rfl).trans (count _ _)
    | unknownTarget target => exact log_trans (count _ _)
    | noConference => exact log_trans (count _ _)

/-- Setting an input posts nothing. -/
theorem updateConstraints (b : Bridge) (set : ConstraintInputs → ConstraintInputs) :
    Work t b [] (b.updateConstraints ignore t set) := by
  have computed (inputs : ConstraintInputs) (generation : Nat) :
      Work t b [] ((b.updateTransport t fun tr =>
        { tr with inputs := inputs, generation := generation }).emit (.computed t inputs)) := by
    refine trans (update b ?_ ?_) (note _ rfl)
    · exact fun _ => rfl
    · exact fun _ => rfl
  have pushed (b : Bridge) (generation : Nat) :
      Work t b [] (b.updateTransport t fun tr => { tr with pushed := generation }) :=
    update b (fun _ => rfl) (fun _ => rfl)
  unfold Bridge.updateConstraints
  dsimp only
  split
  · exact (computed _ _).trans_log _
  · cases (b.transport t).endpoint with
    | none => exact (computed _ _).trans (((pushed _ _).trans_log _).trans_log _)
    | some endpoint =>
      exact (computed _ _).trans (((pushed _ _).trans_log _).trans (note _ rfl))

theorem handle_of_update {message : Message} (sets : message.update?.isSome = true) (b : Bridge) :
    Work t b [] (b.handle ignore t message) := by
  obtain ⟨set, sets⟩ := Option.isSome_iff_exists.1 sets
  obtain ⟨entry, -, handled⟩ := Bridge.handle_of_update (t := t) sets b
  rw [handled]
  exact log_trans (updateConstraints _ set)

theorem handlePostings_of_update {message : Message} (sets : message.update?.isSome = true)
    (b : Bridge) : b.handlePostings t message = [] := by
  cases message <;> first | rfl | cases sets

theorem handle (b : Bridge) (message : Message) :
    Work t b (b.handlePostings t message) (b.handle ignore t message) := by
  cases sets : message.update? with
  | some set =>
    rw [handlePostings_of_update (by simp [sets])]
    exact handle_of_update (by simp [sets]) b
  | none =>
    cases message with
    | clientHello => exact refl b
    | lastN value =>
      unfold Bridge.handle
      dsimp only
      cases (b.transport t).endpoint with
      | none => exact log b _
      | some endpoint => exact note b rfl
    | endpointMessage m => exact relay b _ _ m
    | pinnedEndpoint id => cases sets
    | pinnedEndpoints ids => cases sets
    | selectedEndpoint id => cases sets
    | selectedEndpoints ids => cases sets
    | receiverVideoConstraint height => cases sets
    | _ => exact (count b _).trans_log _

theorem handleText (b : Bridge) (channel : Option Channel) (text : String) :
    Work t b (b.textPostings t channel text) (b.handleText ignore t channel text) := by
  unfold Bridge.handleText textPostings
  dsimp only
  cases readText (b.transport t).config.maxInboundBytes text with
  | error e => exact (count b _).trans_log _
  | ok message =>
    dsimp only
    have handled := (handle (t := t) b message).trans (count _ (.handled message.kind))
    cases owed : message.reply? with
    | none => exact handled
    | some answer =>
      -- Only a hello is answered, and the bridge is as it was when its answer is sent.
      have hello : message = .clientHello := by
        cases message <;> first | rfl | cases owed
      subst hello
      exact handled.trans (reply _ channel answer)

theorem receiveWith (b : Bridge) (source : Source) (text : String) :
    Work t b (b.receivePostings t source text) (b.receiveWith ignore t source text) := by
  unfold receivePostings
  rw [receiveWith_eq]
  cases hears : b.hear t source with
  | some found =>
    obtain ⟨heard, channel⟩ := found
    exact (hear hears).trans (handleText heard channel text)
  | none =>
    obtain ⟨s, rfl, other⟩ := hear_eq_none hears
    unfold Bridge.receiveWith
    dsimp only
    rw [markSocket_of_ne other]
    exact (count b _).trans_log _

/-! ## Operations -/

theorem openSocket (b : Bridge) (buffer : Nat) : Work t b [] (b.openSocket buffer).2 := by
  unfold Bridge.openSocket addSocket
  cases created : Socket.create buffer with
  | error misuse => exact refl b
  | ok state => exact make b created

theorem notifyConnected (b : Bridge) : Work t b [] (b.notifyConnected t) :=
  log_trans (note _ rfl)

theorem installSocket (b : Bridge) (s : SocketId) :
    Work t b (Occurrence.postings ⟨b, t, .installSocket s⟩) (b.installSocket t s) := by
  have greeted := putSocket b s (fun b => b.sendVia t (.socket s) .hello)
    ((b.displaceSocket t s).sendPostings t (.socket s) .hello)
    fun channels => sendVia _ (.socket s) .hello
  exact greeted.trans_quiet (log_trans (notifyConnected _))

theorem clearSocket (b : Bridge) (s : SocketId) (status : UInt16) (reason : String) :
    Work t b [] (b.clearSocket t s status reason) := by
  unfold Bridge.clearSocket
  have took := takeSocket (t := t) b s
  cases taken : b.takeSocket t s with
  | mk present after =>
    rw [taken] at took
    cases present with
    | true => exact took.trans_log _
    | false => exact took

theorem close (b : Bridge) : Work t b (b.giveUpPostings t) (b.close t) := by
  unfold Bridge.close
  have gave := giveUpSocket (t := t) b
  cases given : b.giveUpSocket t with
  | mk present after =>
    rw [given] at gave
    cases present with
    | true => exact gave.trans_log _
    | false => exact gave

theorem installDataChannel (b : Bridge) (d : DataChannelId) :
    Work t b [] (b.attempt (b.installDataChannel t d)).2 := by
  have put := putDataChannel (t := t) b d
  unfold Bridge.installDataChannel
  cases slot : b.putDataChannel t d with
  | error misuse => exact refl b
  | ok after =>
    rw [slot] at put
    have attached := put.trans
      (attach after d { after.dataChannel d with listener := some t })
    have told := attached.trans_quiet (notifyConnected _)
    change Work t b [] (if (after.dataChannel d).ready then _ else _)
    split
    · exact told
    · exact attached

theorem receiveBinary (b : Bridge) (length : Nat) :
    Work t b [.received t .dataChannel, .counted (.received .dataChannel)]
      (b.receiveBinary t length) := by
  have hears : b.hear t .dataChannel = some ((b.markDataChannel t).countReceived t .dataChannel,
      ((b.markDataChannel t).liveDataChannel t).map .dataChannel) := rfl
  exact (hear hears).trans_log _

theorem updateEndpoint (b : Bridge) (f : Endpoint → Endpoint) :
    Work t b [] (b.updateEndpoint t f) :=
  update b (fun _ => rfl) (fun _ => rfl)

/-- An operation that hands nothing to the endpoint. -/
theorem stepTransport {operation : TransportOperation} (notText : operation.received? = none)
    (b : Bridge) :
    Work t b (Occurrence.postings ⟨b, t, operation⟩) (b.stepTransport t operation).2 := by
  cases operation with
  | newSocket => exact openSocket b _
  | installSocket s => exact installSocket b s
  | clearSocket s status reason => exact clearSocket b s status reason
  | close => exact close b
  | installDataChannel d => exact installDataChannel b d
  | receive source text => cases notText
  | receiveBinary length => exact receiveBinary b length
  | send message => exact dispatch b _ message
  | dropEndpoint => exact update b (fun _ => rfl) (fun _ => rfl)
  | dropTransport => exact update b (fun _ => rfl) (fun _ => rfl)
  | joinConference c => exact updateEndpoint b _
  | rehearse script => exact updateEndpoint b _
  | slots operation => exact stepSlots b operation
  | dispatch channel message => exact dispatch b channel message
  | sendVia channel message => exact sendVia b channel message
  | countReceived channel => exact countReceived b channel

theorem nextReactions {reactions : List Reaction}
    (next : b.nextReactions t = some (reactions, b')) : Work t b [] b' := by
  unfold Bridge.nextReactions at next
  split at next
  · cases next
    exact update b (fun _ => rfl) (fun _ => rfl)
  · cases next

end Work

variable {b b' : Bridge} {t : TransportId}

/-- Work was done that posts what each thing that happened posts, with the frames in the same order.
    A text is handled after what the endpoint makes happen because of it, so a metric of its may be
    counted after theirs. -/
def Worked (t : TransportId) (b : Bridge) (past : List Occurrence) (b' : Bridge) : Prop :=
  ∃ posts, Work t b posts b' ∧ posts.Perm (postings past) ∧
    posts.filterMap (·.frame?) = (postings past).filterMap (·.frame?)

theorem Work.worked {past : List Occurrence} (done : Work t b (postings past) b') :
    Worked t b past b' :=
  ⟨_, done, .refl _, rfl⟩

theorem Work.worked_single {o : Occurrence} (done : Work t b o.postings b') :
    Worked t b [o] b' := by
  have alone : postings [o] = o.postings := List.flatMap_singleton ..
  exact worked (alone.symm ▸ done)

theorem nested_worked (t : TransportId) : Nested t (Worked t) where
  refl b := (Work.refl b).worked
  trans := by
    rintro b b' b'' past more ⟨posts, first, order, frames⟩ ⟨later, second, orderLater, framesLater⟩
    refine ⟨posts ++ later, first.trans second, ?_, ?_⟩
    · rw [postings, List.flatMap_append]
      exact order.append orderLater
    · rw [postings, List.flatMap_append, List.filterMap_append, List.filterMap_append, frames,
        framesLater]
      rfl
  ask _ _ _ notText := (Work.stepTransport notText _).worked_single
  absorb _ := (Work.receiveWith _ _ _).worked_single
  push := by
    rintro b heard b' source text channel message constraints inner hears read sets -
      ⟨posts, called, order, frames⟩
    have posted : Occurrence.postings ⟨b, t, .receive source text⟩ =
        [.received t source.kind, .counted (.received source.kind), .counted (.handled message.kind)] := by
      have noReply : message.reply? = none := reply?_of_update sets
      have handles := Work.handlePostings_of_update (t := t) sets heard
      simp [Occurrence.postings, receivePostings, hears, textPostings, read, handles, noReply]
    have done := (((Work.hear hears).trans (Work.handle_of_update sets heard)).trans called).trans
      (Work.count b' (.handled message.kind))
    refine ⟨_, done, ?_, ?_⟩
    · rw [postings, List.flatMap_cons, posted]
      refine List.Perm.cons _ (List.Perm.cons _ ?_)
      exact List.perm_append_comm.trans (order.cons _)
    · rw [postings, List.flatMap_cons, posted]
      simpa [List.filterMap_append, Posting.frame?, postings] using frames
  reacting _ next := ((Work.nextReactions next).trans_quiet (Work.note _ rfl)).worked
  reacted b _ := (Work.note b rfl).worked

/-! ## Steps -/

/-- What is posted by what is done to a socket directly. -/
def directPostings (b : Bridge) : Operation → List Posting
  | .sendText s text => b.greetPostings s (some text)
  | .closeSession s status reason => b.closePostings s status reason
  | _ => []

theorem directPostings_of_occasion {operation : Operation} {asked : TransportId × TransportOperation}
    (occasion : b.occasion? operation = some asked) : b.directPostings operation = [] := by
  cases operation <;> first | rfl | cases occasion

/-- What is done by a step for a transport. -/
theorem worked_of_occasion {operation : Operation} {asked : TransportOperation}
    (occasion : b.occasion? operation = some (t, asked)) :
    Worked t b (b.stepOccurrences operation) (b.step operation).2 := by
  have listed : b.stepOccurrences operation =
      b.occurrencesOf (scriptOccurrences t (b.scriptLength t)) t asked := by
    rw [stepOccurrences, occasion]
  rw [listed, Tracked.step_of_occasion occasion]
  refine (nested_worked t).stepTransport asked b ?_
  intro notText
  exact (Work.stepTransport notText b).worked_single

/-- What is done to no transport: a socket is used directly, or its handles or its wire change, or
    something changes that no socket and no transport is part of. -/
theorem step_of_no_occasion {operation : Operation} (outside : b.occasion? operation = none) :
    Work 0 b (b.directPostings operation) (b.step operation).2 ∨
    (b.directPostings operation = [] ∧ ∃ s state, operation.touches s = true ∧
      (b.step operation).2 = b.setSocket s state) ∨
    (b.directPostings operation = [] ∧ ∃ channels conferences,
      (b.step operation).2 = { b with dataChannels := channels, conferences := conferences }) := by
  cases operation with
  | newSocket buffer => exact .inl (Work.openSocket b buffer)
  | cloneHandle s => exact .inr (.inl ⟨rfl, s, _, beq_self_eq_true s, rfl⟩)
  | dropHandle s => exact .inr (.inl ⟨rfl, s, _, beq_self_eq_true s, rfl⟩)
  | dropReceiver s => exact .inr (.inl ⟨rfl, s, _, beq_self_eq_true s, rfl⟩)
  | sendText s text =>
    refine .inl ?_
    unfold step directPostings greetPostings
    dsimp only
    cases sent : b.sendOn (.socket s) text with
    | ok b' =>
      obtain ⟨accepted, taken⟩ := Work.sendOn (t := 0) sent
      rw [if_pos (by simp [accepted])]
      exact taken
    | error e =>
      rw [if_neg (by simp [Work.refusal_of_sendOn sent])]
      exact .refl b
  | closeSession s status reason => exact .inl (.shut b s status reason)
  | takeFrame s => exact .inr (.inl ⟨rfl, s, _, beq_self_eq_true s, rfl⟩)
  | poll s => exact .inr (.inl ⟨rfl, s, _, beq_self_eq_true s, rfl⟩)
  | newDataChannel ready => exact .inr (.inr ⟨rfl, _, _, rfl⟩)
  | setReady d ready =>
    have put := Work.attach (t := 0) b d { b.dataChannel d with ready := ready }
    refine .inl ?_
    unfold step setReady
    dsimp only
    split
    · cases (b.setDataChannel d { b.dataChannel d with ready := ready }).listener d with
      | none => exact put
      | some t => exact put.trans (Work.log_trans (Work.note _ rfl))
    · exact put
  | failSends d => exact .inl (.attach b d _)
  | dropDataChannel d => exact .inl (.attach b d _)
  | deliverText d text =>
    rw [step, attempt_deliver_of_unreported (Option.map_eq_none_iff.1 outside)]
    exact .inl (.refl b)
  | deliverBinary d length =>
    rw [step, attempt_deliver_of_unreported (Option.map_eq_none_iff.1 outside)]
    exact .inl (.refl b)
  | expire c => exact .inr (.inr ⟨rfl, _, _, rfl⟩)
  | transport t operation => cases outside

end Bridge

end ControlChannel
