import ControlChannel.Bridge.Operation
import ControlChannel.Proofs.Outcome

/-!
# How a trace grows

Nothing is ever taken back from the trace. What a transport does while it receives a text only
appends to it, keeps the transport's endpoint id, and uses up the script of its endpoint; and a
message is given to a conference only where an endpoint message was read from a text, and then with
the transport's endpoint for its sender. The texts are the one received and those that the script
feeds back.
-/

namespace ControlChannel

namespace Reaction

/-- The text that a reaction feeds back into the transport, if it does. -/
def inbound? : Reaction → Option String
  | receive _ text => some text
  | _ => none

end Reaction

namespace Event

/-- A message that the event gives to a conference is one of those meant by `p`. -/
def Hands (p : EndpointMessage → Prop) : Event → Prop
  | delivered _ message _ _ => p message
  | _ => True

end Event

namespace Bridge

/-- The script that the endpoint of a transport has left. -/
def script (b : Bridge) (t : TransportId) : List (List Reaction) :=
  ((b.transport t).endpoint.map (·.script)).getD []

/-- The texts that the endpoint of a transport has yet to feed back. -/
def scriptedTexts (b : Bridge) (t : TransportId) : List String :=
  (b.script t).flatten.filterMap Reaction.inbound?

variable {t : TransportId} {p : EndpointMessage → Prop} {b b' b'' : Bridge}

/-- What became of a bridge: its trace was added to, by messages meant by `p` and other events. -/
structure Grows (t : TransportId) (p : EndpointMessage → Prop) (b b' : Bridge) : Prop where
  endpointId_eq : (b'.transport t).endpointId = (b.transport t).endpointId
  script_suffix : b'.script t <:+ b.script t
  trace_append : ∃ events, b'.trace = b.trace ++ events ∧ ∀ event ∈ events, event.Hands p

namespace Grows

theorem refl (b : Bridge) : Grows t p b b :=
  ⟨rfl, List.suffix_refl _, [], by simp, by simp⟩

theorem trans (h : Grows t p b b') (h' : Grows t p b' b'') : Grows t p b b'' := by
  obtain ⟨events, trace, hands⟩ := h.trace_append
  obtain ⟨events', trace', hands'⟩ := h'.trace_append
  refine ⟨h'.endpointId_eq.trans h.endpointId_eq, h'.script_suffix.trans h.script_suffix,
    events ++ events', ?_, ?_⟩
  · rw [trace', trace, List.append_assoc]
  · intro event mem
    rcases List.mem_append.1 mem with mem | mem
    · exact hands event mem
    · exact hands' event mem

/-- A part of the bridge was changed that is neither a transport nor the trace. -/
theorem of_eq (transports : b'.transports = b.transports) (trace : b'.trace = b.trace) :
    Grows t p b b' := by
  have same : b'.transport t = b.transport t := by rw [transport, transports, transport]
  refine ⟨by rw [same], ?_, [], by simp [trace], by simp⟩
  rw [script, same]
  exact List.suffix_refl _

theorem emit {event : Event} (hands : event.Hands p) : Grows t p b (b.emit event) :=
  ⟨rfl, List.suffix_refl _, [event], rfl, by simpa using hands⟩

theorem log (entry : LogEntry) : Grows t p b (b.log entry) :=
  emit trivial

theorem count (metric : Metric) : Grows t p b (b.count metric) :=
  emit trivial

/-- A transport was changed, but not its endpoint id, and its script only got shorter. -/
theorem updateTransport {f : Transport → Transport}
    (endpointId : (f (b.transport t)).endpointId = (b.transport t).endpointId)
    (script : ((f (b.transport t)).endpoint.map (·.script)).getD [] <:+ b.script t) :
    Grows t p b (b.updateTransport t f) := by
  have found : (b.updateTransport t f).transport t = b.transport t ∨
      (b.updateTransport t f).transport t = f (b.transport t) := by
    rw [transport, transport, Bridge.updateTransport, List.getD_eq_getElem?_getD,
      List.getD_eq_getElem?_getD, List.getElem?_modify_eq]
    cases b.transports[t]? with
    | none => exact .inl rfl
    | some tr => exact .inr rfl
  refine ⟨?_, ?_, [], by simp [Bridge.updateTransport], by simp⟩
  · rcases found with same | same
    · rw [same]
    · rw [same, endpointId]
  · rw [Bridge.script]
    rcases found with same | same
    · rw [same]
      exact List.suffix_refl _
    · rw [same]
      exact script

theorem setChannels (channels : ChannelPair) : Grows t p b (b.setChannels t channels) :=
  updateTransport rfl (List.suffix_refl _)

theorem updateStatistics (f : Statistics → Statistics) : Grows t p b (b.updateStatistics t f) :=
  of_eq rfl rfl

theorem setSocket (s : SocketId) (state : Socket) : Grows t p b (b.setSocket s state) :=
  of_eq rfl rfl

/-! ## Channels and sending -/

theorem sendOn {channel : Channel} {text : String} (h : b.sendOn channel text = .ok b') :
    Grows t p b b' := by
  cases channel with
  | socket s =>
    cases sent : (b.socket s).send text with
    | error e => simp [Bridge.sendOn, sent] at h
    | ok state =>
      obtain rfl : (b.setSocket s state).emit (.accepted (.socket s) (.text text)) = b' := by
        simpa [Bridge.sendOn, sent] using h
      exact (setSocket s state).trans (emit trivial)
  | dataChannel d =>
    cases refused : (b.dataChannel d).refusal with
    | some e => simp [Bridge.sendOn, refused] at h
    | none =>
      obtain rfl : b.emit (.accepted (.dataChannel d) (.text text)) = b' := by
        simpa [Bridge.sendOn, refused] using h
      exact emit trivial

theorem closeSession (s : SocketId) (status : UInt16) (reason : String) :
    Grows t p b (b.closeSession s status reason) := by
  unfold Bridge.closeSession
  obtain ⟨state, closing⟩ := (b.socket s).close status reason
  cases closing with
  | already => exact setSocket s state
  | queued => exact (setSocket s state).trans (emit trivial)
  | unqueued e => exact (setSocket s state).trans (log _)

theorem sendVia (channel : Channel) (message : Message) :
    Grows t p b (b.sendVia t channel message) := by
  unfold Bridge.sendVia
  refine (log (.sending (b.transport t).endpointId channel.kind message.kind)).trans ?_
  dsimp only
  cases sent : (b.log _).sendOn channel message.encode with
  | ok b' => exact (sendOn sent).trans ((updateStatistics _).trans (count _))
  | error e => exact (count _).trans (log _)

theorem dispatch (channel : Option Channel) (message : Message) :
    Grows t p b (b.dispatch t channel message) := by
  cases channel with
  | none =>
    have counted : Grows t p b
        (b.updateTransport t fun tr => { tr with outbox := tr.outbox.countDropped }) :=
      updateTransport rfl (List.suffix_refl _)
    exact counted.trans ((count _).trans (log _))
  | some channel =>
    have counted : Grows t p b (b.updateTransport t fun tr =>
        { tr with outbox := tr.outbox.countAttempt message.kind }) :=
      updateTransport rfl (List.suffix_refl _)
    exact counted.trans (sendVia channel message)

theorem send (message : Message) : Grows t p b (b.send t message) :=
  dispatch _ message

theorem reply (channel : Option Channel) (message : Message) :
    Grows t p b (b.reply t channel message) := by
  cases channel with
  | none => exact dispatch none message
  | some channel => exact sendVia channel message

theorem markSocket {s : SocketId} (h : b.markSocket t s = some b') : Grows t p b b' := by
  obtain ⟨channels, -, rfl⟩ := Option.map_eq_some_iff.1 h
  exact setChannels channels

theorem markDataChannel : Grows t p b (b.markDataChannel t) :=
  setChannels _

theorem countReceived (channel : ChannelKind) : Grows t p b (b.countReceived t channel) :=
  (updateStatistics _).trans (count _)

theorem clearSocket (s : SocketId) (status : UInt16) (reason : String) :
    Grows t p b (b.clearSocket t s status reason) := by
  unfold Bridge.clearSocket Bridge.takeSocket
  cases (b.transport t).channels.clearSocket s with
  | none => exact refl b
  | some channels => exact (setChannels channels).trans (log _)

theorem close : Grows t p b (b.close t) := by
  unfold Bridge.close Bridge.giveUpSocket
  cases (b.transport t).channels.socket with
  | none => exact refl b
  | some s => exact (setChannels _).trans ((closeSession s _ _).trans (log _))

/-- A relayed message is stamped before it is given to the conference. -/
theorem relay {message : EndpointMessage} {sender : String} (conference : Option ConferenceId)
    (meant : p (message.stamp sender)) : Grows t p b (b.relay sender conference message).2 := by
  have delivered (c : ConferenceId) (targets : List String) (relayRemote : Bool)
      (entry : LogEntry) :
      Grows t p b ((b.log entry).emit (.delivered c (message.stamp sender) targets relayRemote)) :=
    (log entry).trans (emit meant)
  unfold Bridge.relay Bridge.relayIn
  cases (b.rosterOf conference).filter (¬ ·.2.expired) with
  | none => exact (log _).trans (count _)
  | some found =>
    obtain ⟨c, roster⟩ := found
    dsimp only
    cases Route.resolve sender roster (message.stamp sender) with
    | broadcast targets => exact (delivered c _ _ _).trans (count _)
    | unicast target => exact (delivered c _ _ _).trans (count _)
    | remote => exact (delivered c _ _ _).trans (count _)
    | unknownTarget target => exact (log _).trans (count _)
    | noConference => exact (log _).trans (count _)

end Grows

/-! ## Receiving -/

/-- If the text is an endpoint message, then it is one meant by `p` once it is stamped. -/
def Permits (t : TransportId) (p : EndpointMessage → Prop) (b : Bridge) (text : String) : Prop :=
  ∀ m, Message.decode text = .ok (.endpointMessage m) → p (m.stamp (b.transport t).endpointId)

/-- All texts that the script feeds back are permitted. -/
def ScriptPermits (t : TransportId) (p : EndpointMessage → Prop) (b : Bridge) : Prop :=
  ∀ text ∈ b.scriptedTexts t, Permits t p b text

/-- What an endpoint does grows the trace by what its script permits. -/
def CallbackGrows (t : TransportId) (p : EndpointMessage → Prop) (onPush : Callback) : Prop :=
  ∀ constraints b, ScriptPermits t p b → Grows t p b (onPush constraints b)

namespace Grows

theorem permits {text : String} (h : Grows t p b b') (permitted : Permits t p b text) :
    Permits t p b' text := by
  intro m decoded
  rw [h.endpointId_eq]
  exact permitted m decoded

theorem scriptPermits (h : Grows t p b b') (permitted : ScriptPermits t p b) :
    ScriptPermits t p b' := by
  intro text mem
  refine h.permits (permitted text ?_)
  obtain ⟨used, same⟩ := h.script_suffix
  rw [scriptedTexts, ← same, List.flatten_append, List.filterMap_append]
  exact List.mem_append_right _ mem

variable {onPush : Callback}

theorem push (callback : CallbackGrows t p onPush) (constraints : SenderConstraints)
    (permitted : ScriptPermits t p b) :
    Grows t p b (onPush constraints (b.emit (.pushed t constraints))) := by
  have written : Grows t p b (b.emit (.pushed t constraints)) := emit trivial
  exact written.trans (callback _ _ (written.scriptPermits permitted))

theorem updateConstraints (callback : CallbackGrows t p onPush)
    (update : ConstraintInputs → ConstraintInputs) (permitted : ScriptPermits t p b) :
    Grows t p b (b.updateConstraints onPush t update) := by
  have set (inputs : ConstraintInputs) (generation : Nat) : Grows t p b
      (b.updateTransport t fun tr => { tr with inputs := inputs, generation := generation }) :=
    updateTransport rfl (List.suffix_refl _)
  have written (b : Bridge) (inputs : ConstraintInputs) :
      Grows t p b (b.emit (.computed t inputs)) := emit trivial
  have setPushed (b : Bridge) (generation : Nat) : Grows t p b
      (b.updateTransport t fun tr => { tr with pushed := generation }) :=
    updateTransport rfl (List.suffix_refl _)
  have permittedNow {b' : Bridge} (h : Grows t p b b') := h.scriptPermits permitted
  unfold Bridge.updateConstraints
  dsimp only
  have computed := (set (update (b.transport t).inputs) ((b.transport t).generation + 1)).trans
    (written _ (update (b.transport t).inputs))
  split
  · exact computed.trans (log _)
  · cases (b.transport t).endpoint with
    | none => exact computed.trans ((setPushed _ _).trans ((log _).trans (log _)))
    | some endpoint =>
      refine computed.trans ((setPushed _ _).trans ((log _).trans (push callback _ ?_)))
      exact permittedNow (computed.trans ((setPushed _ _).trans (log _)))

/-- Setting an input is told to the log before it is done. -/
theorem log_updateConstraints (callback : CallbackGrows t p onPush) (entry : LogEntry)
    (update : ConstraintInputs → ConstraintInputs) (permitted : ScriptPermits t p b) :
    Grows t p b ((b.log entry).updateConstraints onPush t update) := by
  have logged : Grows t p b (b.log entry) := log entry
  exact logged.trans (updateConstraints callback update (logged.scriptPermits permitted))

theorem setPinned (callback : CallbackGrows t p onPush) (ids : IdSet)
    (permitted : ScriptPermits t p b) : Grows t p b (b.setPinned onPush t ids) := by
  unfold Bridge.setPinned
  exact log_updateConstraints callback _ _ permitted

theorem setSelected (callback : CallbackGrows t p onPush) (ids : IdSet)
    (permitted : ScriptPermits t p b) : Grows t p b (b.setSelected onPush t ids) := by
  unfold Bridge.setSelected
  exact log_updateConstraints callback _ _ permitted

theorem setMaxFrameHeight (callback : CallbackGrows t p onPush) (height : Int32)
    (permitted : ScriptPermits t p b) : Grows t p b (b.setMaxFrameHeight onPush t height) := by
  unfold Bridge.setMaxFrameHeight
  exact log_updateConstraints callback _ _ permitted

/-- What a message asks for is done; an endpoint message must be one that is permitted. -/
theorem handle (callback : CallbackGrows t p onPush) {message : Message}
    (meant : ∀ m, message = .endpointMessage m → p (m.stamp (b.transport t).endpointId))
    (permitted : ScriptPermits t p b) : Grows t p b (b.handle onPush t message) := by
  cases message with
  | clientHello => exact refl b
  | pinnedEndpoint id => exact setPinned callback _ permitted
  | pinnedEndpoints ids => exact setPinned callback _ permitted
  | selectedEndpoint id => exact setSelected callback _ permitted
  | selectedEndpoints ids => exact setSelected callback _ permitted
  | receiverVideoConstraint height => exact setMaxFrameHeight callback height permitted
  | lastN value =>
    unfold Bridge.handle
    dsimp only
    cases (b.transport t).endpoint with
    | none => exact log _
    | some endpoint => exact emit trivial
  | endpointMessage m => exact relay _ (meant m rfl)
  | _ => exact (count _).trans (log _)

theorem handleText (callback : CallbackGrows t p onPush) (channel : Option Channel) {text : String}
    (meant : Permits t p b text) (permitted : ScriptPermits t p b) :
    Grows t p b (b.handleText onPush t channel text) := by
  unfold Bridge.handleText
  dsimp only
  cases found : readText (b.transport t).config.maxInboundBytes text with
  | error e => exact (count _).trans (log _)
  | ok message =>
    have decoded : Message.decode text = .ok message := by
      unfold readText at found
      split at found
      · cases found
      · exact mapError_eq_ok.1 found
    have handled : Grows t p b (b.handle onPush t message) :=
      handle callback (fun m same => meant m (same ▸ decoded)) permitted
    have counted := handled.trans (count (.handled message.kind))
    dsimp only
    cases message.reply? with
    | none => exact counted
    | some answer => exact counted.trans (reply channel answer)

theorem receiveWith (callback : CallbackGrows t p onPush) (source : Source) {text : String}
    (meant : Permits t p b text) (permitted : ScriptPermits t p b) :
    Grows t p b (b.receiveWith onPush t source text) := by
  have marked {b' : Bridge} (h : Grows t p b b') (kind : ChannelKind) (channel : Option Channel) :
      Grows t p b ((b'.countReceived t kind).handleText onPush t channel text) := by
    have counted := h.trans (countReceived kind)
    exact counted.trans
      (handleText callback channel (counted.permits meant) (counted.scriptPermits permitted))
  unfold Bridge.receiveWith
  cases source with
  | dataChannel => exact marked markDataChannel _ _
  | socket s =>
    dsimp only
    cases current : b.markSocket t s with
    | none => exact (count _).trans (log _)
    | some b' => exact marked (markSocket current) _ _

/-! ## Following the script -/

/-- A reaction feeds back a permitted text, or it has no text for an inbound one. -/
theorem react (callback : CallbackGrows t p onPush) {reaction : Reaction}
    (meant : ∀ text, reaction.inbound? = some text → Permits t p b text)
    (permitted : ScriptPermits t p b) : Grows t p b (b.react onPush t reaction) := by
  cases reaction with
  | receive source text =>
    exact (receiveWith callback source (meant text rfl) permitted).trans (emit trivial)
  | send text =>
    unfold Bridge.react
    dsimp only
    cases Message.decode text with
    | error e => exact emit trivial
    | ok message => exact (send message).trans (emit trivial)
  | clearSocket s status => exact (clearSocket s status "").trans (emit trivial)
  | close => exact close.trans (emit trivial)
  | observe => exact emit trivial

theorem foldl_react (callback : CallbackGrows t p onPush) {reactions : List Reaction}
    (meant : ∀ reaction ∈ reactions, ∀ text, reaction.inbound? = some text → Permits t p b text)
    (permitted : ScriptPermits t p b) :
    Grows t p b (reactions.foldl (Bridge.react onPush t) b) := by
  induction reactions generalizing b with
  | nil => exact refl b
  | cons reaction reactions ih =>
    have first : Grows t p b (b.react onPush t reaction) :=
      react callback (meant reaction (by simp)) permitted
    refine first.trans (ih (fun later mem text same => ?_) (first.scriptPermits permitted))
    exact first.permits (meant later (List.mem_cons_of_mem _ mem) text same)

/-- The reactions that come next are taken out of the script. -/
theorem nextReactions {reactions : List Reaction} (h : b.nextReactions t = some (reactions, b')) :
    Grows t p b b' ∧ reactions ∈ b.script t := by
  unfold Bridge.nextReactions at h
  split at h
  · rename_i conference head script present
    obtain ⟨rfl, rfl⟩ := Prod.mk.inj (Option.some.inj h)
    have whole : b.script t = head :: script := by rw [Bridge.script, present]; rfl
    refine ⟨updateTransport rfl ?_, ?_⟩
    · rw [whole]
      exact List.suffix_cons head script
    · rw [whole]
      exact List.mem_cons_self
  · cases h

/-- Calls nest as deep as the script goes; the induction is on the bound of that depth. -/
theorem followScript (depth : Nat) : CallbackGrows t p (Bridge.followScript t depth) := by
  induction depth with
  | zero => exact fun _ b _ => refl b
  | succ depth ih =>
    intro constraints b permitted
    unfold Bridge.followScript
    cases next : b.nextReactions t with
    | none => exact refl b
    | some found =>
      obtain ⟨reactions, b'⟩ := found
      obtain ⟨taken, listed⟩ := nextReactions (p := p) next
      have begun : Grows t p b (b'.emit (.reacting t constraints)) := taken.trans (emit trivial)
      refine begun.trans (foldl_react ih (fun reaction mem text feeds => ?_)
        (begun.scriptPermits permitted))
      refine begun.permits (permitted text ?_)
      exact List.mem_filterMap.2 ⟨reaction, List.mem_flatten.2 ⟨reactions, listed, mem⟩, feeds⟩

/-- What a transport does with a text grows the trace by messages that this text and the script's
    texts permit. -/
theorem receive (source : Source) {text : String} (meant : Permits t p b text)
    (permitted : ScriptPermits t p b) : Grows t p b (b.receive t source text) :=
  receiveWith (followScript (b.scriptLength t)) source meant permitted

end Grows

end Bridge

end ControlChannel
