import ControlChannel.Proofs.Bridge.Occurrence
import ControlChannel.Proofs.Bridge.Slots

/-!
# Where transports stand

Most of what a bridge does is to count, to log and to pass frames on. What is left if one looks away
from that is where each transport stands: its channels, the inputs of its constraints, and whether
it and its endpoint are there; and of the trace, what was written about constraints. Each part of
the bridge's work either leaves this view of it alone or changes it in one way.
-/

namespace ControlChannel

/-- Where a transport stands. -/
structure Standing where
  endpointId : String
  channels : ChannelPair
  inputs : ConstraintInputs
  generation : Nat
  pushed : Nat
  /-- Its endpoint is there. -/
  attended : Bool
  live : Bool

/-- Where the transport stands. -/
def Transport.standing (tr : Transport) : Standing where
  endpointId := tr.endpointId
  channels := tr.channels
  inputs := tr.inputs
  generation := tr.generation
  pushed := tr.pushed
  attended := tr.endpoint.isSome
  live := tr.live

namespace Event

/-- The event is about constraints: they were computed, pushed, or found to be out of date. -/
def aboutConstraints : Event → Bool
  | computed _ _ | pushed _ _ => true
  | logged entry => entry.isSuperseded
  | _ => false

end Event

namespace Standing

/-- An input is set. -/
def set (st : Standing) (update : ConstraintInputs → ConstraintInputs) : Standing :=
  { st with
    inputs := update st.inputs
    generation := st.generation + 1
    pushed := max st.pushed (st.generation + 1) }

/-- What is written about constraints when an input is set. -/
def eventsOf (st : Standing) (t : TransportId) (update : ConstraintInputs → ConstraintInputs) :
    List Event :=
  .computed t (update st.inputs) ::
    if st.generation + 1 < st.pushed then [.logged (.superseded st.endpointId (st.generation + 1))]
    else if st.attended then [.pushed t ((update st.inputs).constraints.erase st.endpointId)]
    else []

end Standing

/-- Where the transports of a bridge stand, and what was written about constraints. -/
structure View where
  standing : TransportId → Option Standing
  events : List Event

namespace View

/-- One transport comes to stand elsewhere. -/
def update (v : View) (t : TransportId) (f : Standing → Standing) : View :=
  { v with standing := fun u => if u = t then (v.standing u).map f else v.standing u }

/-- More is written about constraints. -/
def add (v : View) (events : List Event) : View :=
  { v with events := v.events ++ events }

variable {v : View} {t : TransportId} {f g : Standing → Standing}

@[simp] theorem add_nil (v : View) : v.add [] = v := by
  simp [add]

theorem add_add (v : View) (events more : List Event) :
    (v.add events).add more = v.add (events ++ more) := by
  simp [add]

theorem update_add (v : View) (events : List Event) (t : TransportId) (f : Standing → Standing) :
    (v.add events).update t f = (v.update t f).add events := rfl

theorem update_congr (same : ∀ st, v.standing t = some st → f st = g st) :
    v.update t f = v.update t g := by
  unfold update
  congr 1
  funext u
  by_cases here : u = t
  · subst here
    cases found : v.standing u with
    | none => rfl
    | some st => simp [same st found]
  · simp [here]

theorem update_eq_self (same : ∀ st, v.standing t = some st → f st = st) : v.update t f = v := by
  have kept : (fun u => if u = t then (v.standing u).map id else v.standing u) = v.standing := by
    funext u
    simp
  rw [update_congr (g := id) same, update, kept]

theorem update_update (v : View) (t : TransportId) (f g : Standing → Standing) :
    (v.update t f).update t g = v.update t (g ∘ f) := by
  unfold update
  congr 1
  funext u
  by_cases here : u = t <;> simp [here]

end View

namespace Bridge

/-- The view of a bridge. -/
def view (b : Bridge) : View where
  standing t := b.transports[t]?.map (·.standing)
  events := b.trace.filter (·.aboutConstraints)

variable {b b' : Bridge} {t : TransportId}

/-- The view has every event about constraints of the trace. -/
theorem filter_events_view {p : Event → Bool}
    (shown : ∀ e, p e = true → e.aboutConstraints = true) (b : Bridge) :
    b.view.events.filter p = b.trace.filter p := by
  unfold view
  rw [List.filter_filter]
  congr 1
  funext e
  cases picked : p e with
  | false => rfl
  | true => rw [shown e picked, Bool.and_true]

/-! ## What the view does not show -/

theorem view_emit (b : Bridge) (e : Event) :
    (b.emit e).view = b.view.add ([e].filter (·.aboutConstraints)) := by
  simp [view, emit, View.add]

theorem view_emit_of_not {e : Event} (other : e.aboutConstraints = false) (b : Bridge) :
    (b.emit e).view = b.view := by
  rw [view_emit, List.filter_cons_of_neg (by simp [other]), List.filter_nil, View.add_nil]

@[simp] theorem view_count (b : Bridge) (m : Metric) : (b.count m).view = b.view :=
  view_emit_of_not rfl b

theorem view_log {entry : LogEntry} (other : entry.isSuperseded = false) (b : Bridge) :
    (b.log entry).view = b.view :=
  view_emit_of_not (e := .logged entry) other b

@[simp] theorem view_setSocket (b : Bridge) (s : SocketId) (state : Socket) :
    (b.setSocket s state).view = b.view := rfl

@[simp] theorem view_setDataChannel (b : Bridge) (d : DataChannelId) (state : DataChannel) :
    (b.setDataChannel d state).view = b.view := rfl

@[simp] theorem view_updateStatistics (b : Bridge) (t : TransportId) (f : Statistics → Statistics) :
    (b.updateStatistics t f).view = b.view := rfl

theorem view_updateTransport {f : Transport → Transport} {g : Standing → Standing}
    (stands : ∀ tr, (f tr).standing = g tr.standing) (b : Bridge) (t : TransportId) :
    (b.updateTransport t f).view = b.view.update t g := by
  unfold view updateTransport View.update
  congr 1
  funext u
  rw [List.getElem?_modify]
  by_cases here : u = t
  · subst here
    cases found : b.transports[u]? with
    | none => simp [found]
    | some tr => simp [found, stands]
  · simp [here, Ne.symm here]

theorem view_updateTransport_of_same {f : Transport → Transport}
    (stands : ∀ tr, (f tr).standing = tr.standing) (b : Bridge) (t : TransportId) :
    (b.updateTransport t f).view = b.view := by
  rw [view_updateTransport (g := id) stands]
  exact View.update_eq_self fun _ _ => rfl

theorem view_sendOn {channel : Channel} {text : String} (h : b.sendOn channel text = .ok b') :
    b'.view = b.view := by
  cases channel with
  | socket s =>
    cases sent : (b.socket s).send text with
    | error e => simp [sendOn, sent] at h
    | ok state =>
      obtain rfl : (b.setSocket s state).emit (.accepted (.socket s) (.text text)) = b' := by
        simpa [sendOn, sent] using h
      rw [view_emit_of_not rfl, view_setSocket]
  | dataChannel d =>
    cases refused : (b.dataChannel d).refusal with
    | some e => simp [sendOn, refused] at h
    | none =>
      obtain rfl : b.emit (.accepted (.dataChannel d) (.text text)) = b' := by
        simpa [sendOn, refused] using h
      rw [view_emit_of_not rfl]

@[simp] theorem view_closeSession (b : Bridge) (s : SocketId) (status : UInt16) (reason : String) :
    (b.closeSession s status reason).view = b.view := by
  unfold closeSession
  obtain ⟨state, closing⟩ := (b.socket s).close status reason
  cases closing with
  | already => rfl
  | queued => exact view_emit_of_not rfl _
  | unqueued e => exact view_log rfl _

@[simp] theorem view_sendVia (b : Bridge) (t : TransportId) (channel : Channel)
    (message : Message) : (b.sendVia t channel message).view = b.view := by
  unfold sendVia
  dsimp only
  cases sent : (b.log _).sendOn channel message.encode with
  | ok b' =>
    dsimp only
    rw [view_count, view_updateStatistics, view_sendOn sent, view_log rfl]
  | error e =>
    dsimp only
    rw [view_log rfl, view_count, view_log rfl]

@[simp] theorem view_dispatch (b : Bridge) (t : TransportId) (channel : Option Channel)
    (message : Message) : (b.dispatch t channel message).view = b.view := by
  cases channel with
  | none =>
    unfold dispatch
    dsimp only
    rw [view_log rfl, view_count]
    refine view_updateTransport_of_same ?_ b t
    intro tr
    rfl
  | some channel =>
    unfold dispatch
    dsimp only
    rw [view_sendVia]
    refine view_updateTransport_of_same ?_ b t
    intro tr
    rfl

@[simp] theorem view_reply (b : Bridge) (t : TransportId) (channel : Option Channel)
    (message : Message) : (b.reply t channel message).view = b.view := by
  cases channel with
  | none => exact view_dispatch b t none message
  | some channel => exact view_sendVia b t channel message

@[simp] theorem view_countReceived (b : Bridge) (t : TransportId) (channel : ChannelKind) :
    (b.countReceived t channel).view = b.view :=
  view_count _ _

@[simp] theorem view_notifyConnected (b : Bridge) (t : TransportId) :
    (b.notifyConnected t).view = b.view := by
  rw [notifyConnected, view_emit_of_not rfl, view_log rfl]

theorem view_relay (b : Bridge) (sender : String) (conference : Option ConferenceId)
    (message : EndpointMessage) : (b.relay sender conference message).2.view = b.view := by
  unfold relay relayIn
  cases (b.rosterOf conference).filter (¬ ·.2.expired) with
  | none =>
    dsimp only
    rw [view_count, view_log rfl]
  | some found =>
    obtain ⟨c, roster⟩ := found
    dsimp only
    cases Route.resolve sender roster (message.stamp sender) with
    | unknownTarget target =>
      dsimp only [Route.delivery]
      rw [view_count, view_log rfl]
    | noConference =>
      dsimp only [Route.delivery]
      rw [view_count, view_log rfl]
    | _ =>
      dsimp only [Route.delivery]
      rw [view_count, view_emit_of_not rfl, view_log rfl]

@[simp] theorem view_displaceSocket (b : Bridge) (t : TransportId) (s : SocketId) :
    (b.displaceSocket t s).view = b.view := by
  unfold displaceSocket
  cases (b.transport t).channels.socket with
  | none => rfl
  | some old =>
    by_cases same : old = s
    · simp [same]
    · dsimp only
      rw [if_neg same, view_closeSession, view_log rfl]

/-- What does not set an input is not seen, apart from an answer to it. -/
theorem view_handle_of_no_update {message : Message} (setsNone : message.update? = none)
    (b : Bridge) (t : TransportId) : (b.handle ignore t message).view = b.view := by
  cases message with
  | clientHello => rfl
  | lastN value =>
    unfold handle
    dsimp only
    cases (b.transport t).endpoint with
    | none => exact view_log rfl b
    | some endpoint => exact view_emit_of_not rfl b
  | endpointMessage m => exact view_relay _ _ _ _
  | pinnedEndpoint id => cases setsNone
  | pinnedEndpoints ids => cases setsNone
  | selectedEndpoint id => cases setsNone
  | selectedEndpoints ids => cases setsNone
  | receiverVideoConstraint height => cases setsNone
  | _ =>
    unfold handle
    dsimp only
    rw [view_log rfl, view_count]

/-! ## Channels -/

/-- Where a transport stands, if it is there. -/
theorem standing_view (b : Bridge) (t : TransportId) {st : Standing}
    (found : b.view.standing t = some st) : (b.transport t).standing = st := by
  obtain ⟨tr, present, rfl⟩ := Option.map_eq_some_iff.1 found
  rw [transport, List.getD_eq_getElem?_getD, present, Option.getD_some]

/-- New channels for a transport, made from the ones that it has. -/
theorem view_setChannels (b : Bridge) (t : TransportId) (f : ChannelPair → ChannelPair) :
    (b.setChannels t (f (b.transport t).channels)).view =
      b.view.update t fun st => { st with channels := f st.channels } := by
  rw [setChannels, view_updateTransport (g := fun st =>
    { st with channels := f (b.transport t).channels }) fun _ => rfl]
  refine View.update_congr fun st found => ?_
  rw [← standing_view b t found]
  rfl

/-- The channels of a transport that may get new ones. -/
theorem view_setChannels_of_some {channels : ChannelPair} (f : ChannelPair → Option ChannelPair)
    (made : f (b.transport t).channels = some channels) : (b.setChannels t channels).view =
      b.view.update t fun st => { st with channels := (f st.channels).getD st.channels } := by
  have got : channels = (f (b.transport t).channels).getD (b.transport t).channels := by
    rw [made, Option.getD_some]
  rw [got]
  exact view_setChannels b t fun p => (f p).getD p

theorem view_of_none (f : ChannelPair → Option ChannelPair)
    (none : f (b.transport t).channels = none) :
    b.view = b.view.update t fun st => { st with channels := (f st.channels).getD st.channels } := by
  refine (View.update_eq_self fun st found => ?_).symm
  rw [← standing_view b t found]
  have kept : (f (b.transport t).standing.channels) = Option.none := none
  rw [kept]
  rfl

theorem view_takeSocket (b : Bridge) (t : TransportId) (s : SocketId) :
    (b.takeSocket t s).2.view =
      b.view.update t fun st => { st with channels := (st.channels.clearSocket s).getD st.channels } := by
  unfold takeSocket
  cases made : (b.transport t).channels.clearSocket s with
  | none => exact view_of_none (·.clearSocket s) made
  | some channels => exact view_setChannels_of_some (·.clearSocket s) made

theorem view_giveUpSocket (b : Bridge) (t : TransportId) :
    (b.giveUpSocket t).2.view =
      b.view.update t fun st => { st with channels := st.channels.dropSocket } := by
  unfold giveUpSocket
  cases current : (b.transport t).channels.socket with
  | none =>
    refine (View.update_eq_self fun st found => ?_).symm
    rw [← standing_view b t found]
    have empty : (b.transport t).standing.channels.dropSocket = (b.transport t).channels := by
      rw [ChannelPair.dropSocket, ← current]
      rfl
    rw [empty]
    rfl
  | some s =>
    dsimp only
    rw [view_closeSession]
    exact view_setChannels b t (·.dropSocket)

theorem view_putSocket {greet : Bridge → Bridge} (unseen : ∀ b, (greet b).view = b.view)
    (b : Bridge) (t : TransportId) (s : SocketId) : (b.putSocket t s greet).view =
      b.view.update t fun st => { st with channels := st.channels.putSocket s } := by
  unfold putSocket
  dsimp only
  rw [unseen, ← view_displaceSocket b t s]
  exact view_setChannels (b.displaceSocket t s) t (·.putSocket s)

theorem view_openSocket (b : Bridge) (buffer : Nat) : (b.openSocket buffer).2.view = b.view := by
  unfold openSocket addSocket
  cases Socket.create buffer with
  | ok state => rfl
  | error e => rfl

theorem view_updateEndpoint (b : Bridge) (t : TransportId) (f : Endpoint → Endpoint) :
    (b.updateEndpoint t f).view = b.view := by
  refine view_updateTransport_of_same ?_ b t
  intro tr
  simp [Transport.standing]

/-- A data channel takes the slot, unless one that is alive is there. -/
theorem view_putDataChannel (b : Bridge) (t : TransportId) (d : DataChannelId) :
    (b.attempt (b.putDataChannel t d)).2.view = b.view.update t fun st =>
      { st with channels :=
          if (b.liveDataChannel t).isNone then st.channels.putDataChannel d else st.channels } := by
  unfold putDataChannel
  cases b.liveDataChannel t with
  | none => exact view_setChannels b t (·.putDataChannel d)
  | some old => exact (View.update_eq_self fun _ _ => rfl).symm

theorem view_installDataChannel (b : Bridge) (t : TransportId) (d : DataChannelId) :
    (b.attempt (b.installDataChannel t d)).2.view =
      (b.attempt (b.putDataChannel t d)).2.view := by
  unfold installDataChannel
  cases b.putDataChannel t d with
  | error misuse => rfl
  | ok b' =>
    have noted : (if (b'.dataChannel d).ready then (b'.setDataChannel d
        { b'.dataChannel d with listener := some t }).notifyConnected t else b'.setDataChannel d
          { b'.dataChannel d with listener := some t }).view = b'.view := by
      split
      · rw [view_notifyConnected, view_setDataChannel]
      · rw [view_setDataChannel]
    exact noted

theorem view_markSocket (b : Bridge) (t : TransportId) (s : SocketId) :
    ((b.markSocket t s).getD b).view = b.view.update t fun st =>
      { st with channels := (st.channels.markSocket s).getD st.channels } := by
  unfold markSocket
  cases made : (b.transport t).channels.markSocket s with
  | none => exact view_of_none (·.markSocket s) made
  | some channels => exact view_setChannels_of_some (·.markSocket s) made

theorem view_markDataChannel (b : Bridge) (t : TransportId) : (b.markDataChannel t).view =
    b.view.update t fun st => { st with channels := st.channels.markDataChannel } :=
  view_setChannels b t (·.markDataChannel)

/-! ## Inputs of constraints -/

/-- Setting an input moves the inputs, the generation and what was pushed, and writes down what was
    computed and whether it was pushed. -/
theorem view_updateConstraints (b : Bridge) (t : TransportId)
    (update : ConstraintInputs → ConstraintInputs) :
    (b.updateConstraints ignore t update).view =
      (b.view.update t (·.set update)).add ((b.transport t).standing.eventsOf t update) := by
  let inputs := update (b.transport t).inputs
  let generation := (b.transport t).generation + 1
  let computed : Standing → Standing := fun st =>
    { st with inputs := inputs, generation := generation }
  let pushed : Standing → Standing := fun st => { st with pushed := generation }
  have viewComputed : ((b.updateTransport t fun tr =>
      { tr with inputs := inputs, generation := generation }).emit (.computed t inputs)).view =
        (b.view.update t computed).add [.computed t inputs] := by
    rw [view_emit, view_updateTransport (g := computed) fun _ => rfl]
    rfl
  have viewPushed (b : Bridge) : (b.updateTransport t fun tr =>
      { tr with pushed := generation }).view = b.view.update t pushed :=
    view_updateTransport (fun _ => rfl) b t
  unfold updateConstraints Standing.eventsOf
  dsimp only
  split
  · rename_i late
    have behind : (b.transport t).standing.generation + 1 < (b.transport t).standing.pushed := late
    have kept : b.view.update t computed = b.view.update t (·.set update) := by
      refine View.update_congr fun st found => ?_
      rw [← standing_view b t found]
      unfold Standing.set
      rw [Nat.max_eq_left (Nat.le_of_lt behind)]
      rfl
    rw [if_pos behind, log, view_emit, viewComputed, kept, View.add_add]
    rfl
  · rename_i newest
    have ahead : ¬ (b.transport t).standing.generation + 1 < (b.transport t).standing.pushed :=
      newest
    have both : (b.view.update t computed).update t pushed = b.view.update t (·.set update) := by
      rw [View.update_update]
      refine View.update_congr fun st found => ?_
      rw [← standing_view b t found]
      unfold Standing.set
      rw [Nat.max_eq_right (Nat.not_lt.1 ahead)]
      rfl
    rw [if_neg ahead]
    cases there : (b.transport t).endpoint with
    | none =>
      have alone : (b.transport t).standing.attended = false := by
        rw [Transport.standing, there]
        rfl
      dsimp only
      rw [view_log rfl, view_log rfl, viewPushed, viewComputed, View.update_add, both, alone]
      rfl
    | some endpoint =>
      have attended : (b.transport t).standing.attended = true := by
        rw [Transport.standing, there]
        rfl
      dsimp only [ignore]
      rw [view_emit, view_log rfl, viewPushed, viewComputed, View.update_add, both, View.add_add,
        attended]
      rfl

end Bridge

end ControlChannel
