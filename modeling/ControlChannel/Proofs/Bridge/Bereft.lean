import ControlChannel.Proofs.Bridge.Bisimulation
import ControlChannel.Proofs.Bridge.Connections
import ControlChannel.Proofs.Bridge.PushOrder

/-!
# Transports without an endpoint

A transport goes on when its endpoint is gone. It hands nothing to the endpoint any more, nor to the
endpoint's conference, and notes that instead; messages for other endpoints come to nothing. All else
goes as it would go with an endpoint that does nothing with what it is given.
-/

namespace ControlChannel

/-- The entry tells of a message that this endpoint sent to others, or of something that could not be
    given to it. -/
def LogEntry.isMissed (id : String) : LogEntry → Bool
  | relaying own _ _ _ | targetUnknown own _ | conferenceMissing own | constraintsUndelivered own
  | lastNUndelivered own => own == id
  | _ => false

/-- The operation gives the endpoint of this transport nothing to do. -/
def Operation.leavesIdle (t : TransportId) : Operation → Bool
  | .transport u (.rehearse script) => u != t || script.isEmpty
  | _ => true

/-- The metric without the route that it tells of. -/
def Metric.unrouted : Metric → Metric
  | routed _ => .routed .noConference
  | metric => metric

namespace Event

/-- What is left of an event if nobody looks at what a transport hands to its endpoint and to the
    conference of its endpoint, at what it logs about that, and at the routes of messages. -/
def spared? (t : TransportId) (id : String) : Event → Option Event
  | pushed u constraints => if u = t then none else some (.pushed u constraints)
  | lastN u value => if u = t then none else some (.lastN u value)
  | delivered c m targets relayRemote =>
      if m.sender = some id then none else some (.delivered c m targets relayRemote)
  | logged entry => if entry.isMissed id then none else some (.logged entry)
  | counted metric => some (.counted metric.unrouted)
  | e => some e

/-- The endpoint of a transport was given constraints or a number of senders. -/
def isGiven (t : TransportId) : Event → Bool
  | pushed u _ | lastN u _ => u == t
  | _ => false

theorem isGiven_of_isPlain (t : TransportId) {e : Event} (plain : e.isPlain = true) :
    e.isGiven t = false := by
  cases e <;> first | rfl | cases plain

theorem isGiven_of_isOf {t u : TransportId} (other : u ≠ t) {e : Event} (own : e.isOf u = true) :
    e.isGiven t = false := by
  cases e with
  | pushed v constraints => exact beq_false_of_ne (eq_of_beq own ▸ other)
  | lastN v value => exact beq_false_of_ne (eq_of_beq own ▸ other)
  | _ => rfl

/-- What tells nothing of gifts and logs, nor of routes, can be seen from what is left of an event. -/
theorem bind_spared {α : Type} {f : Event → Option α} {t : TransportId} {id : String}
    (given : ∀ e : Event, e.isGift = true → f e = none) (logged : ∀ entry, f (.logged entry) = none)
    (counted : ∀ metric, f (.counted metric.unrouted) = f (.counted metric)) (e : Event) :
    (e.spared? t id).bind f = f e := by
  have hidden (c : Prop) [Decidable c] (e : Event) (nothing : f e = none) :
      (if c then none else some e).bind f = f e := by
    split
    · exact nothing.symm
    · rfl
  cases e with
  | logged entry => exact hidden _ _ (logged entry)
  | counted metric => exact counted metric
  | pushed u constraints => exact hidden _ _ (given _ rfl)
  | lastN u value => exact hidden _ _ (given _ rfl)
  | delivered c m targets relayRemote => exact hidden _ _ (given _ rfl)
  | _ => rfl

end Event

/-- No operation brings an endpoint back to a transport. -/
theorem TransportOperation.endpoint_of_change {operation : TransportOperation}
    {f : Transport → Transport} (changes : operation.change? = some f) (tr : Transport)
    (absent : tr.endpoint = none) : (f tr).endpoint = none := by
  cases operation with
  | dropEndpoint =>
    cases changes
    rfl
  | dropTransport =>
    cases changes
    exact absent
  | joinConference c =>
    cases changes
    exact congrArg (Option.map _) absent
  | rehearse script =>
    cases changes
    exact congrArg (Option.map _) absent
  | _ => cases changes

namespace Bridge

variable {b b' : Bridge} {t u : TransportId} {id : String}

/-- The second bridge is the first one with the endpoint of a transport gone, and with a trace that
    may be another. In the first one, that endpoint has nothing left that it will do. -/
inductive Bereft (t : TransportId) (id : String) (alike : List Event → List Event → Prop) :
    Bridge → Bridge → Prop where
  | intro {b : Bridge} (trace : List Event) : alike b.trace trace → b.script t = [] →
      (b.transport t).endpointId = id →
        Bereft t id alike b { b.dropEndpoint t with trace := trace }

/-- Both traces went on in the same way. -/
def GoesOn (alike : List Event → List Event → Prop) : Prop :=
  ∀ e {trace trace' : List Event}, alike trace trace' → alike (trace ++ [e]) (trace' ++ [e])

/-- The traces are the same as far as it does not matter whether the endpoint is there. -/
def SpareAlike (t : TransportId) (id : String) (trace trace' : List Event) : Prop :=
  trace'.filterMap (·.spared? t id) = trace.filterMap (·.spared? t id)

theorem SpareAlike.emit {e e' : Event} {trace trace' : List Event}
    (same : e'.spared? t id = e.spared? t id) (alike : SpareAlike t id trace trace') :
    SpareAlike t id (trace ++ [e]) (trace' ++ [e']) := by
  unfold SpareAlike at *
  rw [List.filterMap_append, List.filterMap_append, alike, List.filterMap_cons, List.filterMap_cons,
    same]

/-- What can be seen of an event from what is left of it is the same in such traces. -/
theorem SpareAlike.filterMap {α : Type} {f : Event → Option α} {trace trace' : List Event}
    (given : ∀ e : Event, e.isGift = true → f e = none) (logged : ∀ entry, f (.logged entry) = none)
    (counted : ∀ metric, f (.counted metric.unrouted) = f (.counted metric))
    (alike : SpareAlike t id trace trace') : trace'.filterMap f = trace.filterMap f := by
  have via (trace : List Event) :
      trace.filterMap f = (trace.filterMap (·.spared? t id)).filterMap f := by
    rw [List.filterMap_filterMap]
    exact List.filterMap_congr fun e _ => (Event.bind_spared given logged counted e).symm
  rw [via, alike, ← via]

theorem endpoint_dropEndpoint (b : Bridge) (t : TransportId) :
    ((b.dropEndpoint t).transport t).endpoint = none := by
  unfold dropEndpoint
  rcases transport_updateTransport_cases b t fun tr => { tr with endpoint := none } with
    gone | ⟨-, absent⟩
  · rw [gone]
  · rw [absent]
    rfl

namespace Bereft

variable {alike : List Event → List Event → Prop}

/-- What leaves the transports and the trace alone. -/
theorem map {F : Bridge → Bridge} (apart : ∀ trace, F { b.dropEndpoint t with trace := trace } =
      { (F b).dropEndpoint t with trace := trace })
    (transports : (F b).transports = b.transports) (trace : (F b).trace = b.trace)
    (bereft : Bereft t id alike b b') : Bereft t id alike (F b) (F b') := by
  rcases bereft with ⟨written, spares, idle, own⟩
  rw [apart]
  have same : (F b).transport t = b.transport t := by rw [transport, transports, transport]
  refine .intro written ?_ ?_ ?_
  · rw [trace]
    exact spares
  · rw [script, same]
    exact idle
  · rw [same]
    exact own

theorem emit {e e' : Event}
    (same : ∀ {trace trace'}, alike trace trace' → alike (trace ++ [e]) (trace' ++ [e']))
    (bereft : Bereft t id alike b b') : Bereft t id alike (b.emit e) (b'.emit e') := by
  rcases bereft with ⟨trace, spares, idle, own⟩
  exact .intro (b := b.emit e) (trace ++ [e']) (same spares) idle own

/-- A change of a transport in which the endpoint has no part, or by which it gets no script. -/
theorem updateTransport {f : Transport → Transport} (u : TransportId)
    (apart : t = u → ∀ tr : Transport, f { tr with endpoint := none } =
      { f tr with endpoint := none })
    (idle : t = u → ∀ tr : Transport, (tr.endpoint.map Endpoint.script).getD [] = [] →
      ((f tr).endpoint.map Endpoint.script).getD [] = [])
    (own : ∀ tr, (f tr).endpointId = tr.endpointId) (bereft : Bereft t id alike b b') :
    Bereft t id alike (b.updateTransport u f) (b'.updateTransport u f) := by
  rcases bereft with ⟨trace, spares, nothing, named⟩
  have comm : (b.dropEndpoint t).updateTransport u f = (b.updateTransport u f).dropEndpoint t :=
    updateTransport_comm b apart
  have same : Bridge.updateTransport { b.dropEndpoint t with trace := trace } u f =
      { (b.updateTransport u f).dropEndpoint t with trace := trace } :=
    congrArg (fun b : Bridge => { b with trace := trace }) comm
  rw [same]
  refine .intro trace spares ?_ ((transport_updateTransport_keeps _ own b u t).trans named)
  by_cases here : t = u
  · subst here
    rcases transport_updateTransport_cases b t f with moved | ⟨-, absent⟩
    · rw [script, moved]
      exact idle rfl _ nothing
    · rw [script, absent]
      rfl
  · rw [script, transport_updateTransport_ne (Ne.symm here)]
    exact nothing

theorem endpoint (bereft : Bereft t id alike b b') : (b'.transport t).endpoint = none := by
  rcases bereft with ⟨trace, -, -, -⟩
  exact endpoint_dropEndpoint b t

/-- Apart from the endpoint, every transport is the same. -/
theorem transport (bereft : Bereft t id alike b b') (u : TransportId) :
    b'.transport u = (b.dropEndpoint t).transport u := by
  rcases bereft with ⟨trace, -, -, -⟩
  rfl

/-- A part of a transport in which the endpoint has no part is the same. -/
theorem read {α : Type} (part : Transport → α)
    (only : ∀ tr : Transport, part { tr with endpoint := none } = part tr)
    (bereft : Bereft t id alike b b') (u : TransportId) :
    part (b'.transport u) = part (b.transport u) := by
  rw [bereft.transport]
  exact transport_updateTransport_keeps part only b t u

/-- Another transport is the same. -/
theorem transport_ne (bereft : Bereft t id alike b b') (other : u ≠ t) :
    b'.transport u = b.transport u := by
  rw [bereft.transport]
  exact transport_updateTransport_ne (Ne.symm other) b _

theorem sockets (bereft : Bereft t id alike b b') : b'.sockets = b.sockets := by
  rcases bereft with ⟨trace, -, -, -⟩
  rfl

theorem dataChannels (bereft : Bereft t id alike b b') : b'.dataChannels = b.dataChannels := by
  rcases bereft with ⟨trace, -, -, -⟩
  rfl

theorem conferences (bereft : Bereft t id alike b b') : b'.conferences = b.conferences := by
  rcases bereft with ⟨trace, -, -, -⟩
  rfl

theorem statistics (bereft : Bereft t id alike b b') : b'.statistics = b.statistics := by
  rcases bereft with ⟨trace, -, -, -⟩
  rfl

theorem trace (bereft : Bereft t id alike b b') : alike b.trace b'.trace := by
  rcases bereft with ⟨trace, alike, -, -⟩
  exact alike

theorem idle (bereft : Bereft t id alike b b') : b.script t = [] := by
  rcases bereft with ⟨trace, -, idle, -⟩
  exact idle

theorem own (bereft : Bereft t id alike b b') : (b.transport t).endpointId = id := by
  rcases bereft with ⟨trace, -, -, own⟩
  exact own

theorem endpointId (bereft : Bereft t id alike b b') : (b'.transport t).endpointId = id :=
  (bereft.read (·.endpointId) (fun _ => rfl) t).trans bereft.own

/-- The traces can be compared in another way from now on. -/
theorem weaken {now : List Event → List Event → Prop} (bereft : Bereft t id alike b b')
    (holds : now b.trace b'.trace) : Bereft t id now b b' := by
  rcases bereft with ⟨trace, -, idle, own⟩
  exact .intro trace holds idle own

/-! ### Handling a message -/

/-- An endpoint without a script does nothing. -/
theorem followScript_of_idle (idle : b.script t = []) (depth : Nat)
    (constraints : SenderConstraints) : followScript t depth constraints b = b := by
  cases depth with
  | zero => rfl
  | succ depth =>
    unfold followScript
    rw [nextReactions_eq, idle]
    rfl

/-- What happens to another transport is the same. -/
theorem handles_ne (goesOn : GoesOn alike) (other : u ≠ t) : Handles u (Bereft t id alike) :=
  .of_endpoint (fun _ bereft => bereft.emit (goesOn _)) (fun _ _ bereft => bereft.emit (goesOn _))
    (fun bereft => bereft.read Transport.inner (fun _ => rfl) u)
    (fun bereft => by rw [bereft.transport_ne other]) conferences
    (fun inner bereft => bereft.updateTransport u (fun here => absurd here.symm other)
      (fun here => absurd here.symm other) inner.endpointId)

section Spared

variable (bereft : Bereft t id (SpareAlike t id) b b')

include bereft

/-- Events of which the same is left. -/
theorem emit_both {e e' : Event} (same : e'.spared? t id = e.spared? t id) :
    Bereft t id (SpareAlike t id) (b.emit e) (b'.emit e') :=
  bereft.emit fun alike => alike.emit same

/-- An event of which nothing is left. -/
theorem emit_left {e : Event} (unseen : e.spared? t id = none) :
    Bereft t id (SpareAlike t id) (b.emit e) b' := by
  rcases bereft with ⟨trace, alike, idle, own⟩
  refine .intro (b := b.emit e) trace ?_ idle own
  rw [SpareAlike, Bridge.emit, List.filterMap_append, List.filterMap_cons_none unseen]
  exact Eq.trans alike (List.append_nil _).symm

theorem emit_right {e : Event} (unseen : e.spared? t id = none) :
    Bereft t id (SpareAlike t id) b (b'.emit e) := by
  rcases bereft with ⟨trace, alike, idle, own⟩
  refine .intro (b := b) (trace ++ [e]) ?_ idle own
  rw [SpareAlike, List.filterMap_append, List.filterMap_cons_none unseen]
  exact (List.append_nil _).trans alike

theorem give (depth : Nat) (constraints : SenderConstraints) :
    Bereft t id (SpareAlike t id) (b.give (followScript t depth) t constraints)
      (b'.give (followScript t depth) t constraints) := by
  unfold Bridge.give
  rw [bereft.endpoint, bereft.endpointId, bereft.own]
  cases (b.transport t).endpoint with
  | none => exact bereft.emit_both rfl
  | some e =>
    dsimp only
    have idle : (b.emit (.pushed t constraints)).script t = [] := bereft.idle
    rw [followScript_of_idle idle]
    exact bereft.emit_both (by simp [Event.spared?, LogEntry.isMissed])

theorem lastN (value : Int32) : Bereft t id (SpareAlike t id)
    (b.handle ignore t (.lastN value)) (b'.handle ignore t (.lastN value)) := by
  unfold Bridge.handle
  dsimp only
  rw [bereft.endpoint, bereft.endpointId, bereft.own]
  cases (b.transport t).endpoint with
  | none => exact bereft.emit_both rfl
  | some e => exact bereft.emit_both (by simp [Event.spared?, LogEntry.isMissed])

/-- A message is relayed, or it is noted that there is nobody to relay it for. -/
theorem relay (m : EndpointMessage) : Bereft t id (SpareAlike t id)
    (b.handle ignore t (.endpointMessage m)) (b'.handle ignore t (.endpointMessage m)) := by
  unfold Bridge.handle
  dsimp only
  rw [bereft.endpoint, bereft.endpointId, bereft.own]
  -- Whatever comes of the message, it ends with a route; what precedes that is not looked at.
  have missing : Bereft t id (SpareAlike t id) b (b'.log (.conferenceMissing id)) :=
    bereft.emit_right (by simp [Event.spared?, LogEntry.isMissed])
  have routed {c : Bridge} (label : Route.Label)
      (bereft : Bereft t id (SpareAlike t id) c (b'.log (.conferenceMissing id))) :
      Bereft t id (SpareAlike t id) (c.count (.routed label)) (b'.relay id none m).2 :=
    bereft.emit_both rfl
  have delivered (label : Route.Label) (c : ConferenceId) (targets : List String)
      (relayRemote : Bool) : Bereft t id (SpareAlike t id)
        (((b.log (.relaying id label targets.length relayRemote)).emit
          (.delivered c (m.stamp id) targets relayRemote)).count (.routed label))
        (b'.relay id none m).2 :=
    routed label (emit_left (emit_left missing (by simp [Event.spared?, LogEntry.isMissed]))
      (by simp [Event.spared?, EndpointMessage.stamp]))
  have noted (entry : LogEntry) (missed : entry.isMissed id = true) (label : Route.Label) :
      Bereft t id (SpareAlike t id) ((b.log entry).count (.routed label)) (b'.relay id none m).2 :=
    routed label (emit_left missing (by simp [Event.spared?, missed]))
  have own : (id == id) = true := beq_self_eq_true id
  unfold Bridge.relay Bridge.relayIn
  cases (b.rosterOf _).filter (¬ ·.2.expired) with
  | none => exact noted (.conferenceMissing id) own .noConference
  | some pair =>
    obtain ⟨c, roster⟩ := pair
    dsimp only
    cases Route.resolve id roster (m.stamp id) with
    | broadcast targets => exact delivered .broadcast c targets true
    | unicast target => exact delivered .unicast c [target] false
    | remote => exact delivered .remote c [] true
    | unknownTarget target => exact noted (.targetUnknown id target) own .unknownTarget
    | noConference => exact noted (.conferenceMissing id) own .noConference

end Spared

theorem goesOn_spareAlike (t : TransportId) (id : String) : GoesOn (SpareAlike t id) :=
  fun _ _ _ alike => alike.emit rfl

/-- A change in which the endpoint has no part. -/
theorem change {f : Transport → Transport} (inner : Transport.Inner f)
    (bereft : Bereft t id alike b b') :
    Bereft t id alike (b.updateTransport u f) (b'.updateTransport u f) := by
  refine bereft.updateTransport u (fun _ => inner.comm (fun p => p) fun _ => none) (fun _ tr idle => ?_)
    inner.endpointId
  rw [(inner.keeps tr).2]
  exact idle

theorem handles (t : TransportId) (id : String) (u : TransportId) :
    Handles u (Bereft t id (SpareAlike t id)) := by
  by_cases here : u = t
  · subst here
    exact {
      inner := fun bereft => bereft.read Transport.inner (fun _ => rfl) u
      emit := fun _ bereft => bereft.emit_both rfl
      update := fun inner bereft => bereft.change inner
      give := fun constraints _ bereft => bereft.give _ constraints
      lastN := fun value bereft => bereft.lastN value
      relay := fun m bereft => bereft.relay m }
  · exact handles_ne (goesOn_spareAlike t id) here

/-! ### Everything else -/

theorem lockstep (handles : Handles u (Bereft t id alike)) : Lockstep u (Bereft t id alike) where
  toHandles := handles
  sockets := sockets
  dataChannels := dataChannels
  channels bereft := bereft.read (·.channels.detached) (fun _ => rfl) u
  liveDataChannel bereft := by
    have slot := bereft.read (·.channels.dataChannel) (fun _ => rfl) u
    unfold Bridge.liveDataChannel dataChannel
    rw [slot, bereft.dataChannels]
  script bereft := by
    by_cases here : u = t
    · subst here
      rw [bereft.idle, script, bereft.endpoint]
      rfl
    · rw [script, bereft.transport_ne here]
      rfl
  setSocket s state bereft := bereft.map (F := (Bridge.setSocket · s state)) (fun _ => rfl) rfl rfl
  updateStatistics {b _} f bereft := by
    refine bereft.map (F := (Bridge.updateStatistics · u f)) (fun trace => ?_) rfl rfl
    have counts : ((b.dropEndpoint t).transport u).statistics = (b.transport u).statistics := by
      refine transport_updateTransport_keeps (·.statistics) (fun _ => ?_) b t u
      rfl
    have counted := congrArg (fun σ => b.statistics.modify σ f) counts
    exact congrArg (fun counts => { b.dropEndpoint t with statistics := counts, trace := trace })
      counted
  move g apart bereft :=
    bereft.updateTransport u (fun _ _ => rfl) (fun _ _ idle => idle) fun _ => rfl
  advance bereft := by
    refine bereft.updateTransport u (fun _ _ => rfl) (fun _ tr idle => ?_) fun _ => rfl
    cases there : tr.endpoint with
    | none => rfl
    | some e =>
      have done : e.script = [] := by rwa [there] at idle
      simp [done]

/-- Whatever happens to a transport comes to the same, as long as the endpoint that is gone in one of
    the bridges gets nothing to do in the other. -/
theorem operates (goesOn : GoesOn alike) (handles : Handles u (Bereft t id alike)) :
    Operates u (fun operation => (Operation.transport u operation).leavesIdle t = true)
      (Bereft t id alike) where
  toLockstep := lockstep handles
  tell _ bereft := bereft.emit (goesOn _)
  addSocket state bereft :=
    bereft.map (F := fun b => { b with sockets := b.sockets ++ [state] }) (fun _ => rfl) rfl rfl
  setDataChannel d _ _ bereft :=
    bereft.map (F := (Bridge.setDataChannel · d _)) (fun _ => rfl) rfl rfl
  putDataChannel d _ bereft := by
    rw [setChannels_eq _ u (·.putDataChannel d), setChannels_eq _ u (·.putDataChannel d)]
    exact bereft.updateTransport u (fun _ _ => rfl) (fun _ _ idle => idle) fun _ => rfl
  change := by
    intro b b' operation f changes leaves bereft
    cases operation with
    | dropEndpoint =>
      cases changes
      exact bereft.updateTransport u (fun _ _ => rfl) (fun _ _ _ => rfl) fun _ => rfl
    | dropTransport =>
      cases changes
      exact bereft.updateTransport u (fun _ _ => rfl) (fun _ _ idle => idle) fun _ => rfl
    | joinConference c =>
      cases changes
      refine bereft.updateTransport u (fun _ _ => rfl) (fun _ tr idle => ?_) fun _ => rfl
      cases there : tr.endpoint with
      | none => rfl
      | some e => rwa [there] at idle
    | rehearse script =>
      cases changes
      refine bereft.updateTransport u (fun _ _ => rfl) (fun here tr _ => ?_) fun _ => rfl
      subst here
      have nothing : script = [] := by simpa [Operation.leavesIdle] using leaves
      subst nothing
      cases tr.endpoint <;> rfl
    | _ => cases changes

theorem bisimulation (t : TransportId) (id : String) :
    Bisimulation (fun operation => operation.leavesIdle t = true)
      (Bereft t id (SpareAlike t id)) where
  operates u := operates (goesOn_spareAlike t id) (handles t id u)
  isHeld {b _} s bereft := by
    rcases bereft with ⟨trace, -, -, -⟩
    have held : (b.dropEndpoint t).isHeld s = b.isHeld s := by
      refine isHeld_updateTransport (fun _ => ?_) b t s
      rfl
    exact held
  addDataChannel ready bereft :=
    bereft.map (F := fun b => (b.addDataChannel ready).2) (fun _ => rfl) rfl rfl
  expire c bereft := bereft.map (F := (Bridge.expire · c)) (fun _ => rfl) rfl rfl

/-- With the endpoint gone in one bridge, and left with nothing to do in the other. -/
theorem start (b : Bridge) (t : TransportId) :
    let id := (b.transport t).endpointId
    Bereft t id (SpareAlike t id) (b.updateEndpoint t fun e => { e with script := [] })
      (b.dropEndpoint t) := by
  intro id
  let kept := b.updateEndpoint t fun e => { e with script := [] }
  have gone : b.dropEndpoint t = { kept.dropEndpoint t with trace := b.trace } := by
    unfold kept dropEndpoint updateEndpoint Bridge.updateTransport
    dsimp only
    rw [List.modify_modify_eq]
    rfl
  rw [gone]
  refine .intro (b := kept) b.trace rfl ?_ ?_
  · unfold script kept updateEndpoint
    rcases transport_updateTransport_cases b t fun tr =>
      { tr with endpoint := tr.endpoint.map fun e => { e with script := [] } } with
      moved | ⟨-, absent⟩
    · rw [moved]
      cases (b.transport t).endpoint <;> rfl
    · rw [absent]
      rfl
  · unfold kept updateEndpoint
    refine transport_updateTransport_keeps (·.endpointId) (fun _ => ?_) b t t
    rfl

/-- An operation is the same for the same transport. -/
theorem occasion (bereft : Bereft t id alike b b') (operation : Operation) :
    b'.occasion? operation = b.occasion? operation := by
  have live : b'.isLive = b.isLive := funext (bereft.read (·.live) fun _ => rfl)
  have listener : b'.listener = b.listener := by
    funext d
    unfold Bridge.listener Bridge.dataChannel
    rw [live, bereft.dataChannels]
  cases operation <;> simp only [occasion?, listener]

/-- What happens to another transport writes the same in both bridges. -/
theorem written (bereft : Bereft t id alike b b') (other : u ≠ t) {operation : Operation}
    {asked : TransportOperation} (occasion : b.occasion? operation = some (u, asked)) :
    ∃ events, (b.step operation).2.trace = b.trace ++ events ∧
      (b'.step operation).2.trace = b'.trace ++ events := by
  -- The traces differ in the past, so they are compared by what is added to them from now on.
  let wrote (trace trace' : List Event) : Prop :=
    ∃ events, trace = b.trace ++ events ∧ trace' = b'.trace ++ events
  have goesOn : GoesOn wrote := by
    rintro e _ _ ⟨events, rfl, rfl⟩
    exact ⟨events ++ [e], List.append_assoc _ _ _, List.append_assoc _ _ _⟩
  have now : Bereft t id wrote b b' :=
    bereft.weaken ⟨[], (List.append_nil _).symm, (List.append_nil _).symm⟩
  rw [Tracked.step_of_occasion occasion,
    Tracked.step_of_occasion ((bereft.occasion operation).trans occasion)]
  have leaves : (Operation.transport u asked).leavesIdle t = true := by
    unfold Operation.leavesIdle
    cases asked <;> simp [other]
  exact ((operates goesOn (handles_ne goesOn other)).stepTransport leaves now).2.trace

end Bereft

/-! ## Nothing is handed over -/

/-- The endpoint of a transport is gone, and of the marked events just these were written. -/
structure Unwritten (t : TransportId) (mark : Event → Bool) (written : List Event) (b : Bridge) :
    Prop where
  absent : (b.transport t).endpoint = none
  trace : b.trace.filter mark = written

namespace Unwritten

variable {mark : Event → Bool} {written : List Event}

theorem emit {e : Event} (unmarked : mark e = false) (holds : Unwritten t mark written b) :
    Unwritten t mark written (b.emit e) := by
  refine ⟨holds.absent, ?_⟩
  rw [Bridge.emit, List.filter_append, holds.trace,
    List.filter_cons_of_neg (Bool.eq_false_iff.1 unmarked)]
  exact List.append_nil _

/-- A change by which no endpoint comes to a transport. -/
theorem update {f : Transport → Transport} (stays : ∀ tr, tr.endpoint = none → (f tr).endpoint = none)
    (holds : Unwritten t mark written b) : Unwritten t mark written (b.updateTransport u f) := by
  refine ⟨?_, holds.trace⟩
  by_cases here : u = t
  · subst here
    rcases transport_updateTransport_cases b u f with moved | ⟨-, absent⟩
    · rw [moved]
      exact stays _ holds.absent
    · rw [absent]
      rfl
  · rw [transport_updateTransport_ne here]
    exact holds.absent

/-- Without its endpoint, events that only tell of what is handed to it stay unwritten. Which events
    tell of what is handed to the endpoints of other transports is left to the caller. -/
theorem stays (plain : ∀ e : Event, e.isPlain = true → mark e = false)
    (connected : ∀ u id, mark (.connected u id) = false)
    (others : u ≠ t → ∀ e : Event, e.isOf u = true → mark e = false) (written : List Event) :
    Stays u (fun _ => True) (Unwritten t mark written) where
  emit own := Unwritten.emit (plain _ own)
  hand := by
    intro b e there own holds
    by_cases here : u = t
    · subst here
      rw [holds.absent] at there
      cases there
    · exact holds.emit (others here e own)
  setSocket _ _ holds := ⟨holds.absent, holds.trace⟩
  updateStatistics _ holds := ⟨holds.absent, holds.trace⟩
  update _ keeps := Unwritten.update fun tr absent => by
    have same := keeps tr
    rw [absent] at same
    exact Option.isNone_iff_eq_none.1 (Option.isSome_eq_false_iff.1 same)
  tell _ := Unwritten.emit (connected _ _)
  addSocket _ holds := ⟨holds.absent, holds.trace⟩
  setDataChannel _ _ _ holds := ⟨holds.absent, holds.trace⟩
  setChannels _ := Unwritten.update fun _ => id
  change changes _ := Unwritten.update (TransportOperation.endpoint_of_change changes)

end Unwritten

/-- What happens to a transport without an endpoint hands nothing to anybody. -/
theorem gifts_step (absent : (b.transport t).endpoint = none) {operation : Operation}
    {asked : TransportOperation} (occasion : b.occasion? operation = some (t, asked)) :
    (b.step operation).2.trace.filter (·.isGift) = b.trace.filter (·.isGift) := by
  rw [Tracked.step_of_occasion occasion]
  have stays : Stays t (fun _ => True) (Unwritten t (·.isGift) (b.trace.filter (·.isGift))) :=
    Unwritten.stays (fun _ => Event.isGift_of_isPlain) (fun _ _ => rfl) (absurd rfl) _
  exact (stays.stepTransport trivial ⟨absent, rfl⟩).trace

/-- An endpoint that is gone is given nothing, whatever happens. -/
theorem given_run (absent : (b.transport t).endpoint = none) (operations : List Operation) :
    (b.run operations).trace.filter (·.isGiven t) = b.trace.filter (·.isGiven t) := by
  have stays (u : TransportId) : Stays u (fun _ => True)
      (Unwritten t (·.isGiven t) (b.trace.filter (·.isGiven t))) :=
    Unwritten.stays (fun _ => Event.isGiven_of_isPlain t) (fun _ _ => rfl)
      (fun other _ => Event.isGiven_of_isOf other) _
  have bisimulation : Bisimulation (fun _ => True) fun c c' => c' = c ∧
      Unwritten t (·.isGiven t) (b.trace.filter (·.isGiven t)) c :=
    .of_stays stays (fun _ holds => ⟨holds.absent, holds.trace⟩)
      fun _ holds => ⟨holds.absent, holds.trace⟩
  exact (bisimulation.run (fun _ _ => trivial) ⟨rfl, absent, rfl⟩).2.2.trace

theorem metrics_hear {source : Source} {heard : Bridge} {channel : Option Channel}
    (hears : b.hear t source = some (heard, channel)) :
    heard.metrics = b.metrics ++ [.received source.kind] := by
  cases source with
  | dataChannel =>
    cases hears
    exact metrics_emit _ _
  | socket s =>
    obtain ⟨marked, mark, same⟩ := Option.map_eq_some_iff.1 hears
    cases same
    obtain ⟨channels, -, moved⟩ := Option.map_eq_some_iff.1 mark
    subst moved
    exact metrics_emit _ _

/-- A message for other endpoints goes nowhere without the endpoint it comes from. -/
theorem metrics_step_endpointMessage (absent : (b.transport t).endpoint = none)
    {operation : Operation} {source : Source} {text : String} {m : EndpointMessage}
    (occasion : b.occasion? operation = some (t, .receive source text))
    (taken : Occurrence.message? ⟨b, t, .receive source text⟩ = some (.endpointMessage m)) :
    (b.step operation).2.metrics = b.metrics ++
      [.received source.kind, .routed .noConference, .handled .endpointMessage] := by
  cases hear : b.hear t source with
  | none =>
    obtain ⟨s, rfl, other⟩ := hear_eq_none hear
    have unheard : b.hears t (.socket s) = false := beq_false_of_ne other
    simp [Occurrence.message?, unheard] at taken
  | some found =>
    obtain ⟨heard, channel⟩ := found
    obtain ⟨hears, -, kept, moved⟩ := hear_eq_some text hear
    have read : readText (heard.transport t).config.maxInboundBytes text =
        .ok (.endpointMessage m) := by
      simp only [Occurrence.message?, hears, if_true] at taken
      rw [moved]
      cases found : readText (b.transport t).config.maxInboundBytes text with
      | error e => simp [found, Except.toOption] at taken
      | ok message =>
        rw [found] at taken
        cases taken
        rfl
    have gone : (heard.transport t).endpoint = none := by rw [moved, absent]
    have missing : heard.handle (followScript t (b.scriptLength t)) t (.endpointMessage m) =
        (heard.log (.conferenceMissing (heard.transport t).endpointId)).count
          (.routed .noConference) := by
      unfold handle
      dsimp only
      rw [gone]
      rfl
    have received : (b.step operation).2 =
        b.receiveWith (followScript t (b.scriptLength t)) t source text :=
      Tracked.step_of_occasion occasion
    rw [received, receiveWith_of_read hear read rfl, missing, count, metrics_emit, count, metrics_emit,
      log, metrics_emit, metrics_hear hear, List.append_assoc, List.append_assoc, List.append_assoc]
    rfl

/-- A transport survives its endpoint. Let it be dropped after any run, and let whatever happens later
    be compared with what would have happened if the endpoint had been kept and had done nothing with
    what it is given. Without it, nothing is given to it, what happens to the transport hands nothing
    to any conference, and each message for other endpoints is counted as one without a conference.
    Everything else is the same: the answers to all operations, the transports but for the endpoint
    itself, the channels, the conferences, the statistics, and the trace, of which what happens to
    other transports is the very same, and what happens to this one the same as far as it tells
    neither of what was handed over nor of a route. -/
theorem dropEndpoint_survived (b : Bridge) (t : TransportId) (later : List Operation)
    (idle : ∀ operation ∈ later, operation.leavesIdle t = true) :
    let gone := (b.step (.transport t .dropEndpoint)).2
    let kept := (b.step (.transport t (.rehearse []))).2
    let now := gone.run later
    let other := kept.run later
    (now.trace.filter (·.isGiven t) = b.trace.filter (·.isGiven t) ∧
      ∀ before operation after asked, later = before ++ operation :: after →
        (gone.run before).occasion? operation = some (t, asked) →
          ((gone.run before).step operation).2.trace.filter (·.isGift) =
            (gone.run before).trace.filter (·.isGift) ∧
          ∀ source text m, asked = .receive source text →
            Occurrence.message? ⟨gone.run before, t, asked⟩ = some (.endpointMessage m) →
              ((gone.run before).step operation).2.metrics = (gone.run before).metrics ++
                [.received source.kind, .routed .noConference, .handled .endpointMessage]) ∧
      gone.transcript later = kept.transcript later ∧
      (∀ u, now.transport u = (other.dropEndpoint t).transport u ∧
        now.snapshot u = other.snapshot u ∧ now.activeChannel u = other.activeChannel u ∧
        now.calls u = other.calls u ∧ now.connections u = other.connections u) ∧
      (now.sockets = other.sockets ∧ now.dataChannels = other.dataChannels ∧
        now.conferences = other.conferences ∧ now.statistics = other.statistics ∧
        now.frames = other.frames ∧
        now.metrics.map Metric.unrouted = other.metrics.map Metric.unrouted) ∧
      SpareAlike t (b.transport t).endpointId other.trace now.trace ∧
      ∀ before operation after u asked, later = before ++ operation :: after → u ≠ t →
        (kept.run before).occasion? operation = some (u, asked) →
          ∃ written, ((kept.run before).step operation).2.trace =
              (kept.run before).trace ++ written ∧
            ((gone.run before).step operation).2.trace = (gone.run before).trace ++ written := by
  intro gone kept now other
  have bereft (operations : List Operation) (among : ∀ operation ∈ operations, operation ∈ later) :=
    (Bereft.bisimulation t (b.transport t).endpointId).run (fun _ mem => idle _ (among _ mem))
      (Bereft.start b t)
  have early {before after : List Operation} {operation : Operation}
      (split : later = before ++ operation :: after) :=
    (bereft before fun _ mem => split ▸ List.mem_append_left _ mem).2
  obtain ⟨answers, last⟩ := bereft later fun _ => id
  refine ⟨⟨given_run (endpoint_dropEndpoint b t) later, ?_⟩, answers, ?_, ?_, last.trace, ?_⟩
  · intro before operation after asked split occasion
    have absent : ((gone.run before).transport t).endpoint = none := (early split).endpoint
    refine ⟨gifts_step absent occasion, ?_⟩
    rintro source text m rfl taken
    exact metrics_step_endpointMessage absent occasion taken
  · intro u
    have work := Bereft.lockstep (Bereft.handles t (b.transport t).endpointId u)
    refine ⟨last.transport u, work.snapshot last, work.activeChannel last, ?_, ?_⟩
    · exact last.trace.filterMap (fun e gift => by cases e <;> first | rfl | cases gift)
        (fun _ => rfl) fun _ => rfl
    · exact last.trace.filterMap (fun e gift => by cases e <;> first | rfl | cases gift)
        (fun _ => rfl) fun _ => rfl
  · refine ⟨last.sockets, last.dataChannels, last.conferences, last.statistics, ?_, ?_⟩
    · exact last.trace.filterMap (fun e gift => by cases e <;> first | rfl | cases gift)
        (fun _ => rfl) fun _ => rfl
    · unfold Bridge.metrics
      rw [List.map_filterMap, List.map_filterMap]
      refine last.trace.filterMap (fun e gift => ?_) (fun _ => rfl) fun metric => ?_
      · cases e <;> first | rfl | cases gift
      · cases metric <;> rfl
  · intro before operation after u asked split others occasion
    exact (early split).written others occasion

/-- An endpoint in a conference with another one, heard on its data channel. -/
def conversation : Bridge where
  dataChannels := [{ ready := true, listener := some 0 }]
  conferences := [{ locals := ["a", "b"], remotes := [] }]
  statistics := [{}]
  transports := [{ Transport.create "a" {} (some 0) 0 with channels := { dataChannel := some 0 } }]

/-- A message for all other endpoints. -/
def forOthers : String :=
  "\x7b\"colibriClass\":\"EndpointMessage\",\"to\":\"\"\x7d"

/-- Its client goes on with a number of senders, a pin, a message for the other one and a hello. -/
def afterwards : List Operation :=
  [.deliverText 0 "\x7b\"colibriClass\":\"LastNChangedEvent\",\"lastN\":3\x7d",
    .deliverText 0
      "\x7b\"colibriClass\":\"PinnedEndpointChangedEvent\",\"pinnedEndpoint\":\"b\"\x7d",
    .deliverText 0 forOthers,
    .deliverText 0 "\x7b\"colibriClass\":\"ClientHello\"\x7d"]

theorem dropEndpoint_survived_conversation :
    let gone := (conversation.step (.transport 0 .dropEndpoint)).2
    let kept := (conversation.step (.transport 0 (.rehearse []))).2
    (∀ operation ∈ afterwards, operation.leavesIdle 0 = true) ∧
      (kept.run afterwards).trace.countP (·.isGiven 0) = 2 ∧
      (gone.run afterwards).trace.countP (·.isGiven 0) = 0 ∧
      .routed .broadcast ∈ (kept.run afterwards).metrics ∧
      (gone.run (afterwards.take 3)).metrics = (gone.run (afterwards.take 2)).metrics ++
        [.received .dataChannel, .routed .noConference, .handled .endpointMessage] ∧
      (gone.run afterwards).frames = [(.dataChannel 0, .text Message.hello.encode)] := by
  intro gone kept
  have idle : ∀ operation ∈ afterwards, operation.leavesIdle 0 = true := by decide
  obtain ⟨⟨given, each⟩, -, -, ⟨-, -, -, -, frames, -⟩, -, -⟩ :=
    dropEndpoint_survived conversation 0 afterwards idle
  have listens : (gone.run (afterwards.take 2)).listener 0 = some 0 := by decide +kernel
  have occasion : (gone.run (afterwards.take 2)).occasion? (.deliverText 0 forOthers) =
      some (0, .receive .dataChannel forOthers) := by
    rw [occasion?, listens]
    rfl
  obtain ⟨-, routes⟩ := each (afterwards.take 2) (.deliverText 0 forOthers) _ _ rfl occasion
  have kind : (Occurrence.message? ⟨gone.run (afterwards.take 2), 0,
      .receive .dataChannel forOthers⟩).map Message.kind = some .endpointMessage := by decide +kernel
  obtain ⟨message, taken, kind⟩ := Option.map_eq_some_iff.1 kind
  obtain ⟨m, rfl⟩ : ∃ m, message = .endpointMessage m := by
    cases message <;> first | exact ⟨_, rfl⟩ | cases kind
  have routed := routes .dataChannel forOthers m rfl taken
  have answered : (kept.run afterwards).frames = [(.dataChannel 0, .text Message.hello.encode)] := by
    decide +kernel
  have nothing : (gone.run afterwards).trace.countP (·.isGiven 0) = 0 := by
    rw [List.countP_eq_length_filter]
    exact congrArg List.length given
  exact ⟨idle, by decide +kernel, nothing, by decide +kernel, routed, frames.trans answered⟩

end Bridge

end ControlChannel
