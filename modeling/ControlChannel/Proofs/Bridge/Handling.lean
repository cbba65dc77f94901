import ControlChannel.Proofs.Bridge.Books

/-!
# Two bridges that handle a message

Many laws compare two runs: of a bridge, and of one that differs from it in some part that does not
matter. Whatever the part is, the argument is the same: a relation between two bridges that is kept
when the same small write is made to both of them, and under which both read the same wherever work
depends on what it reads, is kept by that work. Here the work is what comes of a text. What hands
something to the endpoint or to its conference is left to the relation, since a bridge may differ
from another in who is there to be handed it.
-/

namespace ControlChannel

namespace Event

/-- The event hands nothing to an endpoint or a conference, and does not tell of a channel. -/
def isPlain : Event → Bool
  | pushed _ _ | lastN _ _ | delivered _ _ _ _ | connected _ _ => false
  | _ => true

/-- Something was given to an endpoint or to a conference. -/
def isGift : Event → Bool
  | pushed _ _ | lastN _ _ | delivered _ _ _ _ => true
  | _ => false

/-- The event may be written while a message is handled for this transport. -/
def isOf (t : TransportId) : Event → Bool
  | pushed u _ | lastN u _ => u == t
  | connected _ _ => false
  | _ => true

theorem isGift_of_isPlain {e : Event} (plain : e.isPlain = true) : e.isGift = false := by
  cases e <;> first | rfl | cases plain

theorem isOf_of_isPlain {e : Event} (plain : e.isPlain = true) (t : TransportId) :
    e.isOf t = true := by
  cases e <;> first | rfl | cases plain

end Event

namespace Transport

/-- The transport apart from its channels and its endpoint. -/
def inner (tr : Transport) : Transport :=
  { tr with channels := {}, endpoint := none }

/-- A change of a transport in which its channels and its endpoint have no part, and which keeps its
    id and where it counts. -/
structure Inner (f : Transport → Transport) : Prop where
  apart : ∀ tr channels endpoint, f { tr with channels := channels, endpoint := endpoint } =
    { f tr with channels := channels, endpoint := endpoint }
  endpointId : ∀ tr, (f tr).endpointId = tr.endpointId
  statistics : ∀ tr, (f tr).statistics = tr.statistics

/-- Such a change leaves the channels and the endpoint as they are. -/
theorem Inner.keeps {f : Transport → Transport} (h : Inner f) (tr : Transport) :
    (f tr).channels = tr.channels ∧ (f tr).endpoint = tr.endpoint := by
  have same := h.apart tr tr.channels tr.endpoint
  exact ⟨congrArg (·.channels) same, congrArg (·.endpoint) same⟩

/-- It can be made before or after a change of these. -/
theorem Inner.comm {f : Transport → Transport} (h : Inner f) (g : ChannelPair → ChannelPair)
    (k : Option Endpoint → Option Endpoint) (tr : Transport) :
    f { tr with channels := g tr.channels, endpoint := k tr.endpoint } =
      { f tr with channels := g (f tr).channels, endpoint := k (f tr).endpoint } := by
  rw [h.apart, (h.keeps tr).1, (h.keeps tr).2]

end Transport

namespace Bridge

open Transport

variable {b b' : Bridge} {t : TransportId} {R : Bridge → Bridge → Prop}

/-- Gives constraints to the endpoint of a transport, if it is there. -/
def give (onPush : Callback) (t : TransportId) (constraints : SenderConstraints) (b : Bridge) :
    Bridge :=
  match (b.transport t).endpoint with
  | some _ => onPush constraints (b.emit (.pushed t constraints))
  | none => b.log (.constraintsUndelivered (b.transport t).endpointId)

/-! ## Handling a message -/

/-- Two transports that are the same apart from their channels and endpoints have the same other
    parts. -/
theorem read_of_inner {α : Type} {tr tr' : Transport} (part : Transport → α)
    (only : ∀ tr : Transport, part tr.inner = part tr) (same : tr'.inner = tr.inner) :
    part tr' = part tr := by
  rw [← only, same, only]

/-- An endpoint that follows its script, so deep, keeps the relation. -/
abbrev Follows (t : TransportId) (R : Bridge → Bridge → Prop) (depth : Nat) : Prop :=
  ∀ constraints {b b' : Bridge}, R b b' →
    R (followScript t depth constraints b) (followScript t depth constraints b')

/-- An endpoint that does nothing keeps it. -/
theorem follows_zero (t : TransportId) (R : Bridge → Bridge → Prop) : Follows t R 0 :=
  fun _ _ _ related => related

/-- A relation between two bridges that is kept by whatever comes of a message for a transport. -/
structure Handles (t : TransportId) (R : Bridge → Bridge → Prop) : Prop where
  inner {b b' : Bridge} : R b b' → (b'.transport t).inner = (b.transport t).inner
  emit {b b' : Bridge} {e : Event} : e.isPlain = true → R b b' → R (b.emit e) (b'.emit e)
  update {b b' : Bridge} {f : Transport → Transport} : Inner f → R b b' →
    R (b.updateTransport t f) (b'.updateTransport t f)
  /-- Constraints are given to the endpoint, which follows its script. -/
  give {b b' : Bridge} {depth : Nat} (constraints : SenderConstraints) : Follows t R depth →
    R b b' →
      R (b.give (followScript t depth) t constraints) (b'.give (followScript t depth) t constraints)
  /-- A number of senders is given to the endpoint. -/
  lastN {b b' : Bridge} (value : Int32) : R b b' →
    R (b.handle ignore t (.lastN value)) (b'.handle ignore t (.lastN value))
  /-- A message is given to the endpoint's conference. -/
  relay {b b' : Bridge} (m : EndpointMessage) : R b b' →
    R (b.handle ignore t (.endpointMessage m)) (b'.handle ignore t (.endpointMessage m))

namespace Handles

theorem log (h : Handles t R) (entry : LogEntry) (related : R b b') :
    R (b.log entry) (b'.log entry) :=
  h.emit rfl related

theorem count (h : Handles t R) (metric : Metric) (related : R b b') :
    R (b.count metric) (b'.count metric) :=
  h.emit rfl related

theorem read {α : Type} (h : Handles t R) (part : Transport → α)
    (only : ∀ tr : Transport, part tr.inner = part tr) (related : R b b') :
    part (b'.transport t) = part (b.transport t) :=
  read_of_inner part only (h.inner related)

theorem endpointId (h : Handles t R) (related : R b b') :
    (b'.transport t).endpointId = (b.transport t).endpointId :=
  h.read (·.endpointId) (fun _ => rfl) related

theorem config (h : Handles t R) (related : R b b') :
    (b'.transport t).config = (b.transport t).config :=
  h.read (·.config) (fun _ => rfl) related

end Handles

/-! ## Where both endpoints are the same -/

section Endpoint

variable (emit : ∀ {b b' : Bridge} {e : Event}, e.isPlain = true → R b b' → R (b.emit e) (b'.emit e))
  (hand : ∀ {b b' : Bridge} {e : Event}, (b.transport t).endpoint.isSome = true → e.isOf t = true →
    R b b' → R (b.emit e) (b'.emit e))

include emit hand

/-- A message is relayed alike for an endpoint in a conference. -/
theorem relay_congr {sender : String} (conference : Option ConferenceId) (m : EndpointMessage)
    (attended : conference.isSome = true → (b.transport t).endpoint.isSome = true)
    (same : b'.conferences = b.conferences) (related : R b b') :
    R (b.relay sender conference m).2 (b'.relay sender conference m).2 := by
  have noted {c c' : Bridge} {entry : LogEntry} {metric : Metric} (related : R c c') :
      R ((c.log entry).count metric) ((c'.log entry).count metric) := emit rfl (emit rfl related)
  have sameRoster : b'.rosterOf conference = b.rosterOf conference := by
    unfold rosterOf
    rw [same]
  unfold relay relayIn
  rw [sameRoster]
  cases found : (b.rosterOf conference).filter (¬ ·.2.expired) with
  | none => exact noted related
  | some pair =>
    obtain ⟨c, roster⟩ := pair
    have joined : conference.isSome = true := by
      cases conference with
      | none => cases found
      | some c => rfl
    have handed (entry : LogEntry) (targets : List String) (relayRemote : Bool) (metric : Metric) :
        R (((b.log entry).emit (.delivered c (m.stamp sender) targets relayRemote)).count metric)
          (((b'.log entry).emit (.delivered c (m.stamp sender) targets relayRemote)).count metric) :=
      emit rfl (hand (attended joined) rfl (emit (b := b) (e := .logged entry) rfl related))
    dsimp only
    cases Route.resolve sender roster (m.stamp sender) with
    | broadcast targets => exact handed _ _ _ _
    | unicast target => exact handed _ _ _ _
    | remote => exact handed _ _ _ _
    | unknownTarget target => exact noted related
    | noConference => exact noted related

/-- What is handed to an endpoint is handed alike in two bridges that have the same one. -/
theorem Handles.of_endpoint
    (inner : ∀ {b b' : Bridge}, R b b' → (b'.transport t).inner = (b.transport t).inner)
    (endpoint : ∀ {b b' : Bridge}, R b b' → (b'.transport t).endpoint = (b.transport t).endpoint)
    (conferences : ∀ {b b' : Bridge}, R b b' → b'.conferences = b.conferences)
    (update : ∀ {b b' : Bridge} {f : Transport → Transport}, Inner f → R b b' →
      R (b.updateTransport t f) (b'.updateTransport t f)) : Handles t R where
  inner := inner
  emit := emit
  update := update
  give := by
    intro b b' depth constraints follows related
    unfold Bridge.give
    rw [endpoint related, read_of_inner (·.endpointId) (fun _ => rfl) (inner related)]
    cases there : (b.transport t).endpoint with
    | none => exact emit rfl related
    | some e => exact follows _ (hand (by simp [there]) (beq_self_eq_true t) related)
  lastN := by
    intro b b' value related
    unfold Bridge.handle
    dsimp only
    rw [endpoint related, read_of_inner (·.endpointId) (fun _ => rfl) (inner related)]
    cases there : (b.transport t).endpoint with
    | none => exact emit rfl related
    | some e => exact hand (by simp [there]) (beq_self_eq_true t) related
  relay := by
    intro b b' m related
    unfold Bridge.handle
    dsimp only
    rw [endpoint related, read_of_inner (·.endpointId) (fun _ => rfl) (inner related)]
    refine relay_congr emit hand _ m ?_ (conferences related) related
    intro joined
    cases there : (b.transport t).endpoint with
    | none => simp [there] at joined
    | some e => rfl

end Endpoint

/-- Once the inputs are set and the generation is raised, the constraints are given. -/
theorem updateConstraints_eq_give (onPush : Callback)
    (update : ConstraintInputs → ConstraintInputs) (b : Bridge) :
    b.updateConstraints onPush t update =
      let tr := b.transport t
      let inputs := update tr.inputs
      let generation := tr.generation + 1
      let constraints := inputs.constraints.erase tr.endpointId
      let b := (b.updateTransport t fun tr =>
        { tr with inputs := inputs, generation := generation }).emit (.computed t inputs)
      if generation < tr.pushed then b.log (.superseded tr.endpointId generation)
      else ((b.updateTransport t fun tr => { tr with pushed := generation }).log
        (.newConstraints tr.endpointId constraints.size generation)).give onPush t constraints := by
  unfold updateConstraints give
  dsimp only
  split
  · rfl
  · -- The two changes keep the endpoint and the id of the transport.
    have kept {α : Type} (part : Transport → α) (inputs : ConstraintInputs) (generation : Nat)
        (entry : LogEntry)
        (inputsApart : ∀ tr : Transport, part { tr with inputs, generation } = part tr)
        (pushedApart : ∀ tr : Transport, part { tr with pushed := generation } = part tr) :
        part ((((b.updateTransport t fun tr => { tr with inputs, generation }).emit
          (.computed t inputs)).updateTransport t fun tr =>
            { tr with pushed := generation }).log entry |>.transport t) = part (b.transport t) :=
      (transport_updateTransport_keeps part pushedApart _ t t).trans
        (transport_updateTransport_keeps part inputsApart b t t)
    cases there : (b.transport t).endpoint <;>
      rw [kept (·.endpoint) _ _ _ (fun _ => rfl) fun _ => rfl,
        kept (·.endpointId) _ _ _ (fun _ => rfl) fun _ => rfl, there]

/-- A message that sets an input does so after a log entry with the id of the transport. -/
theorem handle_eq_updateConstraints {message : Message}
    {set : ConstraintInputs → ConstraintInputs} (sets : message.update? = some set) :
    ∃ entry : String → LogEntry, ∀ onPush (b : Bridge), b.handle onPush t message =
      (b.log (entry (b.transport t).endpointId)).updateConstraints onPush t set := by
  cases message with
  | pinnedEndpoint id =>
    cases sets
    exact ⟨.pinsChanged, fun _ _ => rfl⟩
  | pinnedEndpoints ids =>
    cases sets
    exact ⟨.pinsChanged, fun _ _ => rfl⟩
  | selectedEndpoint id =>
    cases sets
    exact ⟨.selectionChanged, fun _ _ => rfl⟩
  | selectedEndpoints ids =>
    cases sets
    exact ⟨.selectionChanged, fun _ _ => rfl⟩
  | receiverVideoConstraint height =>
    cases sets
    exact ⟨(.heightReceived · height), fun _ _ => rfl⟩
  | _ => cases sets

namespace Handles

variable {depth : Nat}

theorem updateConstraints (h : Handles t R) (follows : Follows t R depth)
    (set : ConstraintInputs → ConstraintInputs) (related : R b b') :
    R (b.updateConstraints (followScript t depth) t set)
      (b'.updateConstraints (followScript t depth) t set) := by
  have inputs := h.read (·.inputs) (fun _ => rfl) related
  have generation := h.read (·.generation) (fun _ => rfl) related
  have pushed := h.read (·.pushed) (fun _ => rfl) related
  rw [updateConstraints_eq_give, updateConstraints_eq_give]
  dsimp only
  rw [inputs, generation, pushed, h.endpointId related]
  have computed : R ((b.updateTransport t fun tr => { tr with
        inputs := set (b.transport t).inputs
        generation := (b.transport t).generation + 1 }).emit (.computed t (set (b.transport t).inputs)))
      ((b'.updateTransport t fun tr => { tr with
        inputs := set (b.transport t).inputs
        generation := (b.transport t).generation + 1 }).emit
          (.computed t (set (b.transport t).inputs))) :=
    h.emit rfl (h.update ⟨fun _ _ _ => rfl, fun _ => rfl, fun _ => rfl⟩ related)
  split
  · exact h.log _ computed
  · exact h.give _ follows (h.log _ (h.update ⟨fun _ _ _ => rfl, fun _ => rfl, fun _ => rfl⟩ computed))

/-- A message that sets an input. -/
theorem handle_of_update (h : Handles t R) (follows : Follows t R depth) {message : Message}
    {set : ConstraintInputs → ConstraintInputs} (sets : message.update? = some set)
    (related : R b b') :
    R (b.handle (followScript t depth) t message) (b'.handle (followScript t depth) t message) := by
  obtain ⟨entry, told⟩ := handle_eq_updateConstraints (t := t) sets
  rw [told, told, h.endpointId related]
  exact h.updateConstraints follows set (h.log _ related)

theorem handle (h : Handles t R) (follows : Follows t R depth) (message : Message)
    (related : R b b') :
    R (b.handle (followScript t depth) t message) (b'.handle (followScript t depth) t message) := by
  cases sets : message.update? with
  | some set => exact h.handle_of_update follows sets related
  | none =>
    cases message with
    | clientHello => exact related
    | lastN value => exact h.lastN value related
    | endpointMessage m => exact h.relay m related
    | pinnedEndpoint pin => cases sets
    | pinnedEndpoints pins => cases sets
    | selectedEndpoint pin => cases sets
    | selectedEndpoints pins => cases sets
    | receiverVideoConstraint height => cases sets
    | _ =>
      unfold Bridge.handle
      dsimp only
      rw [h.endpointId related]
      exact h.log _ (h.count _ related)

/-- A text is read and handled alike, also where the answers to a hello go to different channels. -/
theorem handleText (h : Handles t R) (follows : Follows t R depth) {channel channel' : Option Channel}
    (answers : ∀ {c c' : Bridge}, R c c' → R (c.reply t channel .hello) (c'.reply t channel' .hello))
    (text : String) (related : R b b') :
    R (b.handleText (followScript t depth) t channel text)
      (b'.handleText (followScript t depth) t channel' text) := by
  unfold Bridge.handleText
  dsimp only
  rw [h.config related, h.endpointId related]
  cases readText (b.transport t).config.maxInboundBytes text with
  | error e => exact h.log _ (h.count _ related)
  | ok message =>
    have handled := h.count (.handled message.kind) (h.handle follows message related)
    dsimp only
    cases owed : message.reply? with
    | none => exact handled
    | some answer =>
      have hello : answer = .hello := by
        cases message <;> cases owed
        rfl
      subst hello
      exact answers handled

end Handles

end Bridge

end ControlChannel
