import ControlChannel.Bridge.Operation
import Mathlib.Data.List.Induction

/-!
# What happens to transports

A run of a bridge as the list of everything that happens to its transports, in the order in which it
begins. An endpoint that is given constraints may call its transport again, in the middle of what
the transport is doing; what it asks for then stands in the list right behind the text that led to
it. Each entry tells in which state of the bridge it begins.

A relation that holds across each entry by itself holds across a whole run, and between the start of
a run and every moment of it, the ones inside such calls included.
-/

namespace ControlChannel

/-! ## The last word -/

section Latest

variable {α β : Type} (f : α → Option β) (start : β)

/-- What the last of the entries that say anything says; `start` if none does. -/
def latest (entries : List α) : β :=
  (entries.filterMap f).getLast?.getD start

@[simp] theorem latest_single (entry : α) : latest f start [entry] = (f entry).getD start := by
  unfold latest
  cases said : f entry with
  | none => rw [List.filterMap_cons_none said, List.filterMap_nil]; rfl
  | some value => rw [List.filterMap_cons_some said, List.filterMap_nil]; rfl

theorem latest_append (entries more : List α) :
    latest f start (entries ++ more) = latest f (latest f start entries) more := by
  unfold latest
  rw [List.filterMap_append, List.getLast?_append]
  cases (more.filterMap f).getLast? <;> rfl

/-- What was said last was said by one of the entries, and by none that came after it. -/
theorem latest_cases (entries : List α) :
    (∀ entry ∈ entries, f entry = none) ∧ latest f start entries = start ∨
      ∃ before entry after value, entries = before ++ entry :: after ∧ f entry = some value ∧
        (∀ later ∈ after, f later = none) ∧ latest f start entries = value := by
  induction entries using List.reverseRecOn with
  | nil => exact .inl ⟨List.forall_mem_nil _, rfl⟩
  | append_singleton entries last ih =>
    rw [latest_append, latest_single]
    cases said : f last with
    | some value => exact .inr ⟨entries, last, [], value, rfl, said, List.forall_mem_nil _, rfl⟩
    | none =>
      rcases ih with ⟨silent, kept⟩ | ⟨before, entry, after, value, rfl, spoke, silent, kept⟩
      · refine .inl ⟨List.forall_mem_append.2 ⟨silent, List.forall_mem_singleton.2 said⟩, kept⟩
      · refine .inr ⟨before, entry, after ++ [last], value, ?_, spoke, ?_, kept⟩
        · rw [List.append_assoc]
          rfl
        · exact List.forall_mem_append.2 ⟨silent, List.forall_mem_singleton.2 said⟩

end Latest

/-! ## Occurrences -/

/-- Something that happens to a transport, and the bridge in which it begins. -/
structure Occurrence where
  bridge : Bridge
  transport : TransportId
  operation : TransportOperation

namespace Message

/-- What a message makes of the inputs of the constraints, if it sets one of them. -/
def update? : Message → Option (ConstraintInputs → ConstraintInputs)
  | pinnedEndpoint id => some fun inputs => { inputs with pinned := .ofOption id }
  | pinnedEndpoints ids => some fun inputs => { inputs with pinned := .ofList ids }
  | selectedEndpoint id => some fun inputs => { inputs with selected := .ofOption id }
  | selectedEndpoints ids => some fun inputs => { inputs with selected := .ofList ids }
  | receiverVideoConstraint height => some fun inputs => { inputs with maxFrameHeight := height }
  | _ => none

end Message

namespace LogEntry

/-- The entry tells of constraints that came too late. -/
def isSuperseded : LogEntry → Bool
  | superseded _ _ => true
  | _ => false

end LogEntry

namespace TransportOperation

/-- The text that an operation receives, and where it comes from. -/
def received? : TransportOperation → Option (Source × String)
  | receive source text => some (source, text)
  | _ => none

end TransportOperation

namespace Reaction

/-- What an endpoint asks of its transport by a reaction, if it asks anything that could change it
    and can be read. -/
def operation? : Reaction → Option TransportOperation
  | receive source text => some (.receive source text)
  | send text => (Message.decode text).toOption.map .send
  | clearSocket s status => some (.clearSocket s status "")
  | close => some .close
  | observe => none

/-- An endpoint asks for four things. -/
theorem operation?_cases {reaction : Reaction} {operation : TransportOperation}
    (asks : reaction.operation? = some operation) :
    (∃ source text, operation = .receive source text) ∨ (∃ message, operation = .send message) ∨
      (∃ s status, operation = .clearSocket s status "") ∨ operation = .close := by
  cases reaction with
  | receive source text =>
    cases asks
    exact .inl ⟨source, text, rfl⟩
  | send text =>
    obtain ⟨message, -, rfl⟩ := Option.map_eq_some_iff.1 asks
    exact .inr (.inl ⟨message, rfl⟩)
  | clearSocket s status =>
    cases asks
    exact .inr (.inr (.inl ⟨s, status, rfl⟩))
  | close =>
    cases asks
    exact .inr (.inr (.inr rfl))
  | observe => cases asks

end Reaction

namespace Bridge

/-- An endpoint that does nothing with its constraints. -/
def ignore : Callback := fun _ b => b

/-- The constraints that an endpoint is being given: they were written down last. -/
def justPushed (b : Bridge) (t : TransportId) : Option SenderConstraints :=
  match b.trace.getLast? with
  | some (.pushed u constraints) => if u = t then some constraints else none
  | _ => none

/-- The bridge once a transport has taken note of where a text comes from, and the channel that an
    answer is owed on; none if the text is from a socket that is not the current one. -/
def hear (b : Bridge) (t : TransportId) : Source → Option (Bridge × Option Channel)
  | .socket s => (b.markSocket t s).map fun b => (b.countReceived t .socket, some (.socket s))
  | .dataChannel =>
      let b := b.markDataChannel t
      some (b.countReceived t .dataChannel, (b.liveDataChannel t).map .dataChannel)

/-- The constraints that an endpoint is given because of a text, and the bridge in which it is given
    them; none if it is given none. -/
def pushOf (b : Bridge) (t : TransportId) (source : Source) (text : String) :
    Option (SenderConstraints × Bridge) :=
  match b.hear t source with
  | none => none
  | some (b, _) =>
      match readText (b.transport t).config.maxInboundBytes text with
      | .error _ => none
      | .ok message =>
          if message.update?.isSome then
            let b := b.handle ignore t message
            (b.justPushed t).map fun constraints => (constraints, b)
          else none

/-! ## The list -/

/-- What an endpoint makes happen when it is given constraints. -/
abbrev Consequences := SenderConstraints → Bridge → List Occurrence

/-- An operation of a transport, and behind it what the endpoint makes happen because of it. -/
def occurrencesOf (inner : Consequences) (t : TransportId) (operation : TransportOperation)
    (b : Bridge) : List Occurrence :=
  ⟨b, t, operation⟩ ::
    match operation with
    | .receive source text =>
        match b.pushOf t source text with
        | some (constraints, b) => inner constraints b
        | none => []
    | _ => []

/-- What an endpoint makes happen by its reactions, one after the other. -/
def reactionOccurrences (onPush : Callback) (inner : Consequences) (t : TransportId) :
    List Reaction → Bridge → List Occurrence
  | [], _ => []
  | reaction :: rest, b =>
      ((reaction.operation?.map fun operation => b.occurrencesOf inner t operation).getD []) ++
        reactionOccurrences onPush inner t rest (b.react onPush t reaction)

/-- What an endpoint that follows its script makes happen. -/
def scriptOccurrences (t : TransportId) : Nat → Consequences
  | 0, _, _ => []
  | depth + 1, constraints, b =>
      match b.nextReactions t with
      | some (reactions, b) =>
          reactionOccurrences (followScript t depth) (scriptOccurrences t depth) t reactions
            (b.emit (.reacting t constraints))
      | none => []

/-- What an operation of the bridge is for a transport, if it is anything for one. -/
def occasion? (b : Bridge) : Operation → Option (TransportId × TransportOperation)
  | .transport t operation => some (t, operation)
  | .deliverText d text => (b.listener d).map fun t => (t, .receive .dataChannel text)
  | .deliverBinary d length => (b.listener d).map fun t => (t, .receiveBinary length)
  | _ => none

/-- What happens to transports by one step. -/
def stepOccurrences (b : Bridge) (operation : Operation) : List Occurrence :=
  match b.occasion? operation with
  | some (t, operation) =>
      b.occurrencesOf (scriptOccurrences t (b.scriptLength t)) t operation
  | none => []

/-- What happens to transports in a run. -/
def occurrences (b : Bridge) : List Operation → List Occurrence
  | [] => []
  | operation :: rest => b.stepOccurrences operation ++ (b.step operation).2.occurrences rest

/-- `now` is the bridge at a moment of a run, and `past` is what had happened to transports by then:
    a moment between two steps or after the last one, or one at which something begins to happen. -/
inductive Moment (b : Bridge) (operations : List Operation) : List Occurrence → Bridge → Prop where
  | between (before after : List Operation) (split : operations = before ++ after) :
      Moment b operations (b.occurrences before) (b.run before)
  | within (past : List Occurrence) (o : Occurrence) (future : List Occurrence)
      (split : b.occurrences operations = past ++ o :: future) : Moment b operations past o.bridge

variable {b b' : Bridge} {t : TransportId}

theorem occurrences_append (b : Bridge) (operations more : List Operation) :
    b.occurrences (operations ++ more) =
      b.occurrences operations ++ (b.run operations).occurrences more := by
  induction operations generalizing b with
  | nil => rfl
  | cons operation rest ih =>
    rw [List.cons_append, occurrences, occurrences, ih, List.append_assoc]
    rfl

/-- Each thing in the past began at a moment of its own. -/
theorem Moment.earlier {now : Bridge} {operations : List Operation}
    {before after : List Occurrence} {o : Occurrence}
    (moment : b.Moment operations (before ++ o :: after) now) :
    b.Moment operations before o.bridge := by
  generalize whole : before ++ o :: after = past at moment
  cases moment with
  | between first later split =>
    refine .within before o (after ++ (b.run first).occurrences later) ?_
    rw [split, occurrences_append, ← whole, List.append_assoc]
    rfl
  | within past last future split =>
    refine .within before o (after ++ last :: future) ?_
    rw [split, ← whole, List.append_assoc]
    rfl

/-! ## Where the endpoint is called -/

theorem justPushed_emit_pushed (b : Bridge) (t : TransportId) (constraints : SenderConstraints) :
    (b.emit (.pushed t constraints)).justPushed t = some constraints := by
  simp [justPushed, emit]

theorem justPushed_log (b : Bridge) (t : TransportId) (entry : LogEntry) :
    (b.log entry).justPushed t = none := by
  simp [justPushed, log, emit]

/-- Setting an input calls the endpoint last of all, if it calls it. -/
theorem updateConstraints_eq (onPush : Callback) (update : ConstraintInputs → ConstraintInputs)
    (b : Bridge) : b.updateConstraints onPush t update =
      ((b.updateConstraints ignore t update).justPushed t).elim
        (b.updateConstraints ignore t update)
        fun constraints => onPush constraints (b.updateConstraints ignore t update) := by
  unfold updateConstraints ignore
  dsimp only
  split
  · rw [justPushed_log]
    rfl
  · cases (b.transport t).endpoint with
    | none =>
      dsimp only
      rw [justPushed_log]
      rfl
    | some endpoint =>
      dsimp only
      rw [justPushed_emit_pushed]
      rfl

/-- A message that sets an input does so after a log entry has told of it. -/
theorem handle_of_update {message : Message} {update : ConstraintInputs → ConstraintInputs}
    (sets : message.update? = some update) (b : Bridge) :
    ∃ entry : LogEntry, entry.isSuperseded = false ∧
      ∀ onPush, b.handle onPush t message = (b.log entry).updateConstraints onPush t update := by
  cases message with
  | pinnedEndpoint id =>
    cases sets
    exact ⟨.pinsChanged (b.transport t).endpointId, rfl, fun _ => rfl⟩
  | pinnedEndpoints ids =>
    cases sets
    exact ⟨.pinsChanged (b.transport t).endpointId, rfl, fun _ => rfl⟩
  | selectedEndpoint id =>
    cases sets
    exact ⟨.selectionChanged (b.transport t).endpointId, rfl, fun _ => rfl⟩
  | selectedEndpoints ids =>
    cases sets
    exact ⟨.selectionChanged (b.transport t).endpointId, rfl, fun _ => rfl⟩
  | receiverVideoConstraint height =>
    cases sets
    exact ⟨.heightReceived (b.transport t).endpointId height, rfl, fun _ => rfl⟩
  | _ => cases sets

theorem handle_of_no_update {message : Message} (setsNone : message.update? = none)
    (onPush : Callback) (b : Bridge) : b.handle onPush t message = b.handle ignore t message := by
  cases message <;> first | rfl | cases setsNone

theorem reply?_of_update {message : Message} (sets : message.update?.isSome) :
    message.reply? = none := by
  cases message <;> first | rfl | cases sets

theorem receiveWith_eq (onPush : Callback) (source : Source) (text : String) (b : Bridge) :
    b.receiveWith onPush t source text =
      match b.hear t source with
      | some (b, channel) => b.handleText onPush t channel text
      | none => b.receiveWith ignore t source text := by
  cases source with
  | dataChannel => rfl
  | socket s =>
    unfold receiveWith hear
    dsimp only
    cases b.markSocket t s <;> rfl

/-- A message that gets no answer is handled, and counted then. -/
theorem receiveWith_of_read {source : Source} {text : String} {channel : Option Channel}
    {message : Message} (heard : b.hear t source = some (b', channel))
    (read : readText (b'.transport t).config.maxInboundBytes text = .ok message)
    (noReply : message.reply? = none) (onPush : Callback) :
    b.receiveWith onPush t source text =
      (b'.handle onPush t message).count (.handled message.kind) := by
  rw [receiveWith_eq, heard]
  simp only [handleText, read, noReply]

/-- A text that makes no push is received in the same way whatever the endpoint would do. -/
theorem receiveWith_of_pushOf_eq_none {source : Source} {text : String}
    (noPush : b.pushOf t source text = none) (onPush : Callback) :
    b.receiveWith onPush t source text = b.receiveWith ignore t source text := by
  rw [receiveWith_eq onPush, receiveWith_eq ignore]
  unfold pushOf at noPush
  cases heard : b.hear t source with
  | none => rfl
  | some found =>
    obtain ⟨b', channel⟩ := found
    rw [heard] at noPush
    dsimp only at noPush ⊢
    unfold handleText
    dsimp only
    cases read : readText (b'.transport t).config.maxInboundBytes text with
    | error e => rfl
    | ok message =>
      rw [read] at noPush
      have same : b'.handle onPush t message = b'.handle ignore t message := by
        cases sets : message.update? with
        | none => exact handle_of_no_update sets onPush b'
        | some update =>
          obtain ⟨entry, -, handled⟩ := handle_of_update (t := t) sets b'
          simp only [sets, Option.isSome_some, if_true, Option.map_eq_none_iff] at noPush
          rw [handled ignore] at noPush
          rw [handled onPush, updateConstraints_eq, noPush, handled ignore]
          rfl
      dsimp only
      rw [same]

/-- A text that makes a push is one by which an input is set. It ends with what the endpoint does
    with the push, and with the count of the message. -/
theorem pushOf_eq_some {source : Source} {text : String} {constraints : SenderConstraints}
    (push : b.pushOf t source text = some (constraints, b')) :
    ∃ heard channel message, b.hear t source = some (heard, channel) ∧
      readText (heard.transport t).config.maxInboundBytes text = .ok message ∧
      message.update?.isSome = true ∧ b' = heard.handle ignore t message ∧
      ∀ onPush, b.receiveWith onPush t source text =
        (onPush constraints b').count (.handled message.kind) := by
  unfold pushOf at push
  cases hears : b.hear t source with
  | none =>
    rw [hears] at push
    cases push
  | some found =>
    obtain ⟨heard, channel⟩ := found
    rw [hears] at push
    dsimp only at push
    cases read : readText (heard.transport t).config.maxInboundBytes text with
    | error e =>
      rw [read] at push
      cases push
    | ok message =>
      rw [read] at push
      cases sets : message.update? with
      | none => simp [sets] at push
      | some update =>
        obtain ⟨entry, -, handled⟩ := handle_of_update (t := t) sets heard
        simp only [sets, Option.isSome_some, if_true, Option.map_eq_some_iff, Prod.mk.injEq]
          at push
        obtain ⟨_, given, rfl, rfl⟩ := push
        have noReply : message.reply? = none := reply?_of_update (by simp [sets])
        refine ⟨heard, channel, message, rfl, read, by simp [sets], rfl, fun onPush => ?_⟩
        rw [handled ignore] at given ⊢
        rw [receiveWith_of_read hears read noReply, handled onPush, updateConstraints_eq, given]
        rfl

/-- A message of a data channel that reports to no transport changes nothing. -/
theorem attempt_deliver_of_unreported {d : DataChannelId} (unreported : b.listener d = none)
    (receive : TransportId → Bridge) : (b.attempt (b.deliver d receive)).2 = b := by
  rw [listener, Option.filter_eq_none_iff] at unreported
  unfold deliver
  cases listens : (b.dataChannel d).listener with
  | none => rfl
  | some t =>
    have gone : ¬ b.isLive t = true := unreported t listens
    simp [attempt, gone]

/-- What is asked of a transport is asked of it by name, or a data channel delivers it to the
    transport that it reports to and that was not dropped. -/
theorem occasion_cases {operation : Operation} {asked : TransportOperation}
    (occasion : b.occasion? operation = some (t, asked)) : operation = .transport t asked ∨
      b.isLive t = true ∧ ∃ d, (b.dataChannel d).listener = some t ∧
        ((∃ text, operation = .deliverText d text ∧ asked = .receive .dataChannel text) ∨
          ∃ length, operation = .deliverBinary d length ∧ asked = .receiveBinary length) := by
  cases operation with
  | transport u operation =>
    cases occasion
    exact .inl rfl
  | deliverText d text =>
    obtain ⟨u, reports, same⟩ := Option.map_eq_some_iff.1 occasion
    cases same
    obtain ⟨listens, live⟩ := Option.filter_eq_some_iff.1 reports
    exact .inr ⟨live, d, listens, .inl ⟨text, rfl, rfl⟩⟩
  | deliverBinary d length =>
    obtain ⟨u, reports, same⟩ := Option.map_eq_some_iff.1 occasion
    cases same
    obtain ⟨listens, live⟩ := Option.filter_eq_some_iff.1 reports
    exact .inr ⟨live, d, listens, .inr ⟨length, rfl, rfl⟩⟩
  | _ => cases occasion

/-! ## Relations across a run -/

/-- A relation between two states of a bridge and what happened to one transport from one to the
    other that holds across all that comes of a text: across each thing that an endpoint asks for,
    and across a text as a whole if it holds across what the endpoint makes happen because of it. -/
structure Nested (t : TransportId) (Q : Bridge → List Occurrence → Bridge → Prop) : Prop where
  refl (b : Bridge) : Q b [] b
  trans {b b' b'' : Bridge} {past more : List Occurrence} :
    Q b past b' → Q b' more b'' → Q b (past ++ more) b''
  /-- What an endpoint asks for that hands nothing to the endpoint again. -/
  ask {b : Bridge} (reaction : Reaction) {operation : TransportOperation} :
    reaction.operation? = some operation → operation.received? = none →
      Q b [⟨b, t, operation⟩] (b.stepTransport t operation).2
  /-- A text for which the endpoint is not called. -/
  absorb {b : Bridge} {source : Source} {text : String} : b.pushOf t source text = none →
    Q b [⟨b, t, .receive source text⟩] (b.receiveWith ignore t source text)
  /-- A text for which the endpoint is called, up to the count of its message. -/
  push {b heard b' : Bridge} {source : Source} {text : String} {channel : Option Channel}
    {message : Message} {constraints : SenderConstraints} {inner : List Occurrence} :
      b.hear t source = some (heard, channel) →
      readText (heard.transport t).config.maxInboundBytes text = .ok message →
      message.update?.isSome = true →
      b.pushOf t source text = some (constraints, heard.handle ignore t message) →
      Q (heard.handle ignore t message) inner b' →
        Q b (⟨b, t, .receive source text⟩ :: inner) (b'.count (.handled message.kind))
  reacting {b b' : Bridge} {reactions : List Reaction} (constraints : SenderConstraints) :
    b.nextReactions t = some (reactions, b') → Q b [] (b'.emit (.reacting t constraints))
  reacted (b : Bridge) (outcome : Reacted) : Q b [] (b.emit (.reacted t outcome))

namespace Nested

variable {Q : Bridge → List Occurrence → Bridge → Prop} {onPush : Callback} {inner : Consequences}

theorem receiveWith (h : Nested t Q) (callback : ∀ constraints b,
      Q b (inner constraints b) (onPush constraints b)) (source : Source) (text : String) :
    Q b (b.occurrencesOf inner t (.receive source text))
      (b.receiveWith onPush t source text) := by
  unfold occurrencesOf
  dsimp only
  cases push : b.pushOf t source text with
  | none =>
    rw [receiveWith_of_pushOf_eq_none push]
    exact h.absorb push
  | some found =>
    obtain ⟨constraints, b'⟩ := found
    obtain ⟨heard, channel, message, hears, read, sets, rfl, received⟩ := pushOf_eq_some push
    rw [received]
    exact h.push hears read sets push (callback constraints _)

/-- What the endpoint asks for happens, and then it writes down what it came to. -/
theorem react (h : Nested t Q) (callback : ∀ constraints b,
      Q b (inner constraints b) (onPush constraints b)) (reaction : Reaction) (b : Bridge) :
    Q b ((reaction.operation?.map fun operation => b.occurrencesOf inner t operation).getD [])
      (b.react onPush t reaction) := by
  have noted {past : List Occurrence} {b' : Bridge} (done : Q b past b') (outcome : Reacted) :
      Q b past (b'.emit (.reacted t outcome)) := by
    have whole := h.trans done (h.reacted b' outcome)
    rwa [List.append_nil] at whole
  cases reaction with
  | receive source text => exact noted (h.receiveWith callback source text) _
  | send text =>
    unfold Bridge.react Reaction.operation?
    dsimp only
    cases decoded : Message.decode text with
    | error e => exact noted (h.refl b) _
    | ok message =>
      have asks : (Reaction.send text).operation? = some (.send message) := by
        simp [Reaction.operation?, decoded, Except.toOption]
      exact noted (h.ask _ asks rfl) _
  | clearSocket s status =>
    have asked := h.ask (b := b) (.clearSocket s status) rfl rfl
    exact noted asked _
  | close =>
    have asked := h.ask (b := b) .close rfl rfl
    exact noted asked _
  | observe => exact noted (h.refl b) _

theorem foldl_react (h : Nested t Q) (callback : ∀ constraints b,
      Q b (inner constraints b) (onPush constraints b)) (reactions : List Reaction) (b : Bridge) :
    Q b (reactionOccurrences onPush inner t reactions b)
      (reactions.foldl (Bridge.react onPush t) b) := by
  induction reactions generalizing b with
  | nil => exact h.refl b
  | cons reaction rest ih => exact h.trans (h.react callback reaction b) (ih _)

/-- Calls nest as deep as the script goes; the induction is on the bound of that depth. -/
theorem followScript (h : Nested t Q) (depth : Nat) (constraints : SenderConstraints)
    (b : Bridge) :
    Q b (scriptOccurrences t depth constraints b) (Bridge.followScript t depth constraints b) := by
  induction depth generalizing constraints b with
  | zero => exact h.refl b
  | succ depth ih =>
    unfold scriptOccurrences Bridge.followScript
    cases next : b.nextReactions t with
    | none => exact h.refl b
    | some found =>
      obtain ⟨reactions, b'⟩ := found
      exact h.trans (h.reacting constraints next) (h.foldl_react ih reactions _)

/-- An operation of the transport is a text, or it hands nothing to the endpoint. -/
theorem stepTransport (h : Nested t Q) (operation : TransportOperation) (b : Bridge)
    (operate : operation.received? = none →
      Q b [⟨b, t, operation⟩] (b.stepTransport t operation).2) :
    Q b (b.occurrencesOf (scriptOccurrences t (b.scriptLength t)) t operation)
      (b.stepTransport t operation).2 := by
  cases operation with
  | receive source text => exact h.receiveWith (h.followScript (b.scriptLength t)) source text
  | _ => exact operate rfl

end Nested

/-- A relation between two states of a bridge and what happened to transports from one to the other
    that holds across each single part of a run. -/
structure Tracked (Q : Bridge → List Occurrence → Bridge → Prop) : Prop where
  refl (b : Bridge) : Q b [] b
  trans {b b' b'' : Bridge} {past more : List Occurrence} :
    Q b past b' → Q b' more b'' → Q b (past ++ more) b''
  /-- An operation that is none for any transport. -/
  outside {b : Bridge} {operation : Operation} :
    b.occasion? operation = none → Q b [] (b.step operation).2
  /-- An operation of a transport that hands nothing to its endpoint. -/
  operate {b : Bridge} (t : TransportId) (operation : TransportOperation) :
    operation.received? = none → Q b [⟨b, t, operation⟩] (b.stepTransport t operation).2
  /-- A text for which the endpoint is not called. -/
  absorb {b : Bridge} {t : TransportId} {source : Source} {text : String} :
    b.pushOf t source text = none →
      Q b [⟨b, t, .receive source text⟩] (b.receiveWith ignore t source text)
  /-- A text for which the endpoint is called, up to that call. -/
  push {b b' : Bridge} {t : TransportId} {source : Source} {text : String}
    {constraints : SenderConstraints} : b.pushOf t source text = some (constraints, b') →
      Q b [⟨b, t, .receive source text⟩] b'
  handled (b : Bridge) (kind : Kind) : Q b [] (b.count (.handled kind))
  reacting {b b' : Bridge} {t : TransportId} {reactions : List Reaction}
    (constraints : SenderConstraints) : b.nextReactions t = some (reactions, b') →
      Q b [] (b'.emit (.reacting t constraints))
  reacted (b : Bridge) (t : TransportId) (outcome : Reacted) :
    Q b [] (b.emit (.reacted t outcome))

namespace Tracked

variable {Q : Bridge → List Occurrence → Bridge → Prop}

/-- What holds across the single parts holds across a text as a whole. -/
theorem nested (h : Tracked Q) (t : TransportId) : Nested t Q where
  refl := h.refl
  trans := h.trans
  ask _ _ _ notText := h.operate t _ notText
  absorb := h.absorb
  push := by
    intro b heard b' source text channel message constraints inner _ _ _ push called
    have counted := h.trans called (h.handled b' message.kind)
    rw [List.append_nil] at counted
    exact h.trans (h.push push) counted
  reacting := h.reacting
  reacted b := h.reacted b t

theorem stepTransport (h : Tracked Q) (t : TransportId) (operation : TransportOperation)
    (b : Bridge) :
    Q b (b.occurrencesOf (scriptOccurrences t (b.scriptLength t)) t operation)
      (b.stepTransport t operation).2 :=
  (h.nested t).stepTransport operation b (h.operate t operation)

/-- An operation of the bridge does what it is for a transport. -/
theorem step_of_occasion {operation : Operation} {asked : TransportOperation}
    (occasion : b.occasion? operation = some (t, asked)) :
    (b.step operation).2 = (b.stepTransport t asked).2 := by
  rcases occasion_cases occasion with rfl | ⟨live, d, listens, ⟨text, rfl, rfl⟩ | ⟨length, rfl, rfl⟩⟩
  · rfl
  · simp [Bridge.step, deliver, listens, live, attempt, Bridge.stepTransport]
  · simp [Bridge.step, deliver, listens, live, attempt, Bridge.stepTransport]

theorem step (h : Tracked Q) (operation : Operation) (b : Bridge) :
    Q b (b.stepOccurrences operation) (b.step operation).2 := by
  unfold stepOccurrences
  cases occasion : b.occasion? operation with
  | none => exact h.outside occasion
  | some found =>
    obtain ⟨t, asked⟩ := found
    rw [step_of_occasion occasion]
    exact h.stepTransport t asked b

theorem run (h : Tracked Q) (operations : List Operation) (b : Bridge) :
    Q b (b.occurrences operations) (b.run operations) := by
  induction operations generalizing b with
  | nil => exact h.refl b
  | cons operation rest ih => exact h.trans (h.step operation b) (ih _)

/-- What alone happens begins where it begins. -/
theorem beginning_of_single (h : Tracked Q) {first o : Occurrence} {before after : List Occurrence}
    (split : [first] = before ++ o :: after) : Q first.bridge before o.bridge := by
  cases before with
  | nil =>
    cases split
    exact h.refl _
  | cons head tail => simp at split

/-- A relation that holds across every part of a run holds up to the beginning of each thing that
    happens in it, too: taken together, these are again a relation of that kind. -/
theorem beginnings (h : Tracked Q) : Tracked fun b past b' => Q b past b' ∧
    ∀ before o after, past = before ++ o :: after → Q b before o.bridge where
  refl b := ⟨h.refl b, by simp⟩
  trans := by
    rintro b b' b'' past more ⟨first, during⟩ ⟨second, later⟩
    refine ⟨h.trans first second, ?_⟩
    intro before o after whole
    rcases List.append_eq_append_iff.1 whole with ⟨middle, same, split⟩ | ⟨middle, split, same⟩
    · subst same
      exact h.trans first (later middle o after split)
    · cases middle with
      | nil =>
        rw [List.append_nil] at split
        subst split
        have whole := h.trans first (later [] o after same.symm)
        rwa [List.append_nil] at whole
      | cons head tail =>
        cases same
        exact during before o tail split
  outside occasion := ⟨h.outside occasion, by simp⟩
  operate t _ notText := ⟨h.operate t _ notText, fun _ _ _ split => h.beginning_of_single split⟩
  absorb noPush := ⟨h.absorb noPush, fun _ _ _ split => h.beginning_of_single split⟩
  push pushed := ⟨h.push pushed, fun _ _ _ split => h.beginning_of_single split⟩
  handled b kind := ⟨h.handled b kind, by simp⟩
  reacting constraints next := ⟨h.reacting constraints next, by simp⟩
  reacted b t outcome := ⟨h.reacted b t outcome, by simp⟩

theorem at_moment (h : Tracked Q) {operations : List Operation} {past : List Occurrence}
    {now : Bridge} (moment : b.Moment operations past now) : Q b past now := by
  cases moment with
  | between before after split => exact h.run before b
  | within past o future split => exact (h.beginnings.run operations b).2 past o future split

/-- What alone happens ends where it ends. -/
theorem ending_of_single {first o : Occurrence} {before after : List Occurrence}
    (split : [first] = before ++ o :: after) (holds : Q first.bridge [first] b') :
    Q o.bridge (o :: after) b' := by
  cases before with
  | nil =>
    cases split
    exact holds
  | cons head tail => simp at split

/-- A relation that holds across every part of a run holds from the beginning of each thing that
    happens in it on, too: taken together, these are again a relation of that kind. -/
theorem endings (h : Tracked Q) :
    Tracked fun b past b' => Q b past b' ∧
      ∀ before o after, past = before ++ o :: after → Q o.bridge (o :: after) b' where
  refl b := ⟨h.refl b, by simp⟩
  trans := by
    rintro b b' b'' past more ⟨first, during⟩ ⟨second, later⟩
    refine ⟨h.trans first second, ?_⟩
    intro before o after whole
    rcases List.append_eq_append_iff.1 whole with ⟨middle, -, split⟩ | ⟨middle, split, same⟩
    · exact later middle o after split
    · cases middle with
      | nil => exact later [] o after same.symm
      | cons head tail =>
        cases same
        exact h.trans (during before o tail split) second
  outside occasion := ⟨h.outside occasion, by simp⟩
  operate t _ notText := ⟨h.operate t _ notText, fun _ _ _ split =>
    ending_of_single split (h.operate t _ notText)⟩
  absorb noPush := ⟨h.absorb noPush, fun _ _ _ split => ending_of_single split (h.absorb noPush)⟩
  push pushed := ⟨h.push pushed, fun _ _ _ split => ending_of_single split (h.push pushed)⟩
  handled b kind := ⟨h.handled b kind, by simp⟩
  reacting constraints next := ⟨h.reacting constraints next, by simp⟩
  reacted b t outcome := ⟨h.reacted b t outcome, by simp⟩

/-- Such a relation holds from each thing in the past to the present. -/
theorem since (h : Tracked Q) {now : Bridge} {operations : List Operation}
    {before after : List Occurrence} {o : Occurrence}
    (moment : b.Moment operations (before ++ o :: after) now) : Q o.bridge (o :: after) now :=
  (h.endings.at_moment moment).2 before o after rfl

end Tracked

/-! ## Who asks for what happens -/

/-- All that comes of a text happens to the transport that received it, and it is what reactions ask
    for. -/
theorem nested_asked (t : TransportId) : Nested t fun _ past _ => ∀ o ∈ past, o.transport = t ∧
    ∃ reaction : Reaction, reaction.operation? = some o.operation where
  refl _ := List.forall_mem_nil _
  trans first second := List.forall_mem_append.2 ⟨first, second⟩
  ask _ _ asks _ := List.forall_mem_singleton.2 ⟨rfl, _, asks⟩
  absorb {_ source text} _ := List.forall_mem_singleton.2 ⟨rfl, .receive source text, rfl⟩
  push {_ _ _ source text _ _ _ _} _ _ _ _ called :=
    List.forall_mem_cons.2 ⟨⟨rfl, .receive source text, rfl⟩, called⟩
  reacting _ _ := List.forall_mem_nil _
  reacted _ _ := List.forall_mem_nil _

/-- What happens by a step is what the step is for a transport, or a reaction of that transport's
    endpoint. -/
theorem of_mem_stepOccurrences {operation : Operation} {o : Occurrence}
    (mem : o ∈ b.stepOccurrences operation) :
    ∃ asked, b.occasion? operation = some (o.transport, asked) ∧
      (o.operation = asked ∨ ∃ reaction : Reaction, reaction.operation? = some o.operation) := by
  unfold stepOccurrences at mem
  cases occasion : b.occasion? operation with
  | none =>
    rw [occasion] at mem
    cases mem
  | some found =>
    obtain ⟨t, asked⟩ := found
    rw [occasion] at mem
    dsimp only at mem
    cases text : asked.received? with
    | none =>
      have alone : b.occurrencesOf (scriptOccurrences t (b.scriptLength t)) t asked =
          [⟨b, t, asked⟩] := by
        cases asked with
        | receive source text => cases text
        | _ => rfl
      rw [alone, List.mem_singleton] at mem
      subst mem
      exact ⟨asked, rfl, .inl rfl⟩
    | some received =>
      have received := (nested_asked t).stepTransport asked b (by simp [text])
      obtain ⟨rfl, reaction⟩ := received o mem
      exact ⟨asked, rfl, .inr reaction⟩

theorem of_mem_occurrences {operations : List Operation} {o : Occurrence}
    (mem : o ∈ b.occurrences operations) :
    ∃ operation ∈ operations, ∃ now asked, occasion? now operation = some (o.transport, asked) ∧
      (o.operation = asked ∨ ∃ reaction : Reaction, reaction.operation? = some o.operation) := by
  induction operations generalizing b with
  | nil => cases mem
  | cons operation rest ih =>
    rcases List.mem_append.1 mem with now | later
    · exact ⟨operation, List.mem_cons_self, b, of_mem_stepOccurrences now⟩
    · obtain ⟨later, listed, found⟩ := ih later
      exact ⟨later, List.mem_cons_of_mem _ listed, found⟩

end Bridge

end ControlChannel
