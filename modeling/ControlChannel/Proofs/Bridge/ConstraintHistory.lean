import ControlChannel.Proofs.Bridge.Effect
import ControlChannel.Proofs.Constraint.Wishes
import ControlChannel.Proofs.Message.RoundTrip

/-!
# Constraints by the messages that came

The constraints that an endpoint is given are a function of the last words that it sent. Each message
by which it sets an input makes one computation, of the inputs as they then are, and one push of what
was computed, in the order of the messages; and nothing else makes any. That stays so when the
endpoint sends such messages while it is being given constraints: a push is the last thing that a
message does, so what is nested in it comes after it in every respect.
-/

namespace ControlChannel

/-! ## Messages and wishes -/

/-- The ids that a single id stands for. An id that is blank is nobody's. -/
def soleId : Option String → Finset String
  | some id => if Text.isBlank id then ∅ else {id}
  | none => ∅

theorem shows_ofOption (id : Option String) : (IdSet.ofOption id).Shows (soleId id) := by
  cases id with
  | none => exact IdSet.shows_empty
  | some id =>
    dsimp only [IdSet.ofOption, soleId]
    by_cases blank : Text.isBlank id = true
    · rw [if_pos blank, if_pos blank]
      exact IdSet.shows_empty
    · rw [if_neg blank, if_neg blank]
      exact IdSet.shows_ofList [id]

namespace Message

/-- Whom a message pins. -/
def pins? : Message → Option (Finset String)
  | pinnedEndpoint id => some (soleId id)
  | pinnedEndpoints ids => some ids.toFinset
  | _ => none

/-- Whom a message selects. -/
def selects? : Message → Option (Finset String)
  | selectedEndpoint id => some (soleId id)
  | selectedEndpoints ids => some ids.toFinset
  | _ => none

/-- The frame height that a message sets. -/
def height? : Message → Option Int32
  | receiverVideoConstraint height => some height
  | _ => none

/-- The message sets something that constraints depend on. -/
def isConstraint (message : Message) : Bool :=
  message.pins?.isSome || message.selects?.isSome || message.height?.isSome

theorem isSome_update? (message : Message) : message.update?.isSome = message.isConstraint := by
  cases message <;> rfl

end Message

/-- The wishes by the last words in the messages; `height` is the frame height at first. -/
def Wishes.after (height : Int32) (messages : List Message) : Wishes where
  pinned := latest Message.pins? ∅ messages
  selected := latest Message.selects? ∅ messages
  maxFrameHeight := latest Message.height? height messages

namespace ConstraintInputs

/-- The inputs after a message. -/
def take (inputs : ConstraintInputs) (message : Message) : ConstraintInputs :=
  (message.update?.map fun update => update inputs).getD inputs

/-- The inputs after each of the messages. -/
def each (inputs : ConstraintInputs) (messages : List Message) : List ConstraintInputs :=
  (messages.scanl take inputs).tail

theorem length_each (inputs : ConstraintInputs) (messages : List Message) :
    (inputs.each messages).length = messages.length := by
  simp [each]

theorem each_append (inputs : ConstraintInputs) (messages more : List Message) :
    inputs.each (messages ++ more) =
      inputs.each messages ++ (messages.foldl take inputs).each more := by
  unfold each
  rw [List.scanl_append, List.tail_append_of_ne_nil List.scanl_ne_nil]

theorem getElem_each (inputs : ConstraintInputs) (messages : List Message) (n : Nat)
    (known : n < (inputs.each messages).length) :
    (inputs.each messages)[n] = (messages.take (n + 1)).foldl take inputs := by
  simp only [each, List.getElem_tail, List.getElem_scanl]

theorem eq_of_getLast?_each {inputs last : ConstraintInputs} {messages : List Message}
    (ends : (inputs.each messages).getLast? = some last) : last = messages.foldl take inputs := by
  unfold each at ends
  rw [List.getLast?_tail] at ends
  split at ends
  · cases ends
  · rw [List.getLast?_scanl] at ends
    exact (Option.some.inj ends).symm

theorem shows_initial (height : Int32) : (initial height).Shows (.after height []) :=
  ⟨IdSet.shows_empty, IdSet.shows_empty, rfl⟩

/-- A message sets the input that it speaks of, and no other. -/
theorem Shows.take {inputs : ConstraintInputs} {height : Int32} {said : List Message}
    (shown : inputs.Shows (.after height said)) (message : Message) :
    (inputs.take message).Shows (.after height (said ++ [message])) := by
  obtain ⟨pinned, selected, frame⟩ := shown
  unfold Wishes.after at pinned selected frame ⊢
  simp only [latest_append, latest_single]
  cases message with
  | pinnedEndpoint id => exact ⟨shows_ofOption id, selected, frame⟩
  | pinnedEndpoints ids => exact ⟨IdSet.shows_ofList ids, selected, frame⟩
  | selectedEndpoint id => exact ⟨pinned, shows_ofOption id, frame⟩
  | selectedEndpoints ids => exact ⟨pinned, IdSet.shows_ofList ids, frame⟩
  | receiverVideoConstraint height => exact ⟨pinned, selected, rfl⟩
  | _ => exact ⟨pinned, selected, frame⟩

theorem shows_foldl (height : Int32) (messages : List Message) :
    (messages.foldl take (initial height)).Shows (.after height messages) := by
  induction messages using List.reverseRecOn with
  | nil => exact shows_initial height
  | append_singleton messages message ih =>
    rw [List.foldl_concat]
    exact ih.take message

end ConstraintInputs

/-! ## What is written -/

namespace Event

/-- The event tells of constraints that were computed for a transport, or given to its endpoint. -/
def isAbout (t : TransportId) : Event → Bool
  | computed u _ | pushed u _ => u == t
  | _ => false

theorem aboutConstraints_of_isAbout (t : TransportId) (e : Event) (about : e.isAbout t = true) :
    e.aboutConstraints = true := by
  cases e with
  | computed u inputs => rfl
  | pushed u constraints => rfl
  | _ => cases about

end Event

/-- What is written when constraints are computed from inputs and given to an endpoint. -/
def telling (t : TransportId) (own : String) (inputs : ConstraintInputs) : List Event :=
  [.computed t inputs, .pushed t (inputs.constraints.erase own)]

namespace Bridge

variable {b b' : Bridge} {t : TransportId}

/-- What was written about constraints for a transport. -/
def toldOf (b : Bridge) (t : TransportId) : List Event :=
  b.trace.filter (·.isAbout t)

theorem toldOf_eq (b : Bridge) (t : TransportId) :
    b.toldOf t = b.view.events.filter (·.isAbout t) :=
  (filter_events_view (Event.aboutConstraints_of_isAbout t) b).symm

theorem toldOf_viewAfter {o : Occurrence} (viewed : b'.view = o.viewAfter) (t : TransportId) :
    b'.toldOf t = o.bridge.toldOf t ++ o.events.filter (·.isAbout t) := by
  rw [toldOf_eq, viewed, toldOf_eq]
  exact List.filter_append ..

theorem filter_eventsOf_of_ne (st : Standing) {u : TransportId} (other : u ≠ t)
    (update : ConstraintInputs → ConstraintInputs) :
    (st.eventsOf u update).filter (·.isAbout t) = [] := by
  have apart : (u == t) = false := beq_false_of_ne other
  unfold Standing.eventsOf
  rw [List.filter_cons_of_neg (by simp [Event.isAbout, apart])]
  split
  · rfl
  · split
    · rw [List.filter_cons_of_neg (by simp [Event.isAbout, apart])]
      rfl
    · rfl

/-- An endpoint that is there is given the constraints that are computed, if the newest have been
    pushed. -/
theorem eventsOf_of_attended {st : Standing} (attended : st.attended = true)
    (inStep : st.pushed = st.generation) (t : TransportId)
    (update : ConstraintInputs → ConstraintInputs) :
    st.eventsOf t update = telling t st.endpointId (update st.inputs) := by
  have newest : ¬ st.generation + 1 < st.pushed := by omega
  unfold Standing.eventsOf telling
  rw [if_neg newest, if_pos attended]

theorem filter_telling (t : TransportId) (own : String) (inputs : ConstraintInputs) :
    (telling t own inputs).filter (·.isAbout t) = telling t own inputs := by
  simp [telling, Event.isAbout]

end Bridge

/-! ## A run -/

namespace Occurrence

/-- The message by which a transport's endpoint sets an input, if what happens is that one comes. -/
def setting? (t : TransportId) (o : Occurrence) : Option Message :=
  if o.transport = t then o.message?.filter (·.isConstraint) else none

variable {o : Occurrence}

/-- An endpoint that is gone does not come back. -/
theorem attended_of_moved (o : Occurrence) {st : Standing}
    (attended : (o.moved st).attended = true) : st.attended = true := by
  obtain ⟨b, t, operation⟩ := o
  cases operation with
  | dropEndpoint => cases attended
  | _ => exact attended

theorem setting?_of_update {update : ConstraintInputs → ConstraintInputs}
    (sets : o.update? = some update) : ∃ message, o.setting? o.transport = some message ∧
      ∀ inputs, ConstraintInputs.take inputs message = update inputs := by
  obtain ⟨message, taken, same⟩ := Option.bind_eq_some_iff.1 sets
  have about : message.isConstraint = true := by
    rw [← message.isSome_update?, same]
    rfl
  refine ⟨message, ?_, ?_⟩
  · unfold setting?
    rw [if_pos rfl, taken, Option.filter_some_pos about]
  · intro inputs
    rw [ConstraintInputs.take, same]
    rfl

theorem setting?_of_no_update (setsNone : o.update? = none) : o.setting? o.transport = none := by
  unfold setting?
  rw [if_pos rfl]
  unfold update? at setsNone
  cases taken : o.message? with
  | none => rfl
  | some message =>
    rw [taken, Option.bind_some] at setsNone
    refine Option.filter_some_neg ?_
    rw [← message.isSome_update?, setsNone]
    simp

end Occurrence

/-- The messages that set an input of a transport's constraints, in order. -/
def settings (t : TransportId) (past : List Occurrence) : List Message :=
  past.filterMap (·.setting? t)

theorem settings_append (t : TransportId) (past more : List Occurrence) :
    settings t (past ++ more) = settings t past ++ settings t more :=
  List.filterMap_append

namespace Bridge

/-- What became of a transport by messages that set an input: each made one computation and one
    push, and the push made last is that of the newest inputs. -/
structure Answers (t : TransportId) (b b' : Bridge) (before after : Standing)
    (messages : List Message) : Prop where
  endpointId : after.endpointId = before.endpointId
  pushed : after.pushed = after.generation
  generation : after.generation = before.generation + messages.length
  inputs : after.inputs = messages.foldl ConstraintInputs.take before.inputs
  told : b'.toldOf t = b.toldOf t ++
    (before.inputs.each messages).flatMap (telling t before.endpointId)

namespace Answers

variable {b b' b'' : Bridge} {t : TransportId} {before middle after : Standing}
  {messages more : List Message}

theorem nothing (endpointId : after.endpointId = before.endpointId)
    (inputs : after.inputs = before.inputs) (generation : after.generation = before.generation)
    (pushed : after.pushed = after.generation) (told : b'.toldOf t = b.toldOf t) :
    Answers t b b' before after [] where
  endpointId := endpointId
  pushed := pushed
  generation := generation
  inputs := inputs
  told := by
    rw [told]
    exact (List.append_nil _).symm

theorem trans (first : Answers t b b' before middle messages)
    (second : Answers t b' b'' middle after more) :
    Answers t b b'' before after (messages ++ more) where
  endpointId := second.endpointId.trans first.endpointId
  pushed := second.pushed
  generation := by
    rw [second.generation, first.generation, List.length_append, Nat.add_assoc]
  inputs := by rw [second.inputs, first.inputs, List.foldl_append]
  told := by
    rw [second.told, first.told, first.inputs, first.endpointId, ConstraintInputs.each_append,
      List.flatMap_append, List.append_assoc]

end Answers

variable {b b' now : Bridge} {t : TransportId}

/-- What happens to a transport whose newest constraints have been pushed is answered. -/
theorem answers_here {o : Occurrence} (viewed : b'.view = o.viewAfter) {before : Standing}
    (stood : o.bridge.view.standing o.transport = some before) (attended : before.attended = true)
    (inStep : before.pushed = before.generation) :
    Answers o.transport o.bridge b' before (o.effect before) (settings o.transport [o]) := by
  have standing : (o.bridge.transport o.transport).standing = before := standing_view _ _ stood
  have told := toldOf_viewAfter viewed o.transport
  unfold Occurrence.events at told
  unfold Occurrence.effect settings
  cases sets : o.update? with
  | none =>
    rw [sets, List.filter_nil, List.append_nil] at told
    rw [List.filterMap_cons_none (Occurrence.setting?_of_no_update sets), List.filterMap_nil]
    exact .nothing rfl rfl rfl inStep told
  | some update =>
    obtain ⟨message, said, taken⟩ := Occurrence.setting?_of_update sets
    rw [sets, standing] at told
    dsimp only at told ⊢
    rw [eventsOf_of_attended attended inStep, filter_telling, ← taken] at told
    rw [List.filterMap_cons_some said, List.filterMap_nil]
    have newest : max before.pushed (before.generation + 1) = before.generation + 1 := by omega
    exact ⟨rfl, newest, rfl, (taken before.inputs).symm, by rw [told]; rfl⟩

theorem answers_elsewhere {o : Occurrence} (viewed : b'.view = o.viewAfter)
    (elsewhere : t ≠ o.transport) {st : Standing} (inStep : st.pushed = st.generation) :
    Answers t o.bridge b' st st (settings t [o]) := by
  have told := toldOf_viewAfter viewed t
  have untold : o.events.filter (·.isAbout t) = [] := by
    unfold Occurrence.events
    cases o.update? with
    | none => rfl
    | some update => exact filter_eventsOf_of_ne _ (Ne.symm elsewhere) update
  have silent : settings t [o] = [] := by
    simp [settings, Occurrence.setting?, Ne.symm elsewhere]
  rw [untold, List.append_nil] at told
  rw [silent]
  exact .nothing rfl rfl rfl inStep told

/-- A run answers the messages that come in it, as long as the endpoint is there. -/
theorem tracked_answers (t : TransportId) : Tracked fun b past b' => ∀ after,
    b'.view.standing t = some after → after.attended = true →
      ∃ before, b.view.standing t = some before ∧ before.attended = true ∧
        (before.pushed = before.generation → Answers t b b' before after (settings t past)) := by
  refine Tracked.of_view ?trans ?same ?after
  case trans =>
    intro b b' b'' past more first second after found attended
    obtain ⟨middle, present, attended, later⟩ := second after found attended
    obtain ⟨before, present, attended, earlier⟩ := first middle present attended
    refine ⟨before, present, attended, ?_⟩
    intro inStep
    have answered := earlier inStep
    have whole := answered.trans (later answered.pushed)
    rwa [← settings_append] at whole
  case same =>
    intro b b' same after found attended
    rw [same] at found
    refine ⟨after, found, attended, ?_⟩
    intro inStep
    refine .nothing rfl rfl rfl inStep ?_
    rw [toldOf_eq, same, toldOf_eq]
  case after =>
    intro o b' viewed after found attended
    have moved : o.viewAfter.standing t = some after := by rwa [← viewed]
    obtain ⟨before, present, rfl⟩ := standing_viewAfter moved
    by_cases here : t = o.transport
    · subst here
      rw [if_pos rfl] at attended ⊢
      obtain ⟨-, same, -, -⟩ := o.effect_eq_moved before
      rw [same] at attended
      have attended := o.attended_of_moved attended
      exact ⟨before, present, attended, fun inStep => answers_here viewed present attended inStep⟩
    · rw [if_neg here] at attended ⊢
      exact ⟨before, present, attended, fun inStep => answers_elsewhere viewed here inStep⟩

/-- A transport whose endpoint is still there has answered what came. -/
theorem answers_at_moment {operations : List Operation} {past : List Occurrence}
    (moment : b.Moment operations past now)
    (attended : (now.transport t).endpoint.isSome = true) :
    ∃ tr, b.transports[t]? = some tr ∧ (tr.pushed = tr.generation →
      Answers t b now tr.standing (now.transport t).standing (settings t past)) := by
  have stands : now.view.standing t = some (now.transport t).standing :=
    view_standing_of_mark Standing.attended rfl attended
  obtain ⟨before, stood, -, answered⟩ := (tracked_answers t).at_moment moment _ stands attended
  obtain ⟨tr, present, rfl⟩ := Option.map_eq_some_iff.1 stood
  exact ⟨tr, present, answered⟩

/-! ## The constraints are a function of the last words -/

/-- From the start of a transport on, and as long as its endpoint is there: each message that sets an
    input makes one computation and one push, by the wishes as they are with that message; nothing
    else makes any; and the state that is shown holds the wishes of all of them. -/
theorem constraints_of_history {own : String} {config : Config} {conference : Option ConferenceId}
    {statistics : StatisticsId} {operations : List Operation} {past : List Occurrence}
    (created : b.transports[t]? = some (.create own config conference statistics))
    (moment : b.Moment operations past now)
    (attended : (now.transport t).endpoint.isSome = true) :
    let wishes (n : Nat) := Wishes.after config.maxFrameHeight ((settings t past).take n)
    ∃ told : List (ConstraintInputs × SenderConstraints),
      told.length = (settings t past).length ∧
      now.toldOf t = b.toldOf t ++
        told.flatMap (fun entry => [.computed t entry.1, .pushed t entry.2]) ∧
      (∀ n (known : n < told.length), told[n].1.Shows (wishes (n + 1)) ∧
        SenderConstraints.Meets told[n].2 (wishes (n + 1)) own) ∧
      (now.snapshot t).inputs.Shows (wishes told.length) := by
  intro wishes
  obtain ⟨tr, present, answered⟩ := answers_at_moment moment attended
  obtain rfl : tr = .create own config conference statistics :=
    Option.some.inj (present.symm.trans created)
  have answers := answered rfl
  let initial := ConstraintInputs.initial config.maxFrameHeight
  have held (n : Nat) : (((settings t past).take n).foldl ConstraintInputs.take initial).Shows
      (wishes n) := ConstraintInputs.shows_foldl config.maxFrameHeight _
  refine ⟨(initial.each (settings t past)).map fun inputs =>
    (inputs, inputs.constraints.erase own), ?_, ?_, ?_, ?_⟩
  · rw [List.length_map, ConstraintInputs.length_each]
  · rw [answers.told, List.flatMap_map]
    rfl
  · intro n known
    rw [List.getElem_map, ConstraintInputs.getElem_each]
    exact ⟨held (n + 1), (held (n + 1)).meets own⟩
  · have inputs : (now.snapshot t).inputs = (settings t past).foldl ConstraintInputs.take initial :=
      answers.inputs
    rw [inputs, List.length_map, ConstraintInputs.length_each]
    have all := held (settings t past).length
    rwa [List.take_length] at all

/-- The text of a message is read as that message, unless it is too large. -/
theorem readText_encode {message : Message} {limit : Nat} (exact : message.IsExact)
    (fits : ¬ limit < message.encode.utf8ByteSize) :
    readText limit message.encode = .ok message := by
  rw [readText, if_neg fits, Message.decode_encode exact]
  rfl

/-- An endpoint that has only its data channel to be heard on. -/
def watcher : Bridge where
  statistics := [{}]
  transports := [.create "e" {} none 0]

/-- It pins two others, one of them twice, and itself. -/
def pinsThree : Message := .pinnedEndpoints ["b", "e", "a", "b"]

theorem constraints_of_history_pinsThree :
    ∃ inputs constraints,
      (watcher.run [.transport 0 (.receive .dataChannel pinsThree.encode)]).toldOf 0 =
        [.computed 0 inputs, .pushed 0 constraints] ∧
      inputs.Shows ⟨{"a", "b", "e"}, ∅, 2160⟩ ∧
      SenderConstraints.Meets constraints ⟨{"a", "b", "e"}, ∅, 2160⟩ "e" := by
  have read : readText 65536 pinsThree.encode = .ok pinsThree :=
    readText_encode trivial (by decide)
  have past : watcher.occurrences [.transport 0 (.receive .dataChannel pinsThree.encode)] =
      [⟨watcher, 0, .receive .dataChannel pinsThree.encode⟩] := by
    have alone : watcher.occurrencesOf (scriptOccurrences 0 0) 0
        (.receive .dataChannel pinsThree.encode) =
          [⟨watcher, 0, .receive .dataChannel pinsThree.encode⟩] := by
      unfold occurrencesOf
      dsimp only
      cases watcher.pushOf 0 .dataChannel pinsThree.encode <;> rfl
    exact congrArg (· ++ []) alone
  have came : settings 0 [⟨watcher, 0, .receive .dataChannel pinsThree.encode⟩] = [pinsThree] := by
    have hears : watcher.hears 0 .dataChannel = true := rfl
    have limit : (watcher.transport 0).config.maxInboundBytes = 65536 := rfl
    have taken : Occurrence.message? ⟨watcher, 0, .receive .dataChannel pinsThree.encode⟩ =
        some pinsThree := by
      unfold Occurrence.message?
      dsimp only
      rw [if_pos hears, limit, read, Except.toOption]
    have set : Occurrence.setting? 0 ⟨watcher, 0, .receive .dataChannel pinsThree.encode⟩ =
        some pinsThree := by
      rw [Occurrence.setting?, if_pos rfl, taken]
      rfl
    rw [settings, List.filterMap_cons_some set, List.filterMap_nil]
  have attended : ((watcher.run [.transport 0 (.receive .dataChannel pinsThree.encode)]).transport
      0).endpoint.isSome = true := by
    have ran (text : String) : watcher.run [.transport 0 (.receive .dataChannel text)] =
        watcher.receive 0 .dataChannel text := rfl
    have noScript : watcher.scriptLength 0 = 0 := rfl
    have heard : watcher.hear 0 .dataChannel =
        some ((watcher.markDataChannel 0).countReceived 0 .dataChannel, none) := rfl
    have received := receiveWith_of_read heard read rfl (followScript 0 0)
    rw [ran, receive, noScript, received]
    rfl
  obtain ⟨told, count, written, each, -⟩ := constraints_of_history (b := watcher) rfl
    (.between [.transport 0 (.receive .dataChannel pinsThree.encode)] [] rfl) attended
  rw [past, came] at count each
  obtain ⟨⟨inputs, constraints⟩, rfl⟩ := List.length_eq_one_iff.1 count
  obtain ⟨shown, met⟩ : inputs.Shows (.after 2160 [pinsThree]) ∧
      SenderConstraints.Meets constraints (.after 2160 [pinsThree]) "e" := each 0 Nat.zero_lt_one
  have wished : Wishes.after 2160 [pinsThree] = ⟨{"a", "b", "e"}, ∅, 2160⟩ := by
    have pinned : latest Message.pins? ∅ [pinsThree] = {"a", "b", "e"} := by decide
    rw [Wishes.after, pinned]
    rfl
  rw [wished] at shown met
  exact ⟨inputs, constraints, written, shown, met⟩

end Bridge

end ControlChannel
