import ControlChannel.Proofs.Bridge.ConstraintHistory

/-!
# The order of pushes

An endpoint that is given constraints may send more messages before it returns, to any depth. Still
no push is lost, skipped or late: the endpoint is given the constraints of every computation, one for
one and in the order of the computations. The generations tell why: the newest one is always pushed
before the endpoint is called, so a computation nested in that call never finds a newer one.
-/

namespace ControlChannel

namespace Event

/-- The inputs that constraints of a transport were computed from. -/
def call? (t : TransportId) : Event → Option ConstraintInputs
  | computed u inputs => if u = t then some inputs else none
  | _ => none

/-- The constraints that the endpoint of a transport was given. -/
def push? (t : TransportId) : Event → Option SenderConstraints
  | pushed u constraints => if u = t then some constraints else none
  | _ => none

/-- The event tells of constraints that came too late. -/
def isSuperseded : Event → Bool
  | logged entry => entry.isSuperseded
  | _ => false

theorem aboutConstraints_of_isSuperseded (e : Event) (late : e.isSuperseded = true) :
    e.aboutConstraints = true := by
  cases e with
  | logged entry => exact late
  | _ => cases late

/-- What is not about the transport is no computation and no push of it. -/
theorem filterMap_isAbout {α : Type} {f : Event → Option α} {t : TransportId}
    (only : ∀ e, e.isAbout t = false → f e = none) (events : List Event) :
    (events.filter (·.isAbout t)).filterMap f = events.filterMap f := by
  rw [List.filterMap_filter]
  congr 1
  funext e
  cases about : e.isAbout t with
  | false => simp [only e about]
  | true => simp

theorem call?_of_not_isAbout {t : TransportId} (e : Event) (other : e.isAbout t = false) :
    e.call? t = none := by
  cases e with
  | computed u inputs => exact if_neg (ne_of_beq_false other)
  | _ => rfl

theorem push?_of_not_isAbout {t : TransportId} (e : Event) (other : e.isAbout t = false) :
    e.push? t = none := by
  cases e with
  | pushed u constraints => exact if_neg (ne_of_beq_false other)
  | _ => rfl

end Event

namespace Bridge

/-- A bridge at its start: nothing was written down, and every transport is new. -/
structure Fresh (b : Bridge) : Prop where
  trace : b.trace = []
  transports : ∀ tr ∈ b.transports, ∃ own config conference statistics,
    tr = .create own config conference statistics

variable {b b' now : Bridge} {t : TransportId}

/-- The computations of a transport's constraints, by their inputs. -/
def calls (b : Bridge) (t : TransportId) : List ConstraintInputs :=
  b.trace.filterMap (·.call? t)

/-- The constraints that a transport's endpoint was given. -/
def pushes (b : Bridge) (t : TransportId) : List SenderConstraints :=
  b.trace.filterMap (·.push? t)

theorem calls_eq (b : Bridge) (t : TransportId) : b.calls t = (b.toldOf t).filterMap (·.call? t) :=
  (Event.filterMap_isAbout Event.call?_of_not_isAbout b.trace).symm

theorem pushes_eq (b : Bridge) (t : TransportId) :
    b.pushes t = (b.toldOf t).filterMap (·.push? t) :=
  (Event.filterMap_isAbout Event.push?_of_not_isAbout b.trace).symm

theorem filterMap_tellings {α : Type} {f : Event → Option α} {g : ConstraintInputs → α} {own : String}
    (picks : ∀ inputs, (telling t own inputs).filterMap f = [g inputs])
    (calls : List ConstraintInputs) :
    (calls.flatMap (telling t own)).filterMap f = calls.map g := by
  rw [List.filterMap_flatMap]
  simp only [picks]
  exact List.flatMap_pure_eq_map g calls

theorem filterMap_call?_telling (t : TransportId) (own : String) (inputs : ConstraintInputs) :
    (telling t own inputs).filterMap (·.call? t) = [id inputs] := by
  simp [telling, Event.call?]

theorem filterMap_push?_telling (t : TransportId) (own : String) (inputs : ConstraintInputs) :
    (telling t own inputs).filterMap (·.push? t) = [inputs.constraints.erase own] := by
  simp [telling, Event.push?]

/-! ## Nothing comes too late -/

/-- No transport has pushed a generation that is still to come. -/
def InStep (b : Bridge) : Prop :=
  ∀ t st, b.view.standing t = some st → st.pushed ≤ st.generation

/-- The entries on constraints that came too late. -/
def late (b : Bridge) : List Event :=
  b.trace.filter (·.isSuperseded)

theorem late_eq (b : Bridge) : b.late = b.view.events.filter (·.isSuperseded) :=
  (filter_events_view Event.aboutConstraints_of_isSuperseded b).symm

theorem filter_eventsOf_of_inStep {st : Standing} (inStep : st.pushed ≤ st.generation)
    (t : TransportId) (update : ConstraintInputs → ConstraintInputs) :
    (st.eventsOf t update).filter (·.isSuperseded) = [] := by
  have newest : ¬ st.generation + 1 < st.pushed := by omega
  unfold Standing.eventsOf
  rw [if_neg newest]
  split <;> rfl

theorem InStep.transport (inStep : b.InStep) (t : TransportId) :
    (b.transport t).standing.pushed ≤ (b.transport t).standing.generation := by
  unfold Bridge.transport
  rw [List.getD_eq_getElem?_getD]
  cases found : b.transports[t]? with
  | none => exact Nat.le_refl 0
  | some tr => exact inStep t tr.standing (congrArg (Option.map Transport.standing) found)

/-- Transports stay in step, and as long as they are nothing comes too late. -/
theorem tracked_inStep : Tracked fun b _ b' => b.InStep → b'.InStep ∧ b'.late = b.late := by
  refine Tracked.of_view ?trans ?same ?after
  case trans =>
    intro b b' b'' past more first second inStep
    obtain ⟨inStep, early⟩ := first inStep
    obtain ⟨inStep, later⟩ := second inStep
    exact ⟨inStep, later.trans early⟩
  case same =>
    intro b b' same inStep
    unfold InStep
    rw [late_eq, late_eq, same]
    exact ⟨inStep, rfl⟩
  case after =>
    intro o b' viewed inStep
    refine ⟨?_, ?_⟩
    · intro t st found
      rw [viewed] at found
      obtain ⟨before, present, rfl⟩ := standing_viewAfter found
      have bound : before.pushed ≤ before.generation := inStep t before present
      split
      · unfold Occurrence.effect
        cases o.update? with
        | none => exact bound
        | some update =>
          have newest : max before.pushed (before.generation + 1) ≤ before.generation + 1 := by
            omega
          exact newest
      · exact bound
    · have early : o.events.filter (·.isSuperseded) = [] := by
        unfold Occurrence.events
        cases o.update? with
        | none => rfl
        | some update => exact filter_eventsOf_of_inStep (inStep.transport _) _ update
      rw [late_eq, late_eq, viewed, Occurrence.viewAfter, View.add, List.filter_append, early,
        List.append_nil]
      rfl

theorem Fresh.inStep (fresh : b.Fresh) : b.InStep := by
  intro t st found
  obtain ⟨tr, present, rfl⟩ := Option.map_eq_some_iff.1 found
  obtain ⟨own, config, conference, statistics, rfl⟩ :=
    fresh.transports tr (List.mem_of_getElem? present)
  exact Nat.le_refl 0

/-! ## The order -/

/-- From the start of a bridge on, and as long as a transport's endpoint is there: the endpoint was
    given the constraints of every computation, in order; none came too late; the newest generation
    is pushed, and it is the number of the messages that set an input; and the last constraints
    given are those of the inputs that are shown. -/
theorem pushes_of_history {operations : List Operation} {past : List Occurrence} (fresh : b.Fresh)
    (moment : b.Moment operations past now)
    (attended : (now.transport t).endpoint.isSome = true) :
    let own := (now.transport t).endpointId
    now.pushes t = (now.calls t).map (fun inputs => inputs.constraints.erase own) ∧
      (∀ id generation, .logged (.superseded id generation) ∉ now.trace) ∧
      (now.transport t).pushed = (now.transport t).generation ∧
      (now.transport t).generation = (settings t past).length ∧
      (now.pushes t).length = (settings t past).length ∧
      ∀ constraints, (now.pushes t).getLast? = some constraints →
        constraints = (now.snapshot t).inputs.constraints.erase own := by
  intro own
  obtain ⟨tr, present, answered⟩ := answers_at_moment moment attended
  obtain ⟨first, config, conference, statistics, rfl⟩ :=
    fresh.transports tr (List.mem_of_getElem? present)
  have answers := answered rfl
  obtain rfl : own = first := answers.endpointId
  have untold : b.toldOf t = [] := by rw [toldOf, fresh.trace, List.filter_nil]
  have told := answers.told
  rw [untold, List.nil_append] at told
  let initial := ConstraintInputs.initial config.maxFrameHeight
  have calls : now.calls t = initial.each (settings t past) := by
    rw [calls_eq, told, filterMap_tellings (filterMap_call?_telling t _), List.map_id]
    rfl
  have pushes : now.pushes t = (now.calls t).map fun inputs => inputs.constraints.erase own := by
    rw [calls, pushes_eq, told, filterMap_tellings (filterMap_push?_telling t _)]
    rfl
  have generation : (now.transport t).generation = 0 + (settings t past).length :=
    answers.generation
  refine ⟨pushes, ?_, answers.pushed, by rw [generation, Nat.zero_add], ?_, ?_⟩
  · intro id generation late
    obtain ⟨-, same⟩ := tracked_inStep.at_moment moment fresh.inStep
    have untold : now.late = [] := by rw [same, Bridge.late, fresh.trace, List.filter_nil]
    have listed : .logged (.superseded id generation) ∈ now.late := List.mem_filter.2 ⟨late, rfl⟩
    rw [untold] at listed
    cases listed
  · rw [pushes, List.length_map, calls, ConstraintInputs.length_each]
  · intro constraints ends
    rw [pushes, calls, List.getLast?_map] at ends
    obtain ⟨last, newest, rfl⟩ := Option.map_eq_some_iff.1 ends
    have shown : (now.snapshot t).inputs = (settings t past).foldl ConstraintInputs.take initial :=
      answers.inputs
    rw [ConstraintInputs.eq_of_getLast?_each newest, shown]

/-- It asks for small frames. -/
def smallFrames : Message := .receiverVideoConstraint 90

/-- An endpoint gets a script by which it sends a text as soon as it is given constraints, and then
    sends one that makes it be given some. -/
def feedBack (first answer : String) : List Operation :=
  [.transport 0 (.rehearse [[.receive .dataChannel answer]]),
    .transport 0 (.receive .dataChannel first)]

/-- The bridge after the script was given. -/
def rehearsed (answer : String) : Bridge :=
  (watcher.step (.transport 0 (.rehearse [[.receive .dataChannel answer]]))).2

/-- The bridge when the endpoint is given its first constraints. -/
def firstPush (answer : String) : Bridge :=
  (((rehearsed answer).markDataChannel 0).countReceived 0 .dataChannel).handle ignore 0 pinsThree

/-- The bridge when the endpoint sends its answer. -/
def answering (answer : String) : Bridge :=
  ((firstPush answer).updateTransport 0 fun tr => { tr with endpoint := some {} }).emit
    (.reacting 0 ((ConstraintInputs.initial 2160).take pinsThree |>.constraints.erase "e"))

/-- The bridge when the answer was received. -/
def answered (answer : String) : Bridge :=
  ((((answering answer).markDataChannel 0).countReceived 0 .dataChannel).handle ignore 0
    smallFrames).count (.handled .receiverVideoConstraint)

/-- The bridge in the end. -/
def fedBack (answer : String) : Bridge :=
  ((answered answer).emit (.reacted 0 (.seen ((answered answer).snapshot 0)))).count
    (.handled .pinnedEndpoints)

theorem run_feedBack : watcher.run (feedBack pinsThree.encode smallFrames.encode) =
    fedBack smallFrames.encode := by
  -- The texts are variables in these facts, so that nothing looks into them.
  have begun (first answer : String) : watcher.run (feedBack first answer) =
      (rehearsed answer).receiveWith (followScript 0 1) 0 .dataChannel first := rfl
  have heard (answer : String) : (rehearsed answer).hear 0 .dataChannel =
      some (((rehearsed answer).markDataChannel 0).countReceived 0 .dataChannel, none) := rfl
  have nested (answer : String) :
      (((rehearsed answer).markDataChannel 0).countReceived 0 .dataChannel).handle
          (followScript 0 1) 0 pinsThree =
        let b := (answering answer).receiveWith (followScript 0 0) 0 .dataChannel answer
        b.emit (.reacted 0 (.seen (b.snapshot 0))) := rfl
  have heardAnswer (answer : String) : (answering answer).hear 0 .dataChannel =
      some (((answering answer).markDataChannel 0).countReceived 0 .dataChannel, none) := rfl
  have pins : readText 65536 pinsThree.encode = .ok pinsThree :=
    readText_encode trivial (by decide)
  have frames : readText 65536 smallFrames.encode = .ok smallFrames :=
    readText_encode trivial (by decide)
  have outer := receiveWith_of_read (heard smallFrames.encode) pins rfl (followScript 0 1)
  have inner : (answering smallFrames.encode).receiveWith (followScript 0 0) 0 .dataChannel
      smallFrames.encode = answered smallFrames.encode :=
    receiveWith_of_read (heardAnswer smallFrames.encode) frames rfl (followScript 0 0)
  rw [begun, outer, nested, inner]
  rfl

/-- The pins are pushed first, and the small frames, which are asked for during that push, behind
    them. -/
theorem pushes_of_history_feedBack :
    let now := watcher.run (feedBack pinsThree.encode smallFrames.encode)
    (now.calls 0).map (·.maxFrameHeight) = [2160, 90] ∧
      now.pushes 0 = (now.calls 0).map (fun inputs => inputs.constraints.erase "e") ∧
      (now.pushes 0).length = 2 := by
  rw [run_feedBack]
  intro now
  have fresh : watcher.Fresh := ⟨rfl, fun tr mem => ⟨"e", {}, none, 0, List.mem_singleton.1 mem⟩⟩
  have attended (answer : String) : ((fedBack answer).transport 0).endpoint.isSome = true := rfl
  have own (answer : String) : ((fedBack answer).transport 0).endpointId = "e" := rfl
  have generation (answer : String) : ((fedBack answer).transport 0).generation = 2 := rfl
  have heights : ((fedBack smallFrames.encode).calls 0).map (·.maxFrameHeight) = [2160, 90] := by
    decide +kernel
  have moment : watcher.Moment (feedBack pinsThree.encode smallFrames.encode)
      (watcher.occurrences (feedBack pinsThree.encode smallFrames.encode))
      (fedBack smallFrames.encode) := by
    rw [← run_feedBack]
    exact .between (feedBack pinsThree.encode smallFrames.encode) [] (List.append_nil _).symm
  obtain ⟨order, -, -, count, length, -⟩ := pushes_of_history fresh moment (attended _)
  rw [own] at order
  rw [generation] at count
  exact ⟨heights, order, length.trans count.symm⟩

end Bridge

end ControlChannel
