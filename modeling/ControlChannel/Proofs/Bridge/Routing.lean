import ControlChannel.Proofs.Bridge.Work

/-!
# Where an endpoint message goes

A message that names nobody goes to every other endpoint on this bridge, and to the other bridges. A
message that names somebody goes to that endpoint alone, or to the other bridges alone if the
conference finds it there. Without a conference, or for a name that the conference does not find,
nothing is delivered. Whatever comes of the message, it is stamped with its sender before it is
given away, nothing but the trace of the bridge changes, and its route is counted once.
-/

namespace ControlChannel

/-- What a conference is given to deliver. -/
structure Delivery where
  conference : ConferenceId
  message : EndpointMessage
  targets : List String
  relayRemote : Bool

namespace Event

/-- What a conference is given to deliver by the event. -/
def delivery? : Event → Option Delivery
  | delivered c message targets relayRemote => some ⟨c, message, targets, relayRemote⟩
  | _ => none

end Event

namespace EndpointMessage

/-- The message has no recipient, or one that is white space throughout. -/
def NamesNobody (m : EndpointMessage) : Prop :=
  ∀ id, m.recipient = some id → ∀ c ∈ id.toList, Text.isBlankChar c = true

theorem isBroadcast_iff {m : EndpointMessage} : m.isBroadcast = true ↔ m.NamesNobody := by
  unfold isBroadcast NamesNobody
  cases m.recipient with
  | none => simp
  | some id => simp [Text.isBlank]

/-- Who names somebody names one recipient. -/
theorem recipient_of_names {m : EndpointMessage} (names : ¬ m.NamesNobody) :
    ∃ id, m.recipient = some id := by
  cases named : m.recipient with
  | some id => exact ⟨id, rfl⟩
  | none =>
    refine absurd ?_ names
    intro id found
    rw [named] at found
    cases found

end EndpointMessage

/-- What is to become of a message of `sender` in a conference, if there is one: its route, and what
    the conference is given to deliver. -/
inductive Routed (sender : String) (m : EndpointMessage) :
    Option (ConferenceId × Roster) → Route → List Delivery → Prop where
  /-- There is no conference, or it is expired. -/
  | nowhere {conference : Option (ConferenceId × Roster)} :
      (∀ c roster, conference = some (c, roster) → roster.expired = true) →
      Routed sender m conference .noConference []
  | everyone {c : ConferenceId} {roster : Roster} : roster.expired = false → m.NamesNobody →
      Routed sender m (some (c, roster)) (.broadcast (roster.locals.filter (· ≠ sender)))
        [⟨c, { m with sender := some sender }, roster.locals.filter (· ≠ sender), true⟩]
  | elsewhere {c : ConferenceId} {roster : Roster} {id : String} : roster.expired = false →
      ¬ m.NamesNobody → m.recipient = some id → roster.locate id = some .remote →
      Routed sender m (some (c, roster)) .remote
        [⟨c, { m with sender := some sender }, [], true⟩]
  | alone {c : ConferenceId} {roster : Roster} {id : String} : roster.expired = false →
      ¬ m.NamesNobody → m.recipient = some id → roster.locate id = some .here →
      Routed sender m (some (c, roster)) (.unicast id)
        [⟨c, { m with sender := some sender }, [id], false⟩]
  | nobody {c : ConferenceId} {roster : Roster} {id : String} : roster.expired = false →
      ¬ m.NamesNobody → m.recipient = some id → roster.locate id = none →
      Routed sender m (some (c, roster)) (.unknownTarget id) []

namespace Route

variable {sender : String} {roster : Roster} {m : EndpointMessage}

theorem resolve_of_namesNobody (nobody : m.NamesNobody) :
    resolve sender roster m = .broadcast (roster.locals.filter (· ≠ sender)) :=
  if_pos (EndpointMessage.isBroadcast_iff.2 nobody)

theorem resolve_of_names {id : String} (names : ¬ m.NamesNobody)
    (recipient : m.recipient = some id) : resolve sender roster m =
      match roster.locate id with
      | some .remote => .remote
      | some .here => .unicast id
      | none => .unknownTarget id := by
  unfold resolve
  rw [if_neg (mt EndpointMessage.isBroadcast_iff.1 names), recipient]
  rfl

/-- In a conference that is not expired, what a message comes to is given by its route. -/
theorem routed_resolve (c : ConferenceId) (live : roster.expired = false) :
    Routed sender m (some (c, roster)) (resolve sender roster m)
      ((resolve sender roster m).delivery.map fun (targets, relayRemote) =>
        ⟨c, m.stamp sender, targets, relayRemote⟩).toList := by
  by_cases nobody : m.NamesNobody
  · rw [resolve_of_namesNobody nobody]
    exact .everyone live nobody
  · obtain ⟨id, recipient⟩ := EndpointMessage.recipient_of_names nobody
    rw [resolve_of_names nobody recipient]
    cases found : roster.locate id with
    | none => exact .nobody live nobody recipient found
    | some location =>
      cases location with
      | here => exact .alone live nobody recipient found
      | remote => exact .elsewhere live nobody recipient found

end Route

namespace Bridge

variable {sender : String} {m : EndpointMessage}

/-- What the relaying of a message did: it wrote to the trace, and nothing else. -/
def Relayed (b : Bridge) (relayed : Route × Bridge) (deliveries : List Delivery) : Prop :=
  ∃ events, relayed.2 = { b with trace := b.trace ++ events } ∧
    events.filterMap (·.delivery?) = deliveries ∧
    events.filterMap (·.metric?) = [.routed relayed.1.label]

theorem relayIn_of_gone {conference : Option (ConferenceId × Roster)}
    (gone : ∀ c roster, conference = some (c, roster) → roster.expired = true) (b : Bridge) :
    (b.relayIn sender conference m).1 = .noConference ∧
      b.Relayed (b.relayIn sender conference m) [] := by
  have none : conference.filter (¬ ·.2.expired) = none := by
    cases conference with
    | none => rfl
    | some found => simp [gone found.1 found.2 rfl]
  unfold relayIn
  rw [none]
  refine ⟨rfl, [.logged (.conferenceMissing sender), .counted (.routed .noConference)],
    ?_, rfl, rfl⟩
  simp [log, count, emit, Route.label]

theorem relayIn_of_live {c : ConferenceId} {roster : Roster} (live : roster.expired = false)
    (b : Bridge) :
    (b.relayIn sender (some (c, roster)) m).1 = Route.resolve sender roster m ∧
      b.Relayed (b.relayIn sender (some (c, roster)) m)
        ((Route.resolve sender roster m).delivery.map fun (targets, relayRemote) =>
          ⟨c, m.stamp sender, targets, relayRemote⟩).toList := by
  have found : (some (c, roster)).filter (¬ ·.2.expired) = some (c, roster) := by simp [live]
  -- Neither the recipient nor its blankness depends on the stamp.
  have unstamped : Route.resolve sender roster (m.stamp sender) =
      Route.resolve sender roster m := rfl
  unfold relayIn
  rw [found]
  dsimp only
  rw [unstamped]
  cases Route.resolve sender roster m with
  | broadcast targets =>
    refine ⟨rfl, [.logged (.relaying sender .broadcast targets.length true),
      .delivered c (m.stamp sender) targets true, .counted (.routed .broadcast)], ?_, rfl, rfl⟩
    simp [Route.delivery, Route.label, log, count, emit]
  | unicast target =>
    refine ⟨rfl, [.logged (.relaying sender .unicast 1 false),
      .delivered c (m.stamp sender) [target] false, .counted (.routed .unicast)], ?_, rfl, rfl⟩
    simp [Route.delivery, Route.label, log, count, emit]
  | remote =>
    refine ⟨rfl, [.logged (.relaying sender .remote 0 true),
      .delivered c (m.stamp sender) [] true, .counted (.routed .remote)], ?_, rfl, rfl⟩
    simp [Route.delivery, Route.label, log, count, emit]
  | unknownTarget target =>
    refine ⟨rfl, [.logged (.targetUnknown sender target), .counted (.routed .unknownTarget)],
      ?_, rfl, rfl⟩
    simp [Route.delivery, Route.label, log, count, emit]
  | noConference =>
    refine ⟨rfl, [.logged (.conferenceMissing sender), .counted (.routed .noConference)],
      ?_, rfl, rfl⟩
    simp [Route.delivery, Route.label, log, count, emit]

/-- Relaying is exact: the route and what is delivered are what the conference calls for, the route
    in a conference that is not expired is the one that the message as it came resolves to, with
    the delivery that goes with that route, and the route is counted, once, and nothing else. Apart
    from its trace the bridge is as before. -/
theorem relayIn_routed (b : Bridge) (sender : String) (conference : Option (ConferenceId × Roster))
    (m : EndpointMessage) :
    let relayed := b.relayIn sender conference m
    ∃ events, relayed.2 = { b with trace := b.trace ++ events } ∧
      Routed sender m conference relayed.1 (events.filterMap (·.delivery?)) ∧
      (∀ c roster, conference = some (c, roster) → roster.expired = false →
        relayed.1 = Route.resolve sender roster m ∧
        events.filterMap (·.delivery?) =
          (relayed.1.delivery.map fun (targets, relayRemote) =>
            ⟨c, { m with sender := some sender }, targets, relayRemote⟩).toList) ∧
      events.filterMap (·.metric?) = [.routed relayed.1.label] := by
  intro relayed
  by_cases gone : ∀ c roster, conference = some (c, roster) → roster.expired = true
  · obtain ⟨route, events, traced, delivered, counted⟩ := relayIn_of_gone gone b
    refine ⟨events, traced, ?_, ?_, counted⟩
    · rw [route, delivered]
      exact .nowhere gone
    · intro c roster found live
      rw [gone c roster found] at live
      cases live
  · simp only [Classical.not_forall] at gone
    obtain ⟨c, roster, rfl, live⟩ := gone
    replace live : roster.expired = false := eq_false_of_ne_true live
    obtain ⟨route, events, traced, delivered, counted⟩ := relayIn_of_live live b
    refine ⟨events, traced, ?_, ?_, counted⟩
    · rw [route, delivered]
      exact Route.routed_resolve c live
    · rintro _ _ ⟨⟩ -
      refine ⟨route, ?_⟩
      rw [delivered, ← route]
      rfl

end Bridge

end ControlChannel
