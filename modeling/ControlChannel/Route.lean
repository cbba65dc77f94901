import ControlChannel.Message.Basic

/-!
# Routes of endpoint messages

An endpoint message without a recipient goes to every other endpoint that the bridge hosts in the
conference and on to the other bridges. A message with a recipient goes to that endpoint alone, or
to the other bridges if one of them hosts it.
-/

namespace ControlChannel

/-- Where a member of a conference is hosted. -/
inductive Location where
  | here
  | remote
  deriving DecidableEq, Repr

/-- A conference: the ids of the members on this bridge, in order, and of those on others. -/
structure Conference where
  locals : List String
  remotes : List String
  expired : Bool := false
  deriving DecidableEq, Repr

namespace Conference

/-- Where a member is hosted; who is listed as both is remote. -/
def locate (c : Conference) (id : String) : Option Location :=
  if id ∈ c.remotes then some .remote
  else if id ∈ c.locals then some .here
  else none

end Conference

/-- What a relay sees of a conference: the ids that it lists for this bridge, in order, where it
    finds a member of a given id, and whether it is expired. What it lists and what it finds need
    not agree. -/
structure Roster where
  locals : List String
  locate : String → Option Location
  expired : Bool := false

/-- The roster of a conference that finds the members that it lists. -/
def Conference.roster (c : Conference) : Roster :=
  ⟨c.locals, c.locate, c.expired⟩

instance : Coe Conference Roster := ⟨Conference.roster⟩

/-- Where an endpoint message goes. -/
inductive Route where
  | broadcast (targets : List String)
  | unicast (target : String)
  | remote
  | unknownTarget (target : String)
  | noConference
  deriving DecidableEq, Repr

namespace Route

/-- The route of a message in a conference that is not expired. -/
def resolve (sender : String) (roster : Roster) (m : EndpointMessage) : Route :=
  if m.isBroadcast then .broadcast (roster.locals.filter (· ≠ sender))
  else
    let target := m.recipient.getD ""
    match roster.locate target with
    | some .remote => .remote
    | some .here => .unicast target
    | none => .unknownTarget target

/-- The local targets of a route and whether other bridges take part; none if nobody gets the
    message. -/
def delivery : Route → Option (List String × Bool)
  | broadcast targets => some (targets, true)
  | unicast target => some ([target], false)
  | remote => some ([], true)
  | unknownTarget _ | noConference => none

/-- The kind of a route. -/
inductive Label where
  | broadcast
  | unicast
  | remote
  | unknownTarget
  | noConference
  deriving DecidableEq, Repr

/-- The kind of the route. -/
def label : Route → Label
  | broadcast _ => .broadcast
  | unicast _ => .unicast
  | remote => .remote
  | unknownTarget _ => .unknownTarget
  | noConference => .noConference

namespace Label

/-- The word for a kind of route. -/
def name : Label → String
  | broadcast => "broadcast"
  | unicast => "unicast"
  | remote => "remote"
  | unknownTarget => "unknown_target"
  | noConference => "no_conference"

end Label

end Route

namespace EndpointMessage

/-- The message with its sender set, whoever it claimed to be from. -/
def stamp (m : EndpointMessage) (sender : String) : EndpointMessage :=
  { m with sender := some sender }

end EndpointMessage

end ControlChannel
