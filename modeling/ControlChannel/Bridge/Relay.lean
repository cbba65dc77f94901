import ControlChannel.Bridge.Basic

/-!
# Relaying

An endpoint message is stamped with the endpoint it came from, routed within that endpoint's
conference, and given to the conference for delivery. Each message is counted by its route, also
where nobody gets it.
-/

namespace ControlChannel.Bridge

/-- The roster of the conference that an endpoint is in, if it is in one that is there. -/
def rosterOf (b : Bridge) (conference : Option ConferenceId) : Option (ConferenceId × Roster) :=
  conference.bind fun c => b.conferences[c]?.map fun state => (c, state.roster)

/-- Relays a message of the endpoint `sender` in a conference with the given roster. -/
def relayIn (b : Bridge) (sender : String) (conference : Option (ConferenceId × Roster))
    (message : EndpointMessage) : Route × Bridge :=
  let stamped := message.stamp sender
  let (route, b) :=
    match conference.filter (¬ ·.2.expired) with
    | none => (Route.noConference, b)
    | some (c, roster) =>
        let route := Route.resolve sender roster stamped
        match route.delivery with
        | none => (route, b)
        | some (targets, relayRemote) =>
            (route, (b.log (.relaying sender route.label targets.length relayRemote)).emit
              (.delivered c stamped targets relayRemote))
  let b :=
    match route with
    | .noConference => b.log (.conferenceMissing sender)
    | .unknownTarget target => b.log (.targetUnknown sender target)
    | _ => b
  (route, b.count (.routed route.label))

/-- Relays a message of the endpoint `sender` in a conference of the bridge. -/
def relay (b : Bridge) (sender : String) (conference : Option ConferenceId)
    (message : EndpointMessage) : Route × Bridge :=
  b.relayIn sender (b.rosterOf conference) message

end ControlChannel.Bridge
