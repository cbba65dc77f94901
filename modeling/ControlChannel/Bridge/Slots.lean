import ControlChannel.Bridge.Basic

/-!
# Channels of a transport

How texts get onto a channel, how a session is closed, and how channels come into and leave the
slots of a transport. A socket that another one displaces, or that its transport gives up, is
closed; one that is taken out because its session ended is not.
-/

namespace ControlChannel.Bridge

/-- The status and the reason for closing a socket that another one displaces. -/
def replacedStatus : UInt16 × String := (200, "replaced")

/-- The status and the reason for closing a socket whose transport gives it up. -/
def goneStatus : UInt16 × String := (410, "gone")

/-- Sends a text on a channel, if the channel takes it. -/
def sendOn (b : Bridge) (channel : Channel) (text : String) : Except TransportError Bridge :=
  match channel with
  | .socket s =>
      match (b.socket s).send text with
      | .ok state => .ok ((b.setSocket s state).emit (.accepted channel (.text text)))
      | .error e => .error e
  | .dataChannel d =>
      match (b.dataChannel d).refusal with
      | none => .ok (b.emit (.accepted channel (.text text)))
      | some e => .error e

/-- Closes the session of a socket. -/
def closeSession (b : Bridge) (s : SocketId) (status : UInt16) (reason : String) : Bridge :=
  let (state, closing) := (b.socket s).close status reason
  let b := b.setSocket s state
  match closing with
  | .already => b
  | .queued => b.emit (.accepted (.socket s) (.close status reason))
  | .unqueued e => b.log (.closeNotQueued s e)

/-- Closes the socket that `s` displaces, if it is another one. -/
def displaceSocket (b : Bridge) (t : TransportId) (s : SocketId) : Bridge :=
  match (b.transport t).channels.socket with
  | some old =>
      if old = s then b
      else
        (b.log (.replacingSocket old s)).closeSession old replacedStatus.1 replacedStatus.2
  | none => b

/-- Puts a socket into its slot. `greet` comes before anything else can be sent on it. -/
def putSocket (b : Bridge) (t : TransportId) (s : SocketId) (greet : Bridge → Bridge) : Bridge :=
  let b := b.displaceSocket t s
  greet (b.setChannels t ((b.transport t).channels.putSocket s))

/-- Takes a socket out of its slot, unless it is not the one there; tells which of the two it
    was. -/
def takeSocket (b : Bridge) (t : TransportId) (s : SocketId) : Bool × Bridge :=
  match (b.transport t).channels.clearSocket s with
  | some channels => (true, b.setChannels t channels)
  | none => (false, b)

/-- The socket was heard from; there is no answer if it is not the one in the slot. -/
def markSocket (b : Bridge) (t : TransportId) (s : SocketId) : Option Bridge :=
  ((b.transport t).channels.markSocket s).map (b.setChannels t)

/-- The data channel was heard from. -/
def markDataChannel (b : Bridge) (t : TransportId) : Bridge :=
  b.setChannels t (b.transport t).channels.markDataChannel

/-- Closes the socket in the slot for good; tells whether there was one. -/
def giveUpSocket (b : Bridge) (t : TransportId) : Bool × Bridge :=
  match (b.transport t).channels.socket with
  | some s =>
      (true, (b.setChannels t (b.transport t).channels.dropSocket).closeSession s
        goneStatus.1 goneStatus.2)
  | none => (false, b)

/-- Puts a data channel into its slot. That is a misuse while one that was put there is alive. -/
def putDataChannel (b : Bridge) (t : TransportId) (d : DataChannelId) : Except Misuse Bridge :=
  match b.liveDataChannel t with
  | some old => .error (if old = d then .sameDataChannel else .otherDataChannel)
  | none => .ok (b.setChannels t ((b.transport t).channels.putDataChannel d))

end ControlChannel.Bridge
