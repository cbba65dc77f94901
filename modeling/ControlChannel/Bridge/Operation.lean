import ControlChannel.Bridge.Inbound

/-!
# Operations

Everything that can happen to a bridge, one step at a time: what its users ask of it, what the wires
and the media connections report, and what becomes of the endpoints. A run is a list of operations.
-/

namespace ControlChannel

namespace Bridge

/-- Tells that a transport has got a channel. -/
def notifyConnected (b : Bridge) (t : TransportId) : Bridge :=
  let id := (b.transport t).endpointId
  (b.log (.channelConnected id)).emit (.connected t id)

/-- Takes a new socket into use: it displaces an earlier one and is greeted with a hello. -/
def installSocket (b : Bridge) (t : TransportId) (s : SocketId) : Bridge :=
  let b := b.putSocket t s fun b => b.sendVia t (.socket s) .hello
  (b.log (.socketConnected (b.transport t).endpointId s)).notifyConnected t

/-- Attaches a data channel, which from now on reports to this transport. -/
def installDataChannel (b : Bridge) (t : TransportId) (d : DataChannelId) :
    Except Misuse Bridge := do
  let b ← b.putDataChannel t d
  let state := b.dataChannel d
  let b := b.setDataChannel d { state with listener := some t }
  pure (if state.ready then b.notifyConnected t else b)

/-- The transport that a data channel reports to, if it was not dropped. -/
def listener (b : Bridge) (d : DataChannelId) : Option TransportId :=
  (b.dataChannel d).listener.filter b.isLive

/-- A data channel becomes ready, or stops being ready. Becoming ready is reported. -/
def setReady (b : Bridge) (d : DataChannelId) (ready : Bool) : Bridge :=
  let state := b.dataChannel d
  let b := b.setDataChannel d { state with ready := ready }
  if ready ∧ ¬ state.ready then (b.listener d).elim b b.notifyConnected else b

/-- A data channel delivers a message to the transport that it reports to, which gets it by
    `receive`. -/
def deliver (b : Bridge) (d : DataChannelId) (receive : TransportId → Bridge) :
    Except Misuse Bridge :=
  match (b.dataChannel d).listener with
  | none => .error .noListener
  | some t => .ok (if b.isLive t then receive t else b)

/-- The endpoint goes away; its transport stays. -/
def dropEndpoint (b : Bridge) (t : TransportId) : Bridge :=
  b.updateTransport t fun tr => { tr with endpoint := none }

/-- The transport goes away, and its channels leave their slots without being closed. -/
def dropTransport (b : Bridge) (t : TransportId) : Bridge :=
  b.updateTransport t fun tr => { tr with live := false, channels := {} }

/-- Changes the endpoint of a transport, if it is there. -/
def updateEndpoint (b : Bridge) (t : TransportId) (f : Endpoint → Endpoint) : Bridge :=
  b.updateTransport t fun tr => { tr with endpoint := tr.endpoint.map f }

/-- A conference expires. -/
def expire (b : Bridge) (c : ConferenceId) : Bridge :=
  { b with conferences := b.conferences.modify c fun state => { state with expired := true } }

end Bridge

/-- What happens to the slots of one transport, its messages apart. -/
inductive SlotOperation where
  /-- A socket is put in, and greeted with a text if there is one. -/
  | putSocket (s : SocketId) (greeting : Option String)
  | takeSocket (s : SocketId)
  | markSocket (s : SocketId)
  | markDataChannel
  | putDataChannel (d : DataChannelId)
  | giveUpSocket
  deriving DecidableEq, Repr

/-- What happens to one transport. -/
inductive TransportOperation where
  /-- A socket is made with the room that the settings give it. -/
  | newSocket
  | installSocket (s : SocketId)
  | clearSocket (s : SocketId) (status : UInt16) (reason : String)
  | close
  | installDataChannel (d : DataChannelId)
  | receive (source : Source) (text : String)
  | receiveBinary (length : Nat)
  | send (message : Message)
  | dropEndpoint
  | dropTransport
  | joinConference (c : Option ConferenceId)
  /-- The endpoint gets a new script. -/
  | rehearse (script : List (List Reaction))
  | slots (operation : SlotOperation)
  | dispatch (channel : Option Channel) (message : Message)
  | sendVia (channel : Channel) (message : Message)
  | countReceived (channel : ChannelKind)

/-- What happens to a bridge. -/
inductive Operation where
  | newSocket (buffer : Nat)
  | cloneHandle (s : SocketId)
  | dropHandle (s : SocketId)
  | dropReceiver (s : SocketId)
  | sendText (s : SocketId) (text : String)
  | closeSession (s : SocketId) (status : UInt16) (reason : String)
  /-- The wire takes a frame if one is there. -/
  | takeFrame (s : SocketId)
  /-- The wire looks once whether a frame is there or may still come. -/
  | poll (s : SocketId)
  | newDataChannel (ready : Bool)
  | setReady (d : DataChannelId) (ready : Bool)
  | failSends (d : DataChannelId)
  | dropDataChannel (d : DataChannelId)
  | deliverText (d : DataChannelId) (text : String)
  | deliverBinary (d : DataChannelId) (length : Nat)
  | expire (c : ConferenceId)
  | transport (t : TransportId) (operation : TransportOperation)

/-- What an operation tells the one who asked for it. -/
inductive Answer where
  | done
  | refused (error : TransportError)
  | misused (misuse : Misuse)
  /-- Whether the operation had something to act on. -/
  | flag (value : Bool)
  | socket (id : SocketId)
  | dataChannel (id : DataChannelId)
  | frame (frame : Option Frame)
  | polled (poll : Poll)
  deriving DecidableEq, Repr

namespace Bridge

/-- The answer to a call that can be a misuse; a misuse changes nothing. -/
def attempt (b : Bridge) : Except Misuse Bridge → Answer × Bridge
  | .ok b => (.done, b)
  | .error misuse => (.misused misuse, b)

/-- Makes a socket and tells its number. -/
def openSocket (b : Bridge) (buffer : Nat) : Answer × Bridge :=
  match b.addSocket buffer with
  | .ok (s, b) => (.socket s, b)
  | .error misuse => (.misused misuse, b)

/-- One step of the slots of a transport. -/
def stepSlots (b : Bridge) (t : TransportId) : SlotOperation → Answer × Bridge
  | .putSocket s greeting =>
      (.done, b.putSocket t s fun b =>
        match greeting with
        | some text => (b.sendOn (.socket s) text).toOption.getD b
        | none => b)
  | .takeSocket s =>
      let (taken, b) := b.takeSocket t s
      (.flag taken, b)
  | .markSocket s =>
      match b.markSocket t s with
      | some b => (.flag true, b)
      | none => (.flag false, b)
  | .markDataChannel => (.flag (b.liveDataChannel t).isSome, b.markDataChannel t)
  | .putDataChannel d => b.attempt (b.putDataChannel t d)
  | .giveUpSocket =>
      let (present, b) := b.giveUpSocket t
      (.flag present, b)

/-- One step of a transport. -/
def stepTransport (b : Bridge) (t : TransportId) : TransportOperation → Answer × Bridge
  | .newSocket => b.openSocket (b.transport t).config.sendBuffer
  | .installSocket s => (.done, b.installSocket t s)
  | .clearSocket s status reason => (.done, b.clearSocket t s status reason)
  | .close => (.done, b.close t)
  | .installDataChannel d => b.attempt (b.installDataChannel t d)
  | .receive source text => (.done, b.receive t source text)
  | .receiveBinary length => (.done, b.receiveBinary t length)
  | .send message => (.done, b.send t message)
  | .dropEndpoint => (.done, b.dropEndpoint t)
  | .dropTransport => (.done, b.dropTransport t)
  | .joinConference c => (.done, b.updateEndpoint t fun e => { e with conference := c })
  | .rehearse script => (.done, b.updateEndpoint t fun e => { e with script := script })
  | .slots operation => b.stepSlots t operation
  | .dispatch channel message => (.done, b.dispatch t channel message)
  | .sendVia channel message => (.done, b.sendVia t channel message)
  | .countReceived channel => (.done, b.updateStatistics t (·.countReceived channel))

/-- One step of a bridge. -/
def step (b : Bridge) : Operation → Answer × Bridge
  | .newSocket buffer => b.openSocket buffer
  | .cloneHandle s =>
      (.done, b.setSocket s { b.socket s with handles := (b.socket s).handles + 1 })
  | .dropHandle s =>
      (.done, b.setSocket s { b.socket s with handles := (b.socket s).handles - 1 })
  | .dropReceiver s => (.done, b.setSocket s (b.socket s).dropReceiver)
  | .sendText s text =>
      match b.sendOn (.socket s) text with
      | .ok b => (.done, b)
      | .error e => (.refused e, b)
  | .closeSession s status reason => (.done, b.closeSession s status reason)
  | .takeFrame s =>
      let (frame, state) := (b.socket s).take
      (.frame frame, b.setSocket s state)
  | .poll s =>
      let (found, state) := (b.socket s).poll (b.isHeld s)
      (.polled found, b.setSocket s state)
  | .newDataChannel ready =>
      let (d, b) := b.addDataChannel ready
      (.dataChannel d, b)
  | .setReady d ready => (.done, b.setReady d ready)
  | .failSends d => (.done, b.setDataChannel d { b.dataChannel d with failing := true })
  | .dropDataChannel d => (.done, b.setDataChannel d { b.dataChannel d with live := false })
  | .deliverText d text => b.attempt (b.deliver d fun t => b.receive t .dataChannel text)
  | .deliverBinary d length => b.attempt (b.deliver d fun t => b.receiveBinary t length)
  | .expire c => (.done, b.expire c)
  | .transport t operation => b.stepTransport t operation

/-- A run: one operation after the other. -/
def run (b : Bridge) (operations : List Operation) : Bridge :=
  operations.foldl (fun b operation => (b.step operation).2) b

end Bridge

end ControlChannel
