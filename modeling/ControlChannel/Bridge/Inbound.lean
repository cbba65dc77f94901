import ControlChannel.Bridge.Outbound
import ControlChannel.Bridge.Relay
import ControlChannel.Message.Decode

/-!
# Receiving

A text from a channel makes that channel the one last heard from, is counted, read, and handled by
its kind. The answer to a hello goes back on the channel that the hello came on. A text from a
socket that is not in its slot any more changes nothing.

While an endpoint is being given constraints it may call its transport again. What it will do is in
its script, so every run comes to an end: each call that gives it constraints uses up one entry of
the script, and the entries bound how deep the calls nest.
-/

namespace ControlChannel

namespace Message

/-- The answer to a message, if it gets one. -/
def reply? : Message → Option Message
  | clientHello => some hello
  | _ => none

end Message

namespace Bridge

/-- Counts a message received on a kind of channel. -/
def countReceived (b : Bridge) (t : TransportId) (channel : ChannelKind) : Bridge :=
  (b.updateStatistics t (·.countReceived channel)).count (.received channel)

/-- What an endpoint does when it is given constraints. -/
abbrev Callback := SenderConstraints → Bridge → Bridge

/-- Sets an input and gives the endpoint the new constraints, without any on its own video. -/
def updateConstraints (onPush : Callback) (t : TransportId)
    (update : ConstraintInputs → ConstraintInputs) (b : Bridge) : Bridge :=
  let tr := b.transport t
  let inputs := update tr.inputs
  let generation := tr.generation + 1
  let constraints := inputs.constraints.erase tr.endpointId
  let b := (b.updateTransport t fun tr =>
    { tr with inputs := inputs, generation := generation }).emit (.computed t inputs)
  if generation < tr.pushed then b.log (.superseded tr.endpointId generation)
  else
    let b := b.updateTransport t fun tr => { tr with pushed := generation }
    let b := b.log (.newConstraints tr.endpointId constraints.size generation)
    match tr.endpoint with
    | some _ => onPush constraints (b.emit (.pushed t constraints))
    | none => b.log (.constraintsUndelivered tr.endpointId)

/-- Sets the pinned endpoints. -/
def setPinned (onPush : Callback) (t : TransportId) (ids : IdSet) (b : Bridge) : Bridge :=
  (b.log (.pinsChanged (b.transport t).endpointId)).updateConstraints onPush t
    fun inputs => { inputs with pinned := ids }

/-- Sets the selected endpoints. -/
def setSelected (onPush : Callback) (t : TransportId) (ids : IdSet) (b : Bridge) : Bridge :=
  (b.log (.selectionChanged (b.transport t).endpointId)).updateConstraints onPush t
    fun inputs => { inputs with selected := ids }

/-- Sets the frame height. -/
def setMaxFrameHeight (onPush : Callback) (t : TransportId) (height : Int32) (b : Bridge) :
    Bridge :=
  (b.log (.heightReceived (b.transport t).endpointId height)).updateConstraints onPush t
    fun inputs => { inputs with maxFrameHeight := height }

/-- Does what a message asks for, an answer apart. -/
def handle (onPush : Callback) (t : TransportId) (message : Message) (b : Bridge) : Bridge :=
  let tr := b.transport t
  match message with
  | .clientHello => b
  | .pinnedEndpoint id => b.setPinned onPush t (.ofOption id)
  | .pinnedEndpoints ids => b.setPinned onPush t (.ofList ids)
  | .selectedEndpoint id => b.setSelected onPush t (.ofOption id)
  | .selectedEndpoints ids => b.setSelected onPush t (.ofList ids)
  | .receiverVideoConstraint height => b.setMaxFrameHeight onPush t height
  | .lastN value =>
      match tr.endpoint with
      | some _ => b.emit (.lastN t value)
      | none => b.log (.lastNUndelivered tr.endpointId)
  | .endpointMessage m => (b.relay tr.endpointId (tr.endpoint.bind (·.conference)) m).2
  | .serverHello _ | .dominantSpeaker _ | .connectivityStatus _ _ | .lastNEndpoints _
  | .senderVideoConstraints _ | .unknown =>
      (b.count (.unhandled message.kind)).log (.unexpectedKind tr.endpointId message.kind)

/-- Reads a text, unless it is too large. -/
def readText (limit : Nat) (text : String) : Except TransportError Message :=
  if limit < text.utf8ByteSize then .error (.tooLarge text.utf8ByteSize limit)
  else (Message.decode text).mapError .ofDecodeError

/-- Sends an answer on the channel that it is owed on. -/
def reply (b : Bridge) (t : TransportId) (channel : Option Channel) (message : Message) : Bridge :=
  match channel with
  | some channel => b.sendVia t channel message
  | none => b.dispatch t none message

/-- Reads and handles a text; an answer goes back on `channel`. -/
def handleText (onPush : Callback) (t : TransportId) (channel : Option Channel) (text : String)
    (b : Bridge) : Bridge :=
  let tr := b.transport t
  match readText tr.config.maxInboundBytes text with
  | .error e =>
      (b.count (.dropped .inbound (.failed e.label))).log (.undecodable tr.endpointId e)
  | .ok message =>
      let b := (b.handle onPush t message).count (.handled message.kind)
      match message.reply? with
      | some answer => b.reply t channel answer
      | none => b

/-- Receives a text. -/
def receiveWith (onPush : Callback) (t : TransportId) (source : Source) (text : String)
    (b : Bridge) : Bridge :=
  match source with
  | .socket s =>
      match b.markSocket t s with
      | some b => (b.countReceived t .socket).handleText onPush t (some (.socket s)) text
      | none =>
          (b.count (.dropped .inbound .staleSocket)).log
            (.unknownSocket (b.transport t).endpointId s)
  | .dataChannel =>
      let b := b.markDataChannel t
      (b.countReceived t .dataChannel).handleText onPush t
        ((b.liveDataChannel t).map .dataChannel) text

/-- Receives a message on the data channel that is not a text. -/
def receiveBinary (b : Bridge) (t : TransportId) (length : Nat) : Bridge :=
  ((b.markDataChannel t).countReceived t .dataChannel).log
    (.binaryIgnored (b.transport t).endpointId length)

/-- The socket's session ended. -/
def clearSocket (b : Bridge) (t : TransportId) (s : SocketId) (status : UInt16)
    (reason : String) : Bridge :=
  match b.takeSocket t s with
  | (true, b) => b.log (.socketCleared (b.transport t).endpointId s status reason)
  | (false, b) => b

/-- The endpoint expires, and the socket is closed for good. -/
def close (b : Bridge) (t : TransportId) : Bridge :=
  match b.giveUpSocket t with
  | (true, b) => b.log (.closed (b.transport t).endpointId)
  | (false, b) => b

/-- Does one thing that an endpoint's script says, and writes down what it came to. -/
def react (onPush : Callback) (t : TransportId) (b : Bridge) (reaction : Reaction) : Bridge :=
  let seen (b : Bridge) : Bridge := b.emit (.reacted t (.seen (b.snapshot t)))
  match reaction with
  | .receive source text => seen (b.receiveWith onPush t source text)
  | .send text =>
      match Message.decode text with
      | .ok message => seen (b.send t message)
      | .error e => b.emit (.reacted t (.unreadable (.ofDecodeError e)))
  | .clearSocket s status => seen (b.clearSocket t s status "")
  | .close => seen (b.close t)
  | .observe => seen b

/-- The reactions that the endpoint's script has for the next constraints, and the bridge without
    them in the script. -/
def nextReactions (b : Bridge) (t : TransportId) : Option (List Reaction × Bridge) :=
  match (b.transport t).endpoint with
  | some ⟨conference, reactions :: script⟩ =>
      some (reactions, b.updateTransport t fun tr =>
        { tr with endpoint := some ⟨conference, script⟩ })
  | _ => none

/-- What an endpoint does when it is given constraints: the next entry of its script. `depth` bounds
    the entries. -/
def followScript (t : TransportId) : Nat → Callback
  | 0, _, b => b
  | depth + 1, constraints, b =>
      match b.nextReactions t with
      | some (reactions, b) =>
          reactions.foldl (react (followScript t depth) t) (b.emit (.reacting t constraints))
      | none => b

/-- The number of entries that the script of a transport's endpoint has. -/
def scriptLength (b : Bridge) (t : TransportId) : Nat :=
  ((b.transport t).endpoint.map (·.script.length)).getD 0

/-- Receives a text, the endpoint following its script. -/
def receive (b : Bridge) (t : TransportId) (source : Source) (text : String) : Bridge :=
  b.receiveWith (followScript t (b.scriptLength t)) t source text

end Bridge

end ControlChannel
