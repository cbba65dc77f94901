import ControlChannel.Proofs.Bridge.Growth
import ControlChannel.Proofs.Bridge.Handling
import ControlChannel.Proofs.Bridge.SocketWire

/-!
# Two bridges in lockstep

The work for a transport, and whole steps and runs, in two bridges at once. A relation between two
bridges that is kept by each small write, and under which both read the same, is kept by all the work
for a transport; and if it is kept by what happens outside of transports as well, then runs of the
same operations give the same answers and end in bridges that are related again.
-/

namespace ControlChannel

namespace ChannelPair

/-- The pair without its data channel. -/
def detached (p : ChannelPair) : ChannelPair :=
  { p with dataChannel := none }

/-- A change of a pair of channels in which the data channel has no part. -/
def Apart (g : ChannelPair → ChannelPair) : Prop :=
  ∀ p slot, g { p with dataChannel := slot } = { g p with dataChannel := slot }

theorem clearSocket_apart (s : SocketId) (p : ChannelPair) (slot : Option DataChannelId) :
    clearSocket { p with dataChannel := slot } s =
      (p.clearSocket s).map fun p => { p with dataChannel := slot } := by
  unfold clearSocket
  split <;> rfl

theorem markSocket_apart (s : SocketId) (p : ChannelPair) (slot : Option DataChannelId) :
    markSocket { p with dataChannel := slot } s =
      (p.markSocket s).map fun p => { p with dataChannel := slot } := by
  unfold markSocket
  split <;> rfl

end ChannelPair

namespace Bridge

open Transport

/-- Two changes of a transport are the same if they make the same of it as it is. -/
theorem updateTransport_congr {b : Bridge} {t : TransportId} {f g : Transport → Transport}
    (same : f (b.transport t) = g (b.transport t)) :
    b.updateTransport t f = b.updateTransport t g := by
  unfold transport at same
  unfold updateTransport
  congr 1
  refine List.ext_getElem? fun u => ?_
  rw [List.getElem?_modify, List.getElem?_modify]
  by_cases here : t = u
  · subst here
    rw [List.getD_eq_getElem?_getD] at same
    cases found : b.transports[t]? with
    | none => rfl
    | some tr =>
      rw [found, Option.getD_some] at same
      simp [same]
  · simp [here]

/-- Changes of transports can be made in any order, if the two changes of one transport can. -/
theorem updateTransport_comm {t u : TransportId} {f g : Transport → Transport} (b : Bridge)
    (comm : t = u → ∀ tr, f (g tr) = g (f tr)) :
    (b.updateTransport t g).updateTransport u f = (b.updateTransport u f).updateTransport t g := by
  unfold updateTransport
  congr 1
  by_cases same : t = u
  · subst same
    dsimp only
    rw [List.modify_modify_eq, List.modify_modify_eq]
    congr 1
    exact funext (comm rfl)
  · exact List.modify_modify_ne g f b.transports same

/-- A transport is changed, if it is there. -/
theorem transport_updateTransport_cases (b : Bridge) (t : TransportId) (f : Transport → Transport) :
    (b.updateTransport t f).transport t = f (b.transport t) ∨
      b.transport t = default ∧ (b.updateTransport t f).transport t = default := by
  unfold updateTransport transport
  dsimp only
  rw [List.getD_eq_getElem?_getD, List.getD_eq_getElem?_getD, List.getElem?_modify_eq]
  cases b.transports[t]? with
  | none => exact .inr ⟨rfl, rfl⟩
  | some tr => exact .inl rfl

/-- A change of one transport leaves the others. -/
theorem transport_updateTransport_ne {t u : TransportId} (other : t ≠ u) (b : Bridge)
    (f : Transport → Transport) : (b.updateTransport t f).transport u = b.transport u := by
  unfold updateTransport transport
  dsimp only
  rw [List.getD_eq_getElem?_getD, List.getD_eq_getElem?_getD, List.getElem?_modify_ne f _ other]

/-- A change that leaves the socket in its slot lets nobody go of it. -/
theorem isHeld_updateTransport {f : Transport → Transport}
    (keeps : ∀ tr, (f tr).channels.socket = tr.channels.socket) (b : Bridge) (t : TransportId)
    (s : SocketId) : (b.updateTransport t f).isHeld s = b.isHeld s := by
  have slots : (b.transports.modify t f).map (·.channels.socket) =
      b.transports.map (·.channels.socket) := by
    refine List.ext_getElem? fun u => ?_
    rw [List.getElem?_map, List.getElem?_map, List.getElem?_modify]
    cases b.transports[u]? with
    | none => rfl
    | some tr => by_cases here : t = u <;> simp [here, keeps]
  have held := congrArg (·.any (· == some s)) slots
  simp only [List.any_map] at held
  exact congrArg (decide (0 < (b.socket s).handles) || ·) held

/-- A change that is made from the channels of a transport. -/
theorem setChannels_eq (b : Bridge) (t : TransportId) (g : ChannelPair → ChannelPair) :
    b.setChannels t (g (b.transport t).channels) =
      b.updateTransport t fun tr => { tr with channels := g tr.channels } :=
  updateTransport_congr rfl

/-- The endpoint of a transport goes on in its script. -/
def advanceScript (b : Bridge) (t : TransportId) : Bridge :=
  b.updateEndpoint t fun e => { e with script := e.script.tail }

theorem scriptLength_eq (b : Bridge) (t : TransportId) :
    b.scriptLength t = (b.script t).length := by
  unfold scriptLength script
  cases (b.transport t).endpoint <;> rfl

/-- The next reactions are the first in the script. -/
theorem nextReactions_eq (b : Bridge) (t : TransportId) :
    b.nextReactions t = (b.script t).head?.map fun reactions => (reactions, b.advanceScript t) := by
  unfold nextReactions script advanceScript
  match found : (b.transport t).endpoint with
  | none => rfl
  | some ⟨conference, []⟩ => rfl
  | some ⟨conference, reactions :: script⟩ =>
    refine congrArg (fun b => some (reactions, b)) ?_
    exact updateTransport_congr (by rw [found]; rfl)

/-! ## The work for a transport -/

/-- A relation between two bridges that is kept by all the work for a transport. Both have the same
    sockets and data channels, and the transport is the same, but for a data channel in its slot that
    is not alive, and for its endpoint. -/
structure Lockstep (t : TransportId) (R : Bridge → Bridge → Prop) : Prop extends Handles t R where
  sockets {b b' : Bridge} : R b b' → b'.sockets = b.sockets
  dataChannels {b b' : Bridge} : R b b' → b'.dataChannels = b.dataChannels
  channels {b b' : Bridge} : R b b' →
    (b'.transport t).channels.detached = (b.transport t).channels.detached
  liveDataChannel {b b' : Bridge} : R b b' → b'.liveDataChannel t = b.liveDataChannel t
  script {b b' : Bridge} : R b b' → b'.script t = b.script t
  setSocket {b b' : Bridge} (s : SocketId) (state : Socket) : R b b' →
    R (b.setSocket s state) (b'.setSocket s state)
  updateStatistics {b b' : Bridge} (f : Statistics → Statistics) : R b b' →
    R (b.updateStatistics t f) (b'.updateStatistics t f)
  /-- The channels change. -/
  move {b b' : Bridge} (g : ChannelPair → ChannelPair) : ChannelPair.Apart g → R b b' →
    R (b.updateTransport t fun tr => { tr with channels := g tr.channels })
      (b'.updateTransport t fun tr => { tr with channels := g tr.channels })
  /-- The endpoint goes on in its script. -/
  advance {b b' : Bridge} : R b b' → R (b.advanceScript t) (b'.advanceScript t)

namespace Lockstep

variable {b b' : Bridge} {t : TransportId} {R : Bridge → Bridge → Prop}

/-! ### Reading -/

theorem socket (h : Lockstep t R) (related : R b b') (s : SocketId) :
    b'.socket s = b.socket s := by
  rw [Bridge.socket, h.sockets related, Bridge.socket]

theorem dataChannel (h : Lockstep t R) (related : R b b') (d : DataChannelId) :
    b'.dataChannel d = b.dataChannel d := by
  rw [Bridge.dataChannel, h.dataChannels related, Bridge.dataChannel]

theorem currentSocket (h : Lockstep t R) (related : R b b') :
    b'.currentSocket t = b.currentSocket t := by
  have same := congrArg ChannelPair.socket (h.channels related)
  exact same

theorem lastActive (h : Lockstep t R) (related : R b b') :
    (b'.transport t).channels.lastActive = (b.transport t).channels.lastActive := by
  have same := congrArg ChannelPair.lastActive (h.channels related)
  exact same

theorem dataChannelReady (h : Lockstep t R) (related : R b b') :
    b'.dataChannelReady t = b.dataChannelReady t := by
  unfold Bridge.dataChannelReady
  rw [h.liveDataChannel related]
  simp only [h.dataChannel related]

theorem activeChannel (h : Lockstep t R) (related : R b b') :
    b'.activeChannel t = b.activeChannel t := by
  have socket : (b'.transport t).channels.socket = (b.transport t).channels.socket :=
    h.currentSocket related
  unfold Bridge.activeChannel
  dsimp only
  rw [h.lastActive related, socket, h.dataChannelReady related, h.liveDataChannel related]

theorem snapshot (h : Lockstep t R) (related : R b b') : b'.snapshot t = b.snapshot t := by
  have socket : (b'.transport t).channels.socket = (b.transport t).channels.socket :=
    h.currentSocket related
  have outbox := h.read (·.outbox) (fun _ => rfl) related
  have inputs := h.read (·.inputs) (fun _ => rfl) related
  unfold Bridge.snapshot isConnected
  dsimp only
  rw [h.endpointId related, h.lastActive related, socket, h.dataChannelReady related, outbox,
    inputs, h.activeChannel related]

theorem isLive (h : Lockstep t R) (related : R b b') : b'.isLive t = b.isLive t :=
  h.read (·.live) (fun _ => rfl) related

/-! ### Sending -/

/-- A channel takes a text in both bridges or in none. -/
theorem sendOn (h : Lockstep t R) (channel : Channel) (text : String) (related : R b b') :
    (∃ e, b.sendOn channel text = .error e ∧ b'.sendOn channel text = .error e) ∨
      ∃ c c', b.sendOn channel text = .ok c ∧ b'.sendOn channel text = .ok c' ∧ R c c' := by
  cases channel with
  | socket s =>
    unfold Bridge.sendOn
    dsimp only
    rw [h.socket related]
    cases (b.socket s).send text with
    | error e => exact .inl ⟨e, rfl, rfl⟩
    | ok state => exact .inr ⟨_, _, rfl, rfl, h.emit rfl (h.setSocket s state related)⟩
  | dataChannel d =>
    unfold Bridge.sendOn
    dsimp only
    rw [h.dataChannel related]
    cases (b.dataChannel d).refusal with
    | some e => exact .inl ⟨e, rfl, rfl⟩
    | none => exact .inr ⟨_, _, rfl, rfl, h.emit rfl related⟩

theorem closeSession (h : Lockstep t R) (s : SocketId) (status : UInt16) (reason : String)
    (related : R b b') : R (b.closeSession s status reason) (b'.closeSession s status reason) := by
  unfold Bridge.closeSession
  rw [h.socket related]
  obtain ⟨state, closing⟩ := (b.socket s).close status reason
  have put := h.setSocket s state related
  cases closing with
  | already => exact put
  | queued => exact h.emit rfl put
  | unqueued e => exact h.log _ put

theorem sendVia (h : Lockstep t R) (channel : Channel) (message : Message) (related : R b b') :
    R (b.sendVia t channel message) (b'.sendVia t channel message) := by
  unfold Bridge.sendVia
  dsimp only
  rw [h.endpointId related]
  have told := h.log (.sending (b.transport t).endpointId channel.kind message.kind) related
  rcases h.sendOn channel message.encode told with ⟨e, sent, sent'⟩ | ⟨c, c', sent, sent', taken⟩
  · rw [sent, sent']
    exact h.log _ (h.count _ told)
  · rw [sent, sent']
    exact h.count _ (h.updateStatistics _ taken)

theorem dispatch (h : Lockstep t R) (channel : Option Channel) (message : Message)
    (related : R b b') : R (b.dispatch t channel message) (b'.dispatch t channel message) := by
  cases channel with
  | none =>
    unfold Bridge.dispatch
    dsimp only
    rw [h.endpointId related]
    exact h.log _ (h.count _ (h.update ⟨fun _ _ _ => rfl, fun _ => rfl, fun _ => rfl⟩ related))
  | some channel =>
    exact h.sendVia channel message (h.update ⟨fun _ _ _ => rfl, fun _ => rfl, fun _ => rfl⟩ related)

theorem send (h : Lockstep t R) (message : Message) (related : R b b') :
    R (b.send t message) (b'.send t message) := by
  unfold Bridge.send
  rw [h.activeChannel related]
  exact h.dispatch _ message related

theorem reply (h : Lockstep t R) (channel : Option Channel) (message : Message)
    (related : R b b') : R (b.reply t channel message) (b'.reply t channel message) := by
  cases channel with
  | none => exact h.dispatch none message related
  | some channel => exact h.sendVia channel message related

/-! ### Slots -/

theorem displaceSocket (h : Lockstep t R) (s : SocketId) (related : R b b') :
    R (b.displaceSocket t s) (b'.displaceSocket t s) := by
  have socket : (b'.transport t).channels.socket = (b.transport t).channels.socket :=
    h.currentSocket related
  unfold Bridge.displaceSocket
  rw [socket]
  cases (b.transport t).channels.socket with
  | none => exact related
  | some old =>
    dsimp only
    split
    · exact related
    · exact h.closeSession old _ _ (h.log _ related)

theorem putSocket (h : Lockstep t R) (s : SocketId) {greet : Bridge → Bridge}
    (greets : ∀ {c c' : Bridge}, R c c' → R (greet c) (greet c')) (related : R b b') :
    R (b.putSocket t s greet) (b'.putSocket t s greet) := by
  unfold Bridge.putSocket
  dsimp only
  rw [setChannels_eq _ t (·.putSocket s), setChannels_eq _ t (·.putSocket s)]
  exact greets (h.move (·.putSocket s) (fun _ _ => rfl) (h.displaceSocket s related))

/-- A change that is made from the channels of the transport, which may be to leave them. -/
theorem moveIf (h : Lockstep t R) (g : ChannelPair → Option ChannelPair)
    (apart : ∀ p slot, g { p with dataChannel := slot } =
      (g p).map fun p => { p with dataChannel := slot }) (related : R b b') :
    (g (b.transport t).channels = none ∧ g (b'.transport t).channels = none) ∨
      ∃ p p', g (b.transport t).channels = some p ∧ g (b'.transport t).channels = some p' ∧
        R (b.setChannels t p) (b'.setChannels t p') := by
  have decided : (g (b'.transport t).channels).isSome = (g (b.transport t).channels).isSome := by
    have some (p : ChannelPair) : (g p.detached).isSome = (g p).isSome := by
      rw [ChannelPair.detached, apart, Option.isSome_map]
    rw [← some, h.channels related, some]
  have moved (c : Bridge) {p : ChannelPair} (made : g (c.transport t).channels = some p) :
      c.setChannels t p =
        c.updateTransport t fun tr => { tr with channels := (g tr.channels).getD tr.channels } := by
    rw [← setChannels_eq c t fun p => (g p).getD p, made, Option.getD_some]
  have change : ChannelPair.Apart fun p => (g p).getD p := by
    intro p slot
    dsimp only
    rw [apart]
    cases g p <;> rfl
  cases made : g (b.transport t).channels with
  | none =>
    rw [made, Option.isSome_none, Option.isSome_eq_false_iff, Option.isNone_iff_eq_none] at decided
    exact .inl ⟨rfl, decided⟩
  | some p =>
    rw [made, Option.isSome_some] at decided
    obtain ⟨p', made'⟩ := Option.isSome_iff_exists.1 decided
    refine .inr ⟨p, p', rfl, made', ?_⟩
    rw [moved b made, moved b' made']
    exact h.move _ change related

theorem takeSocket (h : Lockstep t R) (s : SocketId) (related : R b b') :
    (b'.takeSocket t s).1 = (b.takeSocket t s).1 ∧ R (b.takeSocket t s).2 (b'.takeSocket t s).2 := by
  unfold Bridge.takeSocket
  rcases h.moveIf (·.clearSocket s) (ChannelPair.clearSocket_apart s) related with
    ⟨stays, stays'⟩ | ⟨p, p', goes, goes', moved⟩
  · rw [stays, stays']
    exact ⟨rfl, related⟩
  · rw [goes, goes']
    exact ⟨rfl, moved⟩

theorem markSocket (h : Lockstep t R) (s : SocketId) (related : R b b') :
    Option.Rel R (b.markSocket t s) (b'.markSocket t s) := by
  unfold Bridge.markSocket
  rcases h.moveIf (·.markSocket s) (ChannelPair.markSocket_apart s) related with
    ⟨stays, stays'⟩ | ⟨p, p', goes, goes', moved⟩
  · rw [stays, stays']
    exact .none
  · rw [goes, goes']
    exact .some moved

theorem markDataChannel (h : Lockstep t R) (related : R b b') :
    R (b.markDataChannel t) (b'.markDataChannel t) := by
  unfold Bridge.markDataChannel
  rw [setChannels_eq b t (·.markDataChannel), setChannels_eq b' t (·.markDataChannel)]
  exact h.move (·.markDataChannel) (fun _ _ => rfl) related

theorem giveUpSocket (h : Lockstep t R) (related : R b b') :
    (b'.giveUpSocket t).1 = (b.giveUpSocket t).1 ∧ R (b.giveUpSocket t).2 (b'.giveUpSocket t).2 := by
  have socket : (b'.transport t).channels.socket = (b.transport t).channels.socket :=
    h.currentSocket related
  unfold Bridge.giveUpSocket
  rw [socket]
  cases (b.transport t).channels.socket with
  | none => exact ⟨rfl, related⟩
  | some s =>
    dsimp only
    rw [setChannels_eq b t (·.dropSocket), setChannels_eq b' t (·.dropSocket)]
    exact ⟨rfl, h.closeSession s _ _ (h.move (·.dropSocket) (fun _ _ => rfl) related)⟩

theorem clearSocket (h : Lockstep t R) (s : SocketId) (status : UInt16) (reason : String)
    (related : R b b') : R (b.clearSocket t s status reason) (b'.clearSocket t s status reason) := by
  obtain ⟨same, took⟩ := h.takeSocket s related
  unfold Bridge.clearSocket
  generalize b.takeSocket t s = result at *
  generalize b'.takeSocket t s = result' at *
  obtain ⟨taken, c⟩ := result
  obtain ⟨taken', c'⟩ := result'
  obtain rfl : taken' = taken := same
  cases taken' with
  | false => exact took
  | true =>
    dsimp only
    rw [h.endpointId took]
    exact h.log _ took

theorem close (h : Lockstep t R) (related : R b b') : R (b.close t) (b'.close t) := by
  obtain ⟨same, gave⟩ := h.giveUpSocket related
  unfold Bridge.close
  generalize b.giveUpSocket t = result at *
  generalize b'.giveUpSocket t = result' at *
  obtain ⟨present, c⟩ := result
  obtain ⟨present', c'⟩ := result'
  obtain rfl : present' = present := same
  cases present' with
  | false => exact gave
  | true =>
    dsimp only
    rw [h.endpointId gave]
    exact h.log _ gave

/-! ### Receiving -/

theorem countReceived (h : Lockstep t R) (channel : ChannelKind) (related : R b b') :
    R (b.countReceived t channel) (b'.countReceived t channel) :=
  h.count _ (h.updateStatistics _ related)

theorem receiveBinary (h : Lockstep t R) (length : Nat) (related : R b b') :
    R (b.receiveBinary t length) (b'.receiveBinary t length) := by
  unfold Bridge.receiveBinary
  rw [h.endpointId related]
  exact h.log _ (h.countReceived _ (h.markDataChannel related))

theorem receiveWith (h : Lockstep t R) {depth : Nat} (follows : Follows t R depth) (source : Source)
    (text : String) (related : R b b') : R (b.receiveWith (followScript t depth) t source text)
      (b'.receiveWith (followScript t depth) t source text) := by
  cases source with
  | socket s =>
    have marked := h.markSocket s related
    unfold Bridge.receiveWith
    dsimp only
    rw [h.endpointId related]
    generalize b.markSocket t s = found at *
    generalize b'.markSocket t s = found' at *
    cases marked with
    | none => exact h.log _ (h.count _ related)
    | some marked =>
      exact h.handleText follows (h.reply _ _) text (h.countReceived .socket marked)
  | dataChannel =>
    have marked := h.markDataChannel related
    unfold Bridge.receiveWith
    dsimp only
    rw [h.liveDataChannel marked]
    exact h.handleText follows (h.reply _ _) text (h.countReceived .dataChannel marked)

/-- What an endpoint asks for comes to the same. -/
theorem react (h : Lockstep t R) {depth : Nat} (follows : Follows t R depth) (reaction : Reaction)
    (related : R b b') :
    R (b.react (followScript t depth) t reaction) (b'.react (followScript t depth) t reaction) := by
  have seen {c c' : Bridge} (done : R c c') :
      R (c.emit (.reacted t (.seen (c.snapshot t))))
        (c'.emit (.reacted t (.seen (c'.snapshot t)))) := by
    rw [h.snapshot done]
    exact h.emit rfl done
  cases reaction with
  | receive source text => exact seen (h.receiveWith follows source text related)
  | send text =>
    unfold Bridge.react
    dsimp only
    cases Message.decode text with
    | error e => exact h.emit rfl related
    | ok message => exact seen (h.send message related)
  | clearSocket s status => exact seen (h.clearSocket s status "" related)
  | close => exact seen (h.close related)
  | observe => exact seen related

theorem foldl_react (h : Lockstep t R) {depth : Nat} (follows : Follows t R depth)
    (reactions : List Reaction) (related : R b b') :
    R (reactions.foldl (Bridge.react (followScript t depth) t) b)
      (reactions.foldl (Bridge.react (followScript t depth) t) b') := by
  induction reactions generalizing b b' with
  | nil => exact related
  | cons reaction rest ih => exact ih (h.react follows reaction related)

/-- The induction is on the bound of the depth to which calls nest. -/
theorem followScript (h : Lockstep t R) (depth : Nat) : Follows t R depth := by
  induction depth with
  | zero => exact follows_zero t R
  | succ depth ih =>
    intro constraints b b' related
    unfold Bridge.followScript
    rw [nextReactions_eq, nextReactions_eq, h.script related]
    cases (b.script t).head? with
    | none => exact related
    | some reactions => exact h.foldl_react ih reactions (h.emit rfl (h.advance related))

theorem receive (h : Lockstep t R) (source : Source) (text : String) (related : R b b') :
    R (b.receive t source text) (b'.receive t source text) := by
  unfold Bridge.receive
  rw [scriptLength_eq, scriptLength_eq, h.script related]
  exact h.receiveWith (h.followScript _) source text related

end Lockstep

end Bridge

end ControlChannel
