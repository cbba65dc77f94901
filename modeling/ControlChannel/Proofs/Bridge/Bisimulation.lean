import ControlChannel.Proofs.Bridge.Lockstep

/-!
# Runs in lockstep

A relation between two bridges that is kept by all the work for every transport, and by what happens
outside of transports, is kept by whole runs: the same operations give the same answers in both. And
a property that is kept by each small write is kept by all the work for a transport, which is the
case of one bridge in lockstep with itself.
-/

namespace ControlChannel

namespace TransportOperation

/-- The operation works with what the transport has: it puts no data channel into a slot, makes no
    socket, and changes neither the endpoint nor whether the transport is there. -/
def isWork : TransportOperation → Bool
  | clearSocket _ _ _ | close | receive _ _ | receiveBinary _ | send _ | dispatch _ _
  | sendVia _ _ | countReceived _ => true
  | slots operation =>
      match operation with
      | .putDataChannel _ => false
      | _ => true
  | _ => false

/-- What becomes of the transport by an operation that changes who owns it, or whether it is there.
    -/
def change? : TransportOperation → Option (Transport → Transport)
  | dropEndpoint => some fun tr => { tr with endpoint := none }
  | dropTransport => some fun tr => { tr with live := false, channels := {} }
  | joinConference c => some fun tr =>
      { tr with endpoint := tr.endpoint.map fun e => { e with conference := c } }
  | rehearse script => some fun tr =>
      { tr with endpoint := tr.endpoint.map fun e => { e with script := script } }
  | _ => none

end TransportOperation

namespace Bridge

variable {b b' : Bridge} {t : TransportId} {R : Bridge → Bridge → Prop}

/-! ## Work by itself -/

namespace Lockstep

/-- A socket changes in a way that depends on what it is. -/
theorem changeSocket (h : Lockstep t R) (s : SocketId) (f : Socket → Socket) (related : R b b') :
    R (b.setSocket s (f (b.socket s))) (b'.setSocket s (f (b'.socket s))) := by
  rw [h.socket related]
  exact h.setSocket s _ related

theorem greet (h : Lockstep t R) (s : SocketId) (greeting : Option String) (related : R b b') :
    R (match greeting with
        | some text => (b.sendOn (.socket s) text).toOption.getD b
        | none => b)
      (match greeting with
        | some text => (b'.sendOn (.socket s) text).toOption.getD b'
        | none => b') := by
  cases greeting with
  | none => exact related
  | some text =>
    dsimp only
    rcases h.sendOn (.socket s) text related with ⟨e, sent, sent'⟩ | ⟨c, c', sent, sent', taken⟩
    · rw [sent, sent']
      exact related
    · rw [sent, sent']
      exact taken

theorem stepSlots (h : Lockstep t R) {operation : SlotOperation}
    (work : (TransportOperation.slots operation).isWork = true) (related : R b b') :
    (b'.stepSlots t operation).1 = (b.stepSlots t operation).1 ∧
      R (b.stepSlots t operation).2 (b'.stepSlots t operation).2 := by
  cases operation with
  | putSocket s greeting => exact ⟨rfl, h.putSocket s (h.greet s greeting) related⟩
  | takeSocket s =>
    obtain ⟨same, took⟩ := h.takeSocket s related
    exact ⟨congrArg Answer.flag same, took⟩
  | markSocket s =>
    have marked := h.markSocket s related
    unfold Bridge.stepSlots
    dsimp only
    generalize b.markSocket t s = found at *
    generalize b'.markSocket t s = found' at *
    cases marked with
    | none => exact ⟨rfl, related⟩
    | some marked => exact ⟨rfl, marked⟩
  | markDataChannel =>
    refine ⟨?_, h.markDataChannel related⟩
    unfold Bridge.stepSlots
    rw [h.liveDataChannel related]
  | giveUpSocket =>
    obtain ⟨same, gave⟩ := h.giveUpSocket related
    exact ⟨congrArg Answer.flag same, gave⟩
  | putDataChannel d => cases work

/-- Work for the transport comes to the same. -/
theorem stepTransport (h : Lockstep t R) {operation : TransportOperation}
    (work : operation.isWork = true) (related : R b b') :
    (b'.stepTransport t operation).1 = (b.stepTransport t operation).1 ∧
      R (b.stepTransport t operation).2 (b'.stepTransport t operation).2 := by
  cases operation with
  | clearSocket s status reason => exact ⟨rfl, h.clearSocket s status reason related⟩
  | close => exact ⟨rfl, h.close related⟩
  | receive source text => exact ⟨rfl, h.receive source text related⟩
  | receiveBinary length => exact ⟨rfl, h.receiveBinary length related⟩
  | send message => exact ⟨rfl, h.send message related⟩
  | dispatch channel message => exact ⟨rfl, h.dispatch channel message related⟩
  | sendVia channel message => exact ⟨rfl, h.sendVia channel message related⟩
  | countReceived channel => exact ⟨rfl, h.updateStatistics _ related⟩
  | slots operation => exact h.stepSlots work related
  | _ => cases work

end Lockstep

/-- A property of bridges that is kept by all the work for a transport. -/
structure Kept (t : TransportId) (P : Bridge → Prop) : Prop where
  emit {b : Bridge} {e : Event} : e.isPlain = true → P b → P (b.emit e)
  /-- Something is given to the endpoint or to its conference. -/
  hand {b : Bridge} {e : Event} : (b.transport t).endpoint.isSome = true → e.isOf t = true →
    P b → P (b.emit e)
  setSocket {b : Bridge} (s : SocketId) (state : Socket) : P b → P (b.setSocket s state)
  updateStatistics {b : Bridge} (f : Statistics → Statistics) : P b → P (b.updateStatistics t f)
  /-- The transport changes, but not its id, nor whether its endpoint is there. -/
  update {b : Bridge} {f : Transport → Transport} : (∀ tr, (f tr).endpointId = tr.endpointId) →
    (∀ tr, (f tr).endpoint.isSome = tr.endpoint.isSome) → P b → P (b.updateTransport t f)

namespace Kept

variable {P : Bridge → Prop}

/-- Such a property holds of a bridge in lockstep with itself. -/
theorem lockstep (h : Kept t P) : Lockstep t fun b b' => b' = b ∧ P b where
  toHandles := .of_endpoint
    (fun plain related => ⟨congrArg (Bridge.emit · _) related.1, h.emit plain related.2⟩)
    (fun there own related => ⟨congrArg (Bridge.emit · _) related.1, h.hand there own related.2⟩)
    (fun related => congrArg (fun b => (transport b t).inner) related.1)
    (fun related => congrArg (fun b => (transport b t).endpoint) related.1)
    (fun related => congrArg (·.conferences) related.1)
    (fun inner related => ⟨congrArg (updateTransport · t _) related.1,
      h.update inner.endpointId (fun tr => by rw [(inner.keeps tr).2]) related.2⟩)
  sockets related := congrArg (·.sockets) related.1
  dataChannels related := congrArg (·.dataChannels) related.1
  channels related := congrArg (fun b => (transport b t).channels.detached) related.1
  liveDataChannel related := congrArg (liveDataChannel · t) related.1
  script related := congrArg (script · t) related.1
  setSocket s state related :=
    ⟨congrArg (Bridge.setSocket · s state) related.1, h.setSocket s state related.2⟩
  updateStatistics f related :=
    ⟨congrArg (Bridge.updateStatistics · t f) related.1, h.updateStatistics f related.2⟩
  move _ _ related := ⟨congrArg (updateTransport · t _) related.1,
    h.update (fun _ => rfl) (fun _ => rfl) related.2⟩
  advance related := ⟨congrArg (advanceScript · t) related.1,
    h.update (fun _ => rfl) (fun tr => Option.isSome_map) related.2⟩

theorem stepTransport (h : Kept t P) {operation : TransportOperation}
    (work : operation.isWork = true) (holds : P b) : P (b.stepTransport t operation).2 :=
  (h.lockstep.stepTransport work ⟨rfl, holds⟩).2.2

end Kept

/-! ## All that happens to a transport -/

/-- A relation between two bridges that is kept by every operation of a transport, apart from
    changes of who owns it that are not allowed. -/
structure Operates (t : TransportId) (allowed : TransportOperation → Prop)
    (R : Bridge → Bridge → Prop) : Prop extends Lockstep t R where
  tell {b b' : Bridge} (id : String) : R b b' →
    R (b.emit (.connected t id)) (b'.emit (.connected t id))
  addSocket {b b' : Bridge} (state : Socket) : R b b' →
    R { b with sockets := b.sockets ++ [state] } { b' with sockets := b'.sockets ++ [state] }
  /-- A data channel changes; a dead one stays dead. -/
  setDataChannel {b b' : Bridge} (d : DataChannelId) {state : DataChannel} :
    (state.live = true → (b.dataChannel d).live = true) → R b b' →
      R (b.setDataChannel d state) (b'.setDataChannel d state)
  /-- A data channel is put into a slot in which none is alive. -/
  putDataChannel {b b' : Bridge} (d : DataChannelId) : b.liveDataChannel t = none → R b b' →
    R (b.setChannels t ((b.transport t).channels.putDataChannel d))
      (b'.setChannels t ((b'.transport t).channels.putDataChannel d))
  change {b b' : Bridge} {operation : TransportOperation} {f : Transport → Transport} :
    operation.change? = some f → allowed operation → R b b' →
      R (b.updateTransport t f) (b'.updateTransport t f)

namespace Operates

variable {allowed : TransportOperation → Prop}

theorem openSocket (h : Operates t allowed R) (buffer : Nat) (related : R b b') :
    (b'.openSocket buffer).1 = (b.openSocket buffer).1 ∧
      R (b.openSocket buffer).2 (b'.openSocket buffer).2 := by
  have sockets := h.sockets related
  unfold Bridge.openSocket Bridge.addSocket
  cases Socket.create buffer with
  | error misuse => exact ⟨rfl, related⟩
  | ok state =>
    exact ⟨congrArg (fun made : List Socket => Answer.socket made.length) sockets,
      h.addSocket state related⟩

theorem notifyConnected (h : Operates t allowed R) (related : R b b') :
    R (b.notifyConnected t) (b'.notifyConnected t) := by
  unfold Bridge.notifyConnected
  dsimp only
  rw [h.endpointId related]
  exact h.tell _ (h.log _ related)

theorem installSocket (h : Operates t allowed R) (s : SocketId)
    (related : R b b') : R (b.installSocket t s) (b'.installSocket t s) := by
  have put := h.putSocket s (h.sendVia (.socket s) .hello) related
  unfold Bridge.installSocket
  dsimp only
  rw [h.endpointId put]
  exact h.notifyConnected (h.log _ put)

/-- A data channel changes in a way that depends on what it is. -/
theorem changeDataChannel (h : Operates t allowed R) (d : DataChannelId)
    {f : DataChannel → DataChannel} (stays : ∀ state, (f state).live = true → state.live = true)
    (related : R b b') :
    R (b.setDataChannel d (f (b.dataChannel d))) (b'.setDataChannel d (f (b'.dataChannel d))) := by
  rw [h.dataChannel related]
  exact h.setDataChannel d (stays _) related

/-- A data channel is put into a slot in both bridges, or it is the same misuse in both. -/
theorem attach (h : Operates t allowed R) (d : DataChannelId)
    (related : R b b') :
    (∃ misuse, b.putDataChannel t d = .error misuse ∧ b'.putDataChannel t d = .error misuse) ∨
      ∃ c c', b.putDataChannel t d = .ok c ∧ b'.putDataChannel t d = .ok c' ∧ R c c' := by
  unfold Bridge.putDataChannel
  rw [h.liveDataChannel related]
  cases empty : b.liveDataChannel t with
  | some old => exact .inl ⟨_, rfl, rfl⟩
  | none => exact .inr ⟨_, _, rfl, rfl, h.putDataChannel d empty related⟩

theorem attempt_putDataChannel (h : Operates t allowed R) (d : DataChannelId)
    (related : R b b') :
    (b'.attempt (b'.putDataChannel t d)).1 = (b.attempt (b.putDataChannel t d)).1 ∧
      R (b.attempt (b.putDataChannel t d)).2 (b'.attempt (b'.putDataChannel t d)).2 := by
  rcases h.attach d related with ⟨misuse, put, put'⟩ | ⟨c, c', put, put', taken⟩
  · rw [put, put']
    exact ⟨rfl, related⟩
  · rw [put, put']
    exact ⟨rfl, taken⟩

theorem installDataChannel (h : Operates t allowed R) (d : DataChannelId)
    (related : R b b') :
    (b'.attempt (b'.installDataChannel t d)).1 = (b.attempt (b.installDataChannel t d)).1 ∧
      R (b.attempt (b.installDataChannel t d)).2 (b'.attempt (b'.installDataChannel t d)).2 := by
  unfold Bridge.installDataChannel
  rcases h.attach d related with ⟨misuse, put, put'⟩ | ⟨c, c', put, put', taken⟩
  · rw [put, put']
    exact ⟨rfl, related⟩
  · rw [put, put']
    refine ⟨rfl, ?_⟩
    have hooked := h.changeDataChannel d (f := fun state => { state with listener := some t })
      (fun _ => id) taken
    simp only [ok_bind, pure_eq_ok, Bridge.attempt]
    rw [h.dataChannel taken] at hooked ⊢
    split
    · exact h.notifyConnected hooked
    · exact hooked

theorem stepTransport (h : Operates t allowed R) {operation : TransportOperation}
    (asked : allowed operation) (related : R b b') :
    (b'.stepTransport t operation).1 = (b.stepTransport t operation).1 ∧
      R (b.stepTransport t operation).2 (b'.stepTransport t operation).2 := by
  cases work : operation.isWork with
  | true => exact h.toLockstep.stepTransport work related
  | false =>
    cases operation with
    | newSocket =>
      have opened := h.openSocket (b.transport t).config.sendBuffer related
      unfold Bridge.stepTransport
      dsimp only
      rw [h.config related]
      exact opened
    | installSocket s => exact ⟨rfl, h.installSocket s related⟩
    | installDataChannel d => exact h.installDataChannel d related
    | dropEndpoint => exact ⟨rfl, h.change rfl asked related⟩
    | dropTransport => exact ⟨rfl, h.change rfl asked related⟩
    | joinConference c => exact ⟨rfl, h.change rfl asked related⟩
    | rehearse script => exact ⟨rfl, h.change rfl asked related⟩
    | slots operation =>
      cases operation with
      | putDataChannel d => exact h.attempt_putDataChannel d related
      | _ => cases work
    | _ => cases work

end Operates

/-- A property of bridges that is kept by every operation of a transport, apart from changes of who
    owns it that are not allowed. -/
structure Stays (t : TransportId) (allowed : TransportOperation → Prop) (P : Bridge → Prop) :
    Prop extends Kept t P where
  tell {b : Bridge} (id : String) : P b → P (b.emit (.connected t id))
  addSocket {b : Bridge} (state : Socket) : P b → P { b with sockets := b.sockets ++ [state] }
  setDataChannel {b : Bridge} (d : DataChannelId) {state : DataChannel} :
    (state.live = true → (b.dataChannel d).live = true) → P b → P (b.setDataChannel d state)
  setChannels {b : Bridge} (channels : ChannelPair) : P b → P (b.setChannels t channels)
  change {b : Bridge} {operation : TransportOperation} {f : Transport → Transport} :
    operation.change? = some f → allowed operation → P b → P (b.updateTransport t f)

namespace Stays

variable {P : Bridge → Prop} {allowed : TransportOperation → Prop}

theorem operates (h : Stays t allowed P) : Operates t allowed fun b b' => b' = b ∧ P b where
  toLockstep := h.lockstep
  tell id related := ⟨congrArg (Bridge.emit · _) related.1, h.tell id related.2⟩
  addSocket state related :=
    ⟨congrArg (fun b : Bridge => { b with sockets := b.sockets ++ [state] }) related.1,
      h.addSocket state related.2⟩
  setDataChannel d state stays related :=
    ⟨congrArg (Bridge.setDataChannel · d state) related.1, h.setDataChannel d stays related.2⟩
  putDataChannel d _ related :=
    ⟨congrArg (fun b => Bridge.setChannels b t ((transport b t).channels.putDataChannel d)) related.1,
      h.setChannels _ related.2⟩
  change changes asked related :=
    ⟨congrArg (Bridge.updateTransport · _ _) related.1, h.change changes asked related.2⟩

theorem stepTransport (h : Stays t allowed P) {operation : TransportOperation}
    (asked : allowed operation) (holds : P b) : P (b.stepTransport t operation).2 :=
  (h.operates.stepTransport asked ⟨rfl, holds⟩).2.2

end Stays

/-! ## Whole runs -/

/-- A relation between two bridges that is kept by every operation, apart from changes of who owns a
    transport that are not allowed. -/
structure Bisimulation (allowed : Operation → Prop) (R : Bridge → Bridge → Prop) : Prop where
  operates (t : TransportId) : Operates t (fun operation => allowed (.transport t operation)) R
  isHeld {b b' : Bridge} (s : SocketId) : R b b' → b'.isHeld s = b.isHeld s
  addDataChannel {b b' : Bridge} (ready : Bool) : R b b' →
    R (b.addDataChannel ready).2 (b'.addDataChannel ready).2
  expire {b b' : Bridge} (c : ConferenceId) : R b b' → R (b.expire c) (b'.expire c)

namespace Bisimulation

variable {allowed : Operation → Prop}

theorem isLive (h : Bisimulation allowed R) (related : R b b') : b'.isLive = b.isLive :=
  funext fun t => (h.operates t).isLive related

theorem listener (h : Bisimulation allowed R) (d : DataChannelId) (related : R b b') :
    b'.listener d = b.listener d := by
  unfold Bridge.listener
  rw [(h.operates 0).dataChannel related, h.isLive related]

theorem setReady (h : Bisimulation allowed R) (d : DataChannelId) (ready : Bool)
    (related : R b b') : R (b.setReady d ready) (b'.setReady d ready) := by
  have set := (h.operates 0).changeDataChannel d (f := fun state => { state with ready := ready })
    (fun _ => id) related
  unfold Bridge.setReady
  dsimp only
  rw [(h.operates 0).dataChannel related] at set ⊢
  split
  · rw [h.listener d set]
    cases (b.setDataChannel d _).listener d with
    | none => exact set
    | some t => exact (h.operates t).notifyConnected set
  · exact set

/-- A message of a data channel comes to the same, if the transport that it reports to does the same
    with it. -/
theorem deliver (h : Bisimulation allowed R) (d : DataChannelId)
    {receive receive' : TransportId → Bridge} (receives : ∀ t, R (receive t) (receive' t))
    (related : R b b') :
    (b'.attempt (b'.deliver d receive')).1 = (b.attempt (b.deliver d receive)).1 ∧
      R (b.attempt (b.deliver d receive)).2 (b'.attempt (b'.deliver d receive')).2 := by
  unfold Bridge.deliver
  rw [(h.operates 0).dataChannel related]
  cases (b.dataChannel d).listener with
  | none => exact ⟨rfl, related⟩
  | some t =>
    refine ⟨rfl, ?_⟩
    dsimp only [Bridge.attempt]
    rw [h.isLive related]
    split
    · exact receives t
    · exact related

/-- An operation gives the same answer in both bridges, and they are related again. -/
theorem step (h : Bisimulation allowed R) {operation : Operation} (asked : allowed operation)
    (related : R b b') :
    (b'.step operation).1 = (b.step operation).1 ∧ R (b.step operation).2 (b'.step operation).2 := by
  have same := h.operates 0
  cases operation with
  | newSocket buffer => exact same.openSocket buffer related
  | cloneHandle s =>
    exact ⟨rfl, same.changeSocket s (fun state => { state with handles := state.handles + 1 }) related⟩
  | dropHandle s =>
    exact ⟨rfl, same.changeSocket s (fun state => { state with handles := state.handles - 1 }) related⟩
  | dropReceiver s => exact ⟨rfl, same.changeSocket s Socket.dropReceiver related⟩
  | sendText s text =>
    unfold Bridge.step
    dsimp only
    rcases same.sendOn (.socket s) text related with ⟨e, sent, sent'⟩ | ⟨c, c', sent, sent', taken⟩
    · rw [sent, sent']
      exact ⟨rfl, related⟩
    · rw [sent, sent']
      exact ⟨rfl, taken⟩
  | closeSession s status reason => exact ⟨rfl, same.closeSession s status reason related⟩
  | takeFrame s =>
    unfold Bridge.step
    dsimp only
    rw [same.socket related]
    exact ⟨rfl, same.setSocket s _ related⟩
  | poll s =>
    unfold Bridge.step
    dsimp only
    rw [same.socket related, h.isHeld s related]
    exact ⟨rfl, same.setSocket s _ related⟩
  | newDataChannel ready =>
    exact ⟨congrArg (fun made : List DataChannel => Answer.dataChannel made.length)
      (same.dataChannels related), h.addDataChannel ready related⟩
  | setReady d ready => exact ⟨rfl, h.setReady d ready related⟩
  | failSends d =>
    exact ⟨rfl, same.changeDataChannel d (f := fun state => { state with failing := true })
      (fun _ => id) related⟩
  | dropDataChannel d =>
    exact ⟨rfl, same.changeDataChannel d (f := fun state => { state with live := false }) nofun
      related⟩
  | deliverText d text =>
    exact h.deliver d (fun t => (h.operates t).receive .dataChannel text related) related
  | deliverBinary d length =>
    exact h.deliver d (fun t => (h.operates t).receiveBinary length related) related
  | expire c => exact ⟨rfl, h.expire c related⟩
  | transport t operation => exact (h.operates t).stepTransport asked related

/-- So it is for runs. The induction is on the operations. -/
theorem run (h : Bisimulation allowed R) {operations : List Operation}
    (asked : ∀ operation ∈ operations, allowed operation) (related : R b b') :
    b'.transcript operations = b.transcript operations ∧
      R (b.run operations) (b'.run operations) := by
  induction operations generalizing b b' with
  | nil => exact ⟨rfl, related⟩
  | cons operation rest ih =>
    obtain ⟨now, rest'⟩ := List.forall_mem_cons.1 asked
    obtain ⟨answer, next⟩ := h.step now related
    obtain ⟨later, last⟩ := ih rest' next
    unfold transcript
    rw [answer, later]
    exact ⟨rfl, last⟩

/-- A property that stays across the operations of every transport, and that takes no notice of new
    data channels and of conferences that expire. -/
theorem of_stays {P : Bridge → Prop}
    (stays : ∀ t, Stays t (fun operation => allowed (.transport t operation)) P)
    (addDataChannel : ∀ {b : Bridge} ready, P b → P (b.addDataChannel ready).2)
    (expire : ∀ {b : Bridge} c, P b → P (b.expire c)) :
    Bisimulation allowed fun b b' => b' = b ∧ P b where
  operates t := (stays t).operates
  isHeld s related := congrArg (Bridge.isHeld · s) related.1
  addDataChannel ready related :=
    ⟨congrArg (fun b => (Bridge.addDataChannel b ready).2) related.1, addDataChannel ready related.2⟩
  expire c related := ⟨congrArg (Bridge.expire · c) related.1, expire c related.2⟩

end Bisimulation

/-- What nothing changes, and the trace has no part in, stays so from one moment of a run to the
    next. -/
theorem Stays.tracked {P : Bridge → Prop} (stays : ∀ t, Stays t (fun _ => True) P)
    (addDataChannel : ∀ {b : Bridge} (ready : Bool), P b → P (b.addDataChannel ready).2)
    (expire : ∀ {b : Bridge} (c : ConferenceId), P b → P (b.expire c))
    (blind : ∀ {b : Bridge} (e : Event), P (b.emit e) ↔ P b) :
    Tracked fun b _ b' => P b → P b' := by
  have bisimulation : Bisimulation (fun _ => True) fun b b' => b' = b ∧ P b :=
    .of_stays stays addDataChannel expire
  have step (b : Bridge) (operation : Operation) (holds : P b) : P (b.step operation).2 :=
    (bisimulation.step trivial ⟨rfl, holds⟩).2.2
  have receive (b : Bridge) (t : TransportId) (source : Source) (text : String) (holds : P b) :
      P (b.receiveWith ignore t source text) :=
    ((stays t).lockstep.receiveWith (follows_zero t _) source text ⟨rfl, holds⟩).2
  exact {
    refl := fun _ => id
    trans := fun first second holds => second (first holds)
    outside := fun _ => step _ _
    operate := fun t operation _ => step _ (.transport t operation)
    absorb := fun _ => receive _ _ _ _
    push := by
      intro b b' t source text constraints push holds
      obtain ⟨_, _, _, -, -, -, -, received⟩ := pushOf_eq_some push
      have after := receive b t source text holds
      rw [received] at after
      exact (blind _).1 after
    handled := fun _ _ => (blind _).2
    reacting := by
      intro b b' t reactions constraints next holds
      rw [nextReactions_eq] at next
      obtain ⟨_, -, same⟩ := Option.map_eq_some_iff.1 next
      cases same
      exact (blind _).2 ((stays t).update (fun _ => rfl) (fun tr => Option.isSome_map) holds)
    reacted := fun _ _ _ => (blind _).2 }

end Bridge

end ControlChannel
