import ControlChannel.Bridge.Operation

/-!
# One call on the slots of a transport

What a call does to the socket in the slot, which sockets it closes, and what becomes of the
sockets' states. A socket leaves its slot in one of three ways: another one displaces it or the
slot is given up, and then it is closed, or it is cleared, and then it is not.
-/

namespace ControlChannel

/-- What is asked of the slots of one transport: that something be done, or which channel is
    active. -/
inductive SlotCall where
  | operate (operation : SlotOperation)
  | activeChannel
  deriving DecidableEq, Repr

/-- A socket that is closed, with the status and the reason that its session is closed with. -/
structure SlotClose where
  socket : SocketId
  status : UInt16
  reason : String
  deriving DecidableEq, Repr

namespace SlotCall

/-- The socket that the call installs. -/
def installs : SlotCall → Option SocketId
  | operate (.putSocket s _) => some s
  | _ => none

/-- What a call closes when `current` is in the slot: a different socket that it displaces, and any
    socket that is given up. -/
def closes (current : Option SocketId) : SlotCall → List SlotClose
  | operate (.putSocket s _) =>
      (current.filter (· ≠ s)).toList.map fun old => ⟨old, 200, "replaced"⟩
  | operate .giveUpSocket => current.toList.map fun old => ⟨old, 410, "gone"⟩
  | _ => []

/-- The socket in the slot after the call when `current` was there before. -/
def slotAfter (current : Option SocketId) : SlotCall → Option SocketId
  | operate (.putSocket s _) => some s
  | operate (.takeSocket s) => current.filter (· ≠ s)
  | operate .giveUpSocket => none
  | _ => current

/-- What a new socket is greeted with. -/
def greet (call : SlotCall) (b : Bridge) : Bridge :=
  match call with
  | operate (.putSocket s (some text)) => (b.sendOn (.socket s) text).toOption.getD b
  | _ => b

end SlotCall

namespace Bridge

/-- The socket in the slot of a transport. -/
def currentSocket (b : Bridge) (t : TransportId) : Option SocketId :=
  (b.transport t).channels.socket

/-- One call on the slots of a transport. The question changes nothing. -/
def call (b : Bridge) (t : TransportId) : SlotCall → Answer × Bridge
  | .operate operation => b.stepSlots t operation
  | .activeChannel => (.done, b)

/-- Closes sockets, one after the other. -/
def closeEach (b : Bridge) (closes : List SlotClose) : Bridge :=
  closes.foldl (fun b close => b.closeSession close.socket close.status close.reason) b

/-! ## What the parts leave alone -/

variable {b b' : Bridge} {t : TransportId}

theorem transports_closeSession (b : Bridge) (s : SocketId) (status : UInt16)
    (reason : String) : (b.closeSession s status reason).transports = b.transports := by
  unfold closeSession
  obtain ⟨state, closing⟩ := (b.socket s).close status reason
  cases closing <;> rfl

theorem sockets_closeSession (b : Bridge) (s : SocketId) (status : UInt16)
    (reason : String) : (b.closeSession s status reason).sockets =
      b.sockets.set s ((b.socket s).close status reason).1 := by
  unfold closeSession
  obtain ⟨state, closing⟩ := (b.socket s).close status reason
  cases closing <;> rfl

theorem transports_displaceSocket (b : Bridge) (t : TransportId) (s : SocketId) :
    (b.displaceSocket t s).transports = b.transports := by
  unfold displaceSocket
  cases (b.transport t).channels.socket with
  | none => rfl
  | some old =>
    by_cases same : old = s
    · simp [same]
    · simp only [same, if_false, transports_closeSession]
      rfl

theorem transports_sendOn {channel : Channel} {text : String}
    (sent : b.sendOn channel text = .ok b') : b'.transports = b.transports := by
  cases channel with
  | socket s =>
    unfold sendOn at sent
    dsimp only at sent
    cases taken : (b.socket s).send text with
    | ok state => rw [taken] at sent; cases sent; rfl
    | error e => rw [taken] at sent; cases sent
  | dataChannel d =>
    unfold sendOn at sent
    dsimp only at sent
    cases refused : (b.dataChannel d).refusal with
    | none => rw [refused] at sent; cases sent; rfl
    | some e => rw [refused] at sent; cases sent

theorem transports_sendVia (b : Bridge) (t : TransportId) (channel : Channel) (message : Message) :
    (b.sendVia t channel message).transports = b.transports := by
  unfold sendVia
  dsimp only
  cases sent : (b.log _).sendOn channel message.encode with
  | ok b' =>
    have kept : b'.transports = (b.log _).transports := transports_sendOn sent
    exact kept
  | error e => rfl

/-- A greeting is queued if the socket takes it, and otherwise there is none. -/
theorem greet_cases (call : SlotCall) (b : Bridge) :
    call.greet b = b ∨ ∃ s text state, (b.socket s).send text = .ok state ∧
      call.greet b = (b.setSocket s state).emit (.accepted (.socket s) (.text text)) := by
  unfold SlotCall.greet
  split
  · rename_i s text
    cases sent : (b.socket s).send text with
    | ok state => exact .inr ⟨s, text, state, sent, by simp [sendOn, sent, Except.toOption]⟩
    | error e => exact .inl (by simp [sendOn, sent, Except.toOption])
  · exact .inl rfl

theorem transports_greet (call : SlotCall) (b : Bridge) :
    (call.greet b).transports = b.transports := by
  rcases greet_cases call b with same | ⟨s, text, state, -, same⟩
  · rw [same]
  · rw [same]
    rfl

/-- A greeting looks at the sockets only. -/
theorem sockets_greet (call : SlotCall) (same : b'.sockets = b.sockets) :
    (call.greet b').sockets = (call.greet b).sockets := by
  have sameSocket (s : SocketId) : b'.socket s = b.socket s := by rw [socket, same, socket]
  unfold SlotCall.greet
  split
  · rename_i s text
    cases sent : (b.socket s).send text with
    | ok state => simp [sendOn, sameSocket, sent, Except.toOption, setSocket, emit, same]
    | error e => simp [sendOn, sameSocket, sent, Except.toOption, same]
  · exact same

theorem sockets_displaceSocket (b : Bridge) (t : TransportId) (s : SocketId)
    (greeting : Option String) : (b.displaceSocket t s).sockets =
      (b.closeEach
        (SlotCall.closes (b.currentSocket t) (.operate (.putSocket s greeting)))).sockets := by
  unfold displaceSocket currentSocket
  cases (b.transport t).channels.socket with
  | none => rfl
  | some old =>
    by_cases same : old = s
    · simp [SlotCall.closes, closeEach, same, Option.filter_some]
    · have kept : (some old).filter (fun current => decide (current ≠ s)) = some old := by
        simp [same]
      simp only [same, if_false, SlotCall.closes, kept, sockets_closeSession, Option.toList_some,
        List.map_cons, List.map_nil, closeEach, List.foldl_cons, List.foldl_nil]
      rfl

theorem call_putSocket (b : Bridge) (t : TransportId) (s : SocketId) (greeting : Option String) :
    (b.call t (.operate (.putSocket s greeting))).2 =
      SlotCall.greet (.operate (.putSocket s greeting)) ((b.displaceSocket t s).setChannels t
        (((b.displaceSocket t s).transport t).channels.putSocket s)) := by
  cases greeting <;> rfl

/-! ## The operations by what is in the slot -/

section

variable {s : SocketId}

theorem takeSocket_of_current (current : b.currentSocket t = some s) :
    b.takeSocket t s = (true, b.setChannels t
      { (b.transport t).channels with socket := none, lastActive := .dataChannel }) := by
  rw [currentSocket] at current
  simp [takeSocket, ChannelPair.clearSocket, current]

theorem takeSocket_of_ne (other : b.currentSocket t ≠ some s) : b.takeSocket t s = (false, b) := by
  rw [currentSocket] at other
  simp [takeSocket, ChannelPair.clearSocket, other]

theorem markSocket_of_current (current : b.currentSocket t = some s) :
    b.markSocket t s =
      some (b.setChannels t { (b.transport t).channels with lastActive := .socket }) := by
  rw [currentSocket] at current
  simp [markSocket, ChannelPair.markSocket, current]

theorem markSocket_of_ne (other : b.currentSocket t ≠ some s) : b.markSocket t s = none := by
  rw [currentSocket] at other
  simp [markSocket, ChannelPair.markSocket, other]

theorem giveUpSocket_of_some (current : b.currentSocket t = some s) :
    b.giveUpSocket t = (true,
      (b.setChannels t (b.transport t).channels.dropSocket).closeSession s 410 "gone") := by
  rw [currentSocket] at current
  simp [giveUpSocket, current, goneStatus]

theorem giveUpSocket_of_none (empty : b.currentSocket t = none) :
    b.giveUpSocket t = (false, b) := by
  rw [currentSocket] at empty
  simp [giveUpSocket, empty]

end

/-! ## What a call does -/

/-- A call puts new channels into the slots, or it leaves everything as it was. -/
theorem transports_call (b : Bridge) (t : TransportId) (call : SlotCall) :
    (∃ channels, (b.call t call).2.transports = (b.setChannels t channels).transports ∧
      channels.socket = call.slotAfter (b.currentSocket t)) ∨
    ((b.call t call).2 = b ∧ call.slotAfter (b.currentSocket t) = b.currentSocket t) := by
  cases call with
  | activeChannel => exact .inr ⟨rfl, rfl⟩
  | operate operation =>
    cases operation with
    | putSocket s greeting =>
      refine .inl ⟨((b.displaceSocket t s).transport t).channels.putSocket s, ?_, rfl⟩
      rw [call_putSocket, transports_greet, setChannels, updateTransport,
        transports_displaceSocket]
      rfl
    | takeSocket s =>
      rw [call, stepSlots]
      by_cases current : b.currentSocket t = some s
      · rw [takeSocket_of_current current]
        refine .inl ⟨_, rfl, ?_⟩
        simp [SlotCall.slotAfter, current, Option.filter_some]
      · rw [takeSocket_of_ne current]
        refine .inr ⟨rfl, ?_⟩
        rw [SlotCall.slotAfter]
        cases found : b.currentSocket t with
        | none => rfl
        | some other =>
          have apart : other ≠ s := fun same => current (same ▸ found)
          simp [apart]
    | markSocket s =>
      rw [call, stepSlots]
      by_cases current : b.currentSocket t = some s
      · rw [markSocket_of_current current]
        exact .inl ⟨_, rfl, rfl⟩
      · rw [markSocket_of_ne current]
        exact .inr ⟨rfl, rfl⟩
    | markDataChannel => exact .inl ⟨_, rfl, rfl⟩
    | putDataChannel d =>
      rw [call, stepSlots, putDataChannel]
      cases b.liveDataChannel t with
      | some old => exact .inr ⟨rfl, rfl⟩
      | none => exact .inl ⟨_, rfl, rfl⟩
    | giveUpSocket =>
      rw [call, stepSlots]
      cases current : b.currentSocket t with
      | none =>
        rw [giveUpSocket_of_none current]
        exact .inr ⟨rfl, rfl⟩
      | some s =>
        rw [giveUpSocket_of_some current]
        exact .inl ⟨_, transports_closeSession _ s 410 "gone", rfl⟩

theorem length_transports_call (b : Bridge) (t : TransportId) (call : SlotCall) :
    (b.call t call).2.transports.length = b.transports.length := by
  rcases transports_call b t call with ⟨channels, same, -⟩ | ⟨same, -⟩
  · rw [same]
    simp [setChannels, updateTransport]
  · rw [same]

theorem currentSocket_call (present : t < b.transports.length) (call : SlotCall) :
    (b.call t call).2.currentSocket t = call.slotAfter (b.currentSocket t) := by
  rcases transports_call b t call with ⟨channels, same, after⟩ | ⟨same, after⟩
  · rw [currentSocket, transport, same, ← after]
    simp [setChannels, updateTransport, present]
  · rw [same, after]

/-- The sockets' states after a call are what its closings make of them, and then its greeting. -/
theorem sockets_call (b : Bridge) (t : TransportId) (call : SlotCall) :
    (b.call t call).2.sockets =
      (call.greet (b.closeEach (call.closes (b.currentSocket t)))).sockets := by
  cases call with
  | activeChannel => rfl
  | operate operation =>
    cases operation with
    | putSocket s greeting =>
      rw [call_putSocket]
      exact sockets_greet _ (sockets_displaceSocket b t s greeting)
    | takeSocket s =>
      rw [call, stepSlots]
      by_cases current : b.currentSocket t = some s
      · rw [takeSocket_of_current current]
        rfl
      · rw [takeSocket_of_ne current]
        rfl
    | markSocket s =>
      rw [call, stepSlots]
      by_cases current : b.currentSocket t = some s
      · rw [markSocket_of_current current]
        rfl
      · rw [markSocket_of_ne current]
        rfl
    | markDataChannel => rfl
    | putDataChannel d =>
      rw [call, stepSlots, putDataChannel]
      cases b.liveDataChannel t with
      | some old => rfl
      | none => rfl
    | giveUpSocket =>
      rw [call, stepSlots]
      cases current : b.currentSocket t with
      | none =>
        rw [giveUpSocket_of_none current]
        rfl
      | some s =>
        rw [giveUpSocket_of_some current]
        simp only [SlotCall.greet, SlotCall.closes, closeEach, Option.toList_some, List.map_cons,
          List.map_nil, List.foldl_cons, List.foldl_nil, sockets_closeSession]
        rfl

/-! ## Which sessions are closed -/

/-- A state is put in the place of a socket's, unless there is no such socket. -/
theorem socket_setSocket_self (b : Bridge) (s : SocketId) (state : Socket) :
    (b.setSocket s state).socket s = state ∨
      (b.setSocket s state).socket s = default ∧ b.socket s = default := by
  unfold socket setSocket
  rw [List.getD_eq_getElem?_getD, List.getD_eq_getElem?_getD]
  by_cases present : s < b.sockets.length
  · exact .inl (by simp [present])
  · exact .inr (by simp [present])

theorem socket_setSocket_ne (b : Bridge) {s other : SocketId} (state : Socket) (apart : other ≠ s) :
    (b.setSocket s state).socket other = b.socket other := by
  unfold socket setSocket
  rw [List.getD_eq_getElem?_getD, List.getElem?_set_ne (Ne.symm apart),
    ← List.getD_eq_getElem?_getD]

theorem closed_close (state : Socket) (status : UInt16) (reason : String) :
    (state.close status reason).1.closed = true := by
  unfold Socket.close
  by_cases already : state.closed
  · simp [already]
  · cases state.offer (.close status reason) <;> simp [already]

/-- Closing a session closes it, and no other one. -/
theorem closed_closeSession (b : Bridge) (s other : SocketId) (status : UInt16) (reason : String) :
    ((b.closeSession s status reason).socket other).closed =
      ((b.socket other).closed || other == s) := by
  have moved : (b.closeSession s status reason).socket other =
      (b.setSocket s ((b.socket s).close status reason).1).socket other := by
    unfold socket
    rw [sockets_closeSession]
    rfl
  rw [moved]
  by_cases same : other = s
  · subst same
    rcases socket_setSocket_self b other ((b.socket other).close status reason).1 with
      here | ⟨absent, -⟩
    · rw [here, closed_close]
      simp
    · rw [absent]
      simp [default]
  · rw [socket_setSocket_ne b _ same]
    simp [same]

theorem closed_closeEach (b : Bridge) (closes : List SlotClose) (other : SocketId) :
    ((b.closeEach closes).socket other).closed =
      ((b.socket other).closed || (closes.map (·.socket)).contains other) := by
  induction closes generalizing b with
  | nil => simp [closeEach]
  | cons close rest ih =>
    have step : b.closeEach (close :: rest) =
        (b.closeSession close.socket close.status close.reason).closeEach rest := rfl
    rw [step, ih, closed_closeSession, List.map_cons, List.contains_cons, Bool.or_assoc]

theorem closed_of_send {state next : Socket} {text : String} (h : state.send text = .ok next) :
    next.closed = state.closed := by
  unfold Socket.send Socket.offer at h
  split at h
  · cases h
  · split at h
    · cases h
    · split at h
      · cases h
        rfl
      · cases h

theorem closed_greet (call : SlotCall) (b : Bridge) (other : SocketId) :
    ((call.greet b).socket other).closed = (b.socket other).closed := by
  rcases greet_cases call b with same | ⟨s, text, state, sent, same⟩
  · rw [same]
  · have moved : (call.greet b).socket other = (b.setSocket s state).socket other := by
      rw [same]
      rfl
    rw [moved]
    by_cases here : other = s
    · subst here
      rcases socket_setSocket_self b other state with put | ⟨absent, absentBefore⟩
      · rw [put, closed_of_send sent]
      · rw [absent, absentBefore]
    · rw [socket_setSocket_ne b state here]

/-- A call closes the sessions that it has to close, and no others. -/
theorem closed_call (b : Bridge) (t : TransportId) (call : SlotCall) (other : SocketId) :
    ((b.call t call).2.socket other).closed =
      ((b.socket other).closed ||
        ((call.closes (b.currentSocket t)).map (·.socket)).contains other) := by
  have moved : (b.call t call).2.socket other =
      (call.greet (b.closeEach (call.closes (b.currentSocket t)))).socket other := by
    rw [socket, sockets_call, socket]
  rw [moved, closed_greet, closed_closeEach]

end Bridge

end ControlChannel
