import ControlChannel.Bridge.Operation
import Mathlib.Data.List.Induction

/-!
# The queue of a socket

Whatever is done with a socket through its handles and by the wire, what the wire has received and
what still waits are together the texts that were accepted, in their order, and after them at most
the frame that closes the session. A text is accepted as long as the session is open, the wire is
there and the queue has room, and a text that is refused leaves everything as it was.
-/

namespace ControlChannel

/-- What is done with one socket, through a handle of it or by the wire. -/
inductive SocketUse where
  | cloneHandle
  | dropHandle
  | send (text : String)
  | close (status : UInt16) (reason : String)
  | take
  | poll
  | dropReceiver
  deriving DecidableEq, Repr

namespace SocketUse

/-- The use as an operation of the bridge that the socket belongs to. -/
def operation (s : SocketId) : SocketUse → Operation
  | cloneHandle => .cloneHandle s
  | dropHandle => .dropHandle s
  | send text => .sendText s text
  | close status reason => .closeSession s status reason
  | take => .takeFrame s
  | poll => .poll s
  | dropReceiver => .dropReceiver s

/-- What the session is asked to be closed with. -/
def closing? : SocketUse → Option (UInt16 × String)
  | close status reason => some (status, reason)
  | _ => none

/-- What the session was asked to be closed with for the first time. -/
def firstClose (uses : List SocketUse) : Option (UInt16 × String) :=
  uses.findSome? closing?

theorem firstClose_concat (uses : List SocketUse) (use : SocketUse) :
    firstClose (uses ++ [use]) = (firstClose uses).or use.closing? := by
  rw [firstClose, List.findSome?_append, firstClose]
  cases use <;> rfl

end SocketUse

/-- The uses of a socket with what they came to, in order. -/
abbrev SocketLog := List (SocketUse × Answer)

namespace SocketLog

/-- The text that was accepted. -/
def accepted? : SocketUse × Answer → Option String
  | (.send text, .done) => some text
  | _ => none

/-- The frame that the wire received. -/
def received? : SocketUse × Answer → Option Frame
  | (.take, .frame frame) => frame
  | (.poll, .polled (.frame frame)) => some frame
  | _ => none

/-- What was done with the socket, in order. -/
def uses (log : SocketLog) : List SocketUse :=
  log.map (·.1)

/-- The texts that were accepted, in order. -/
def accepted (log : SocketLog) : List String :=
  log.filterMap accepted?

/-- The frames that the wire received, in order. -/
def received (log : SocketLog) : List Frame :=
  log.filterMap received?

theorem uses_concat (log : SocketLog) (entry : SocketUse × Answer) :
    uses (log ++ [entry]) = log.uses ++ [entry.1] :=
  List.map_append

theorem accepted_concat (log : SocketLog) (entry : SocketUse × Answer) :
    accepted (log ++ [entry]) = log.accepted ++ (accepted? entry).toList := by
  rw [accepted, List.filterMap_append, accepted]
  cases found : accepted? entry <;> simp [found]

theorem received_concat (log : SocketLog) (entry : SocketUse × Answer) :
    received (log ++ [entry]) = log.received ++ (received? entry).toList := by
  rw [received, List.filterMap_append, received]
  cases found : received? entry <;> simp [found]

end SocketLog

namespace Socket

variable {state next : Socket}

/-- What a use comes to and the state after it. `held` says whether any handle is left. -/
def use (state : Socket) (held : Bool) : SocketUse → Answer × Socket
  | .cloneHandle => (.done, { state with handles := state.handles + 1 })
  | .dropHandle => (.done, { state with handles := state.handles - 1 })
  | .send text =>
      match state.send text with
      | .ok next => (.done, next)
      | .error e => (.refused e, state)
  | .close status reason => (.done, (state.close status reason).1)
  | .take => (.frame state.take.1, state.take.2)
  | .poll => (.polled (state.poll held).1, (state.poll held).2)
  | .dropReceiver => (.done, state.dropReceiver)

/-! ## Sending and closing -/

theorem offer_of_room (receiving : state.receiving = true)
    (room : state.queue.length < state.capacity) (frame : Frame) :
    state.offer frame = .ok { state with queue := state.queue ++ [frame] } := by
  simp [offer, receiving, room]

theorem offer_of_full (receiving : state.receiving = true)
    (full : state.capacity ≤ state.queue.length) (frame : Frame) :
    state.offer frame = .error .backpressure := by
  simp [offer, receiving, Nat.not_lt.2 full]

theorem offer_of_abandoned (abandoned : state.receiving = false) (frame : Frame) :
    state.offer frame = .error .channelClosed := by
  simp [offer, abandoned]

/-- What is accepted goes to the end of a queue that had room for it. -/
theorem offer_eq_ok {frame : Frame} (accepted : state.offer frame = .ok next) :
    state.receiving = true ∧ state.queue.length < state.capacity ∧
      next = { state with queue := state.queue ++ [frame] } := by
  by_cases receiving : state.receiving = true
  · by_cases room : state.queue.length < state.capacity
    · rw [offer_of_room receiving room] at accepted
      cases accepted
      exact ⟨receiving, room, rfl⟩
    · rw [offer_of_full receiving (Nat.not_lt.1 room)] at accepted
      cases accepted
  · rw [offer_of_abandoned (Bool.eq_false_iff.2 receiving)] at accepted
    cases accepted

theorem send_of_open (isOpen : state.closed = false) (text : String) :
    state.send text = state.offer (.text text) := by
  simp [send, isOpen]

theorem send_of_closed (closed : state.closed = true) (text : String) :
    state.send text = .error .channelClosed := by
  simp [send, closed]

/-- A text is taken into the queue of an open session, if the wire takes frames and there is room. -/
theorem send_eq_ok {text : String} (sent : state.send text = .ok next) :
    state.closed = false ∧ state.receiving = true ∧ state.queue.length < state.capacity ∧
      next = { state with queue := state.queue ++ [.text text] } := by
  have isOpen : state.closed = false := by
    rw [← Bool.not_eq_true]
    intro closed
    rw [send_of_closed closed] at sent
    cases sent
  rw [send_of_open isOpen] at sent
  exact ⟨isOpen, offer_eq_ok sent⟩

theorem close_of_closed (closed : state.closed = true) (status : UInt16) (reason : String) :
    state.close status reason = (state, .already) := by
  simp [close, closed]

/-- The first request closes the session, and its frame is queued or left out. -/
theorem close_of_open (isOpen : state.closed = false) (status : UInt16) (reason : String) :
    ∃ frames : List Frame, (frames = [] ∨ frames = [.close status reason]) ∧
      state.queue.length + frames.length ≤ max state.queue.length state.capacity ∧
      (state.close status reason).1 =
        { state with queue := state.queue ++ frames, closed := true, cancelled := true } := by
  cases offered : state.offer (.close status reason) with
  | ok next =>
    obtain ⟨-, room, rfl⟩ := offer_eq_ok offered
    refine ⟨[.close status reason], .inr rfl, ?_, ?_⟩
    · rw [List.length_singleton]
      omega
    · simp [close, isOpen, offered]
  | error e =>
    refine ⟨[], .inl rfl, ?_, ?_⟩
    · rw [List.length_nil]
      omega
    · simp [close, isOpen, offered]

/-! ## Taking -/

/-- The oldest frame is taken, and nothing else is touched. -/
theorem take_conserves (state : Socket) :
    state.take.1.toList ++ state.take.2.queue = state.queue ∧
      state.take.2 =
        { state with queue := state.take.2.queue, handles := state.take.2.handles } := by
  unfold take
  cases waiting : state.queue with
  | nil => exact ⟨waiting, rfl⟩
  | cons frame rest => exact ⟨rfl, rfl⟩

/-- A look at the queue takes what `take` would take. -/
theorem received?_poll (state : Socket) (held : Bool) :
    SocketLog.received? (.poll, .polled (state.poll held).1) = state.take.1 ∧
      (state.poll held).2 = state.take.2 := by
  unfold poll take
  cases state.queue with
  | nil =>
    dsimp only
    split <;> exact ⟨rfl, rfl⟩
  | cons frame rest => exact ⟨rfl, rfl⟩

end Socket

/-- What holds of a socket for `buffer` frames after the uses that a log tells of. -/
structure SocketLog.Accounts (log : SocketLog) (buffer : Nat) (state : Socket) : Prop where
  capacity_eq : state.capacity = max buffer 1
  length_le : state.queue.length ≤ state.capacity
  closed_eq : state.closed = (SocketUse.firstClose log.uses).isSome
  cancelled_eq : state.cancelled = state.closed
  receiving_iff : state.receiving = true ↔ .dropReceiver ∉ log.uses
  conserved : .dropReceiver ∉ log.uses → ∃ closing : Option Frame,
    log.received ++ state.queue = log.accepted.map .text ++ closing.toList ∧
      ∀ frame ∈ closing, ∃ status reason,
        SocketUse.firstClose log.uses = some (status, reason) ∧ frame = .close status reason

namespace SocketLog.Accounts

variable {log : SocketLog} {buffer : Nat} {state : Socket}

theorem nil (buffer : Nat) : Accounts [] buffer { capacity := max buffer 1 } where
  capacity_eq := rfl
  length_le := Nat.zero_le _
  closed_eq := rfl
  cancelled_eq := rfl
  receiving_iff := by simp [uses]
  conserved _ := ⟨none, rfl, by simp⟩

theorem firstClose_of_open (h : log.Accounts buffer state) (isOpen : state.closed = false) :
    SocketUse.firstClose log.uses = none := by
  have notClosed := h.closed_eq
  rw [isOpen] at notClosed
  exact Option.isNone_iff_eq_none.1 (by simpa using notClosed.symm)

/-- While the session is open, nothing waits behind the accepted texts. -/
theorem conserved_of_open (h : log.Accounts buffer state) (isOpen : state.closed = false)
    (kept : .dropReceiver ∉ log.uses) :
    log.received ++ state.queue = log.accepted.map .text := by
  obtain ⟨closing, flow, first⟩ := h.conserved kept
  cases closing with
  | none => simpa using flow
  | some frame =>
    obtain ⟨status, reason, asked, -⟩ := first frame rfl
    rw [h.firstClose_of_open isOpen] at asked
    cases asked

/-- A use that neither closes the session nor takes the wire away. What leaves the queue is
    received, and what enters it is a text that was accepted while the session was open. -/
theorem concat (h : log.Accounts buffer state) {use : SocketUse} {answer : Answer} {next : Socket}
    (noClose : use.closing? = none) (noDrop : use ≠ .dropReceiver)
    (same : next = { state with queue := next.queue, handles := next.handles })
    (fits : next.queue.length ≤ state.capacity)
    (flow : (received? (use, answer)).toList ++ next.queue =
      state.queue ++ (accepted? (use, answer)).toList.map .text)
    (isOpen : (accepted? (use, answer)).isSome → state.closed = false) :
    Accounts (log ++ [(use, answer)]) buffer next := by
  have asked : SocketUse.firstClose (uses (log ++ [(use, answer)])) =
      SocketUse.firstClose log.uses := by
    rw [uses_concat, SocketUse.firstClose_concat, noClose, Option.or_none]
  have gone : .dropReceiver ∉ uses (log ++ [(use, answer)]) ↔ .dropReceiver ∉ log.uses := by
    rw [uses_concat, List.mem_append, List.mem_singleton]
    simp [Ne.symm noDrop]
  refine ⟨?_, ?_, ?_, ?_, ?_, ?_⟩
  · rw [same]
    exact h.capacity_eq
  · rw [same]
    exact fits
  · rw [asked, same]
    exact h.closed_eq
  · rw [same]
    exact h.cancelled_eq
  · rw [gone, same]
    exact h.receiving_iff
  · intro kept
    rw [gone] at kept
    rw [asked, received_concat, accepted_concat, List.append_assoc, flow, ← List.append_assoc]
    cases accepted : accepted? (use, answer) with
    | none =>
      obtain ⟨closing, before, first⟩ := h.conserved kept
      exact ⟨closing, by simpa using before, first⟩
    | some text =>
      have before := h.conserved_of_open (isOpen (by simp [accepted])) kept
      exact ⟨none, by simp [before], by simp⟩

/-- The session is asked to be closed. -/
theorem close (h : log.Accounts buffer state) (status : UInt16) (reason : String) :
    Accounts (log ++ [(.close status reason, .done)]) buffer (state.close status reason).1 := by
  let entry : SocketUse × Answer := (.close status reason, .done)
  have asked : SocketUse.firstClose (uses (log ++ [entry])) =
      (SocketUse.firstClose log.uses).or (some (status, reason)) := by
    rw [uses_concat, SocketUse.firstClose_concat]
    rfl
  have gone : .dropReceiver ∉ uses (log ++ [entry]) ↔ .dropReceiver ∉ log.uses := by
    rw [uses_concat, List.mem_append]
    simp [entry]
  have received : received (log ++ [entry]) = log.received := by
    rw [received_concat]
    exact List.append_nil _
  have accepted : accepted (log ++ [entry]) = log.accepted := by
    rw [accepted_concat]
    exact List.append_nil _
  cases wasClosed : state.closed with
  | true =>
    rw [Socket.close_of_closed wasClosed]
    have same : SocketUse.firstClose (uses (log ++ [entry])) = SocketUse.firstClose log.uses := by
      rw [asked]
      exact Option.or_of_isSome (h.closed_eq ▸ wasClosed)
    refine ⟨h.capacity_eq, h.length_le, ?_, h.cancelled_eq, ?_, ?_⟩
    · rw [same]
      exact h.closed_eq
    · rw [gone]
      exact h.receiving_iff
    · rw [gone, same, received, accepted]
      exact h.conserved
  | false =>
    obtain ⟨frames, queued, room, after⟩ := Socket.close_of_open wasClosed status reason
    rw [after]
    have first : SocketUse.firstClose (uses (log ++ [entry])) = some (status, reason) := by
      rw [asked, h.firstClose_of_open wasClosed]
      rfl
    have fits : (state.queue ++ frames).length ≤ state.capacity := by
      have bound := h.length_le
      rw [List.length_append]
      omega
    refine ⟨h.capacity_eq, fits, ?_, rfl, ?_, ?_⟩
    · rw [first]
      rfl
    · rw [gone]
      exact h.receiving_iff
    · intro kept
      rw [gone] at kept
      have before := h.conserved_of_open wasClosed kept
      rw [first, received, accepted, ← List.append_assoc, before]
      rcases queued with rfl | rfl
      · exact ⟨none, rfl, by simp⟩
      · exact ⟨some (.close status reason), rfl, by simp⟩

/-- The wire goes away. -/
theorem dropReceiver (h : log.Accounts buffer state) :
    Accounts (log ++ [(.dropReceiver, .done)]) buffer state.dropReceiver := by
  have gone : .dropReceiver ∈ uses (log ++ [(.dropReceiver, .done)]) := by
    rw [uses_concat]
    simp
  have asked : SocketUse.firstClose (uses (log ++ [(.dropReceiver, .done)])) =
      SocketUse.firstClose log.uses := by
    rw [uses_concat, SocketUse.firstClose_concat]
    exact Option.or_none
  refine ⟨h.capacity_eq, Nat.zero_le _, ?_, h.cancelled_eq, ?_, ?_⟩
  · rw [asked]
    exact h.closed_eq
  · exact iff_of_false Bool.false_ne_true (not_not_intro gone)
  · intro kept
    exact absurd gone kept

theorem send (h : log.Accounts buffer state) (held : Bool) (text : String) :
    Accounts (log ++ [(.send text, (state.use held (.send text)).1)]) buffer
      (state.use held (.send text)).2 := by
  rw [Socket.use]
  cases sent : state.send text with
  | error e =>
    exact h.concat rfl (by simp) rfl h.length_le (List.append_nil _).symm nofun
  | ok next =>
    obtain ⟨isOpen, -, room, rfl⟩ := Socket.send_eq_ok sent
    refine h.concat rfl (by simp) rfl ?_ rfl (fun _ => isOpen)
    rw [List.length_append]
    exact room

/-- The oldest frame is received, by whichever way the wire looks for it. -/
theorem receive (h : log.Accounts buffer state) {use : SocketUse} {answer : Answer}
    (noClose : use.closing? = none) (noDrop : use ≠ .dropReceiver)
    (received : received? (use, answer) = state.take.1) (accepted : accepted? (use, answer) = none) :
    Accounts (log ++ [(use, answer)]) buffer state.take.2 := by
  obtain ⟨taken, same⟩ := state.take_conserves
  refine h.concat noClose noDrop same ?_ ?_ (by simp [accepted])
  · have lengths := congrArg List.length taken
    rw [List.length_append] at lengths
    have bound := h.length_le
    omega
  · rw [received, accepted, taken]
    exact (List.append_nil _).symm

/-- Every use keeps the account. -/
theorem step (h : log.Accounts buffer state) (held : Bool) (use : SocketUse) :
    Accounts (log ++ [(use, (state.use held use).1)]) buffer (state.use held use).2 := by
  cases use with
  | cloneHandle =>
    exact h.concat rfl (by simp) rfl h.length_le (List.append_nil _).symm nofun
  | dropHandle =>
    exact h.concat rfl (by simp) rfl h.length_le (List.append_nil _).symm nofun
  | send text => exact h.send held text
  | close status reason => exact h.close status reason
  | take => exact h.receive rfl (by simp) rfl rfl
  | poll =>
    obtain ⟨received, same⟩ := Socket.received?_poll state held
    rw [Socket.use, same]
    exact h.receive rfl (by simp) received rfl
  | dropReceiver => exact h.dropReceiver

theorem send_of_gone (h : log.Accounts buffer state) (text : String)
    (gone : (SocketUse.firstClose log.uses).isSome ∨ .dropReceiver ∈ log.uses) :
    state.send text = .error .channelClosed := by
  by_cases closed : state.closed = true
  · exact Socket.send_of_closed closed text
  · have isOpen := Bool.eq_false_iff.2 closed
    rw [Socket.send_of_open isOpen]
    rcases gone with asked | dropped
    · rw [h.firstClose_of_open isOpen] at asked
      cases asked
    · refine Socket.offer_of_abandoned ?_ _
      rw [← Bool.not_eq_true, h.receiving_iff]
      exact not_not_intro dropped

theorem send_of_here (h : log.Accounts buffer state) (text : String)
    (notAsked : SocketUse.firstClose log.uses = none) (kept : .dropReceiver ∉ log.uses) :
    state.send text = if state.queue.length < max buffer 1 then
      .ok { state with queue := state.queue ++ [.text text] } else .error .backpressure := by
  have isOpen : state.closed = false := by
    rw [h.closed_eq, notAsked]
    rfl
  have receiving := h.receiving_iff.2 kept
  rw [Socket.send_of_open isOpen, ← h.capacity_eq]
  split
  · rename_i room
    exact Socket.offer_of_room receiving room _
  · rename_i full
    exact Socket.offer_of_full receiving (Nat.not_lt.1 full) _

end SocketLog.Accounts

namespace Bridge

/-- The bridge after a socket was used. -/
def afterUses (b : Bridge) (s : SocketId) (uses : List SocketUse) : Bridge :=
  b.run (uses.map (·.operation s))

/-- What the uses of a socket come to. -/
def useLog (b : Bridge) (s : SocketId) : List SocketUse → SocketLog
  | [] => []
  | use :: rest =>
      (use, (b.step (use.operation s)).1) :: (b.step (use.operation s)).2.useLog s rest

variable {b : Bridge} {s : SocketId}

theorem uses_useLog (b : Bridge) (s : SocketId) (uses : List SocketUse) :
    (b.useLog s uses).uses = uses := by
  induction uses generalizing b with
  | nil => rfl
  | cons use rest ih =>
    have later := ih (b.step (use.operation s)).2
    rw [SocketLog.uses] at later
    rw [useLog, SocketLog.uses, List.map_cons, later]

theorem socket_setSocket (present : s < b.sockets.length) (state : Socket) :
    (b.setSocket s state).socket s = state := by
  simp [setSocket, socket, present]

theorem setSocket_socket (b : Bridge) (s : SocketId) : b.setSocket s (b.socket s) = b := by
  have same : b.sockets.set s (b.socket s) = b.sockets := by
    by_cases present : s < b.sockets.length
    · simp [socket, present]
    · exact List.set_eq_of_length_le (Nat.not_lt.1 present)
  rw [setSocket, same]

/-- A use comes to what the socket's state says, and moves that state. -/
theorem step_use (present : s < b.sockets.length) (use : SocketUse) :
    (b.step (use.operation s)).1 = ((b.socket s).use (b.isHeld s) use).1 ∧
      (b.step (use.operation s)).2.socket s = ((b.socket s).use (b.isHeld s) use).2 := by
  cases use with
  | send text =>
    rw [SocketUse.operation, step, sendOn, Socket.use]
    cases (b.socket s).send text with
    | ok next => exact ⟨rfl, socket_setSocket present next⟩
    | error e => exact ⟨rfl, rfl⟩
  | close status reason =>
    refine ⟨rfl, ?_⟩
    rw [SocketUse.operation, step, closeSession, Socket.use]
    obtain ⟨next, closing⟩ := (b.socket s).close status reason
    cases closing <;> exact socket_setSocket present next
  | cloneHandle => exact ⟨rfl, socket_setSocket present _⟩
  | dropHandle => exact ⟨rfl, socket_setSocket present _⟩
  | take => exact ⟨rfl, socket_setSocket present _⟩
  | poll => exact ⟨rfl, socket_setSocket present _⟩
  | dropReceiver => exact ⟨rfl, socket_setSocket present _⟩

theorem length_sockets_use (b : Bridge) (s : SocketId) (use : SocketUse) :
    (b.step (use.operation s)).2.sockets.length = b.sockets.length := by
  cases use with
  | send text =>
    rw [SocketUse.operation, step, sendOn]
    cases (b.socket s).send text with
    | ok next => exact List.length_set
    | error e => rfl
  | close status reason =>
    rw [SocketUse.operation, step, closeSession]
    obtain ⟨next, closing⟩ := (b.socket s).close status reason
    cases closing <;> exact List.length_set
  | cloneHandle => exact List.length_set
  | dropHandle => exact List.length_set
  | take => exact List.length_set
  | poll => exact List.length_set
  | dropReceiver => exact List.length_set

/-- An account of a socket is carried on through any further uses. -/
theorem accounts_afterUses {buffer : Nat} {log : SocketLog} (present : s < b.sockets.length)
    (account : log.Accounts buffer (b.socket s)) (uses : List SocketUse) :
    SocketLog.Accounts (log ++ b.useLog s uses) buffer ((b.afterUses s uses).socket s) := by
  induction uses generalizing b log with
  | nil =>
    rw [useLog, List.append_nil]
    exact account
  | cons use rest ih =>
    have stillPresent : s < (b.step (use.operation s)).2.sockets.length := by
      rwa [length_sockets_use]
    obtain ⟨answer, state⟩ := step_use present use
    have next := account.step (b.isHeld s) use
    rw [← answer, ← state] at next
    have later := ih stillPresent next
    rw [List.append_assoc] at later
    exact later

/-- A new socket is empty, and its number is the next one. -/
theorem addSocket_eq_ok {made : Bridge} {buffer : Nat} (h : b.addSocket buffer = .ok (s, made)) :
    s < made.sockets.length ∧ made.socket s = { capacity := max buffer 1 } := by
  unfold addSocket Socket.create at h
  split at h
  · cases h
  · cases h
    simp [socket]

theorem step_sendText_of_error {text : String} {e : TransportError}
    (refused : (b.socket s).send text = .error e) :
    b.step (.sendText s text) = (.refused e, b) := by
  simp [step, sendOn, refused]

theorem step_sendText_of_ok {text : String} {next : Socket}
    (sent : (b.socket s).send text = .ok next) : (b.step (.sendText s text)).1 = .done := by
  simp [step, sendOn, sent]

theorem step_closeSession_of_closed (closed : (b.socket s).closed = true) (status : UInt16)
    (reason : String) : b.step (.closeSession s status reason) = (.done, b) := by
  have same := setSocket_socket b s
  simp [step, closeSession, Socket.close_of_closed closed, same]

/-- Over every run of uses of a new socket: as long as the wire is there, what it received and what
    still waits are the accepted texts in their order, and after them at most the frame of the first
    request to close. The queue never outgrows its room. That first request closes the session and
    wakes the wire, whether or not its frame fits, and later ones change nothing. A text is accepted
    exactly while the session is open, the wire is there and there is room; otherwise the answer
    says which of these fails, and nothing changes. -/
theorem queue_conservation {made : Bridge} {buffer : Nat}
    (created : b.addSocket buffer = .ok (s, made)) (uses : List SocketUse) :
    let log := made.useLog s uses
    let now := made.afterUses s uses
    let queue := (now.socket s).queue
    let first := SocketUse.firstClose uses
    (.dropReceiver ∉ uses → ∃ closing : Option Frame,
      log.received ++ queue = log.accepted.map .text ++ closing.toList ∧
        ∀ frame ∈ closing, ∃ status reason,
          first = some (status, reason) ∧ frame = .close status reason) ∧
    queue.length ≤ max buffer 1 ∧
    (now.socket s).closed = first.isSome ∧
    (now.socket s).cancelled = first.isSome ∧
    (∀ status reason, first.isSome →
      now.step (.closeSession s status reason) = (.done, now)) ∧
    ∀ text,
      ((now.step (.sendText s text)).1 = .done ↔
        first = none ∧ .dropReceiver ∉ uses ∧ queue.length < max buffer 1) ∧
      (first.isSome ∨ .dropReceiver ∈ uses →
        now.step (.sendText s text) = (.refused .channelClosed, now)) ∧
      (first = none → .dropReceiver ∉ uses → queue.length = max buffer 1 →
        now.step (.sendText s text) = (.refused .backpressure, now)) := by
  intro log now queue first
  obtain ⟨present, fresh⟩ := addSocket_eq_ok created
  have account := accounts_afterUses present (fresh ▸ SocketLog.Accounts.nil buffer) uses
  rw [List.nil_append] at account
  have done : log.uses = uses := uses_useLog made s uses
  have closed : (now.socket s).closed = first.isSome := by
    rw [account.closed_eq, done]
  have bound : queue.length ≤ max buffer 1 := account.capacity_eq ▸ account.length_le
  refine ⟨?_, bound, closed, account.cancelled_eq.trans closed, ?_, ?_⟩
  · intro kept
    have conserved := account.conserved
    rw [done] at conserved
    exact conserved kept
  · intro status reason asked
    exact step_closeSession_of_closed (closed.trans asked) status reason
  · intro text
    have gone := account.send_of_gone text
    have here := account.send_of_here text
    rw [done] at gone here
    refine ⟨⟨?_, ?_⟩, ?_, ?_⟩
    · intro answer
      by_cases shut : first.isSome ∨ .dropReceiver ∈ uses
      · rw [step_sendText_of_error (gone shut)] at answer
        cases answer
      · obtain ⟨notAsked, kept⟩ := not_or.1 shut
        have notAsked := Option.not_isSome_iff_eq_none.1 notAsked
        have sent := here notAsked kept
        refine ⟨notAsked, kept, ?_⟩
        by_contra full
        rw [if_neg full] at sent
        rw [step_sendText_of_error sent] at answer
        cases answer
    · rintro ⟨notAsked, kept, room⟩
      have sent := here notAsked kept
      rw [if_pos room] at sent
      exact step_sendText_of_ok sent
    · intro shut
      exact step_sendText_of_error (gone shut)
    · intro notAsked kept full
      have sent := here notAsked kept
      rw [if_neg (Nat.not_lt.2 (Nat.le_of_eq full.symm))] at sent
      exact step_sendText_of_error sent

/-- A socket with room for one frame: its second text and its last frame do not fit. -/
def oneFrameUses : List SocketUse :=
  [.send "a", .cloneHandle, .send "b", .poll, .send "c", .close 410 "gone", .close 200 "replaced",
    .take, .poll]

theorem queue_conservation_oneFrame :
    ({} : Bridge).addSocket 0 = .ok (0, { sockets := [{ capacity := 1 }] }) ∧
      (let made : Bridge := { sockets := [{ capacity := 1 }] }
      (made.useLog 0 oneFrameUses).accepted = ["a", "c"] ∧
      (made.useLog 0 oneFrameUses).received = [.text "a", .text "c"] ∧
      ((made.afterUses 0 oneFrameUses).socket 0).cancelled = true ∧
      (made.afterUses 0 oneFrameUses).step (.sendText 0 "d") =
        (.refused .channelClosed, made.afterUses 0 oneFrameUses)) := by
  have created : ({} : Bridge).addSocket 0 = .ok (0, { sockets := [{ capacity := 1 }] }) := rfl
  obtain ⟨-, -, -, cancelled, -, sends⟩ := queue_conservation created oneFrameUses
  exact ⟨created, rfl, rfl, cancelled, (sends "d").2.1 (.inl rfl)⟩

end Bridge

end ControlChannel
