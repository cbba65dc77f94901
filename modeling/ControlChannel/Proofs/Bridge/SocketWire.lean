import ControlChannel.Proofs.Bridge.Books
import ControlChannel.Proofs.Bridge.SlotHistory
import ControlChannel.Proofs.Bridge.SocketQueue

/-!
# What reaches the wire of a socket

The frames that one socket took are picked out of the books. They go to the end of its queue, and the
wire gets them from there in the same order. As long as nobody uses a socket but a transport that has
it in its slot, it takes nothing but what is sent while it is selected there, answers to hellos that
came from it, and a last frame when it is closed as the slot is given to another socket or given up.
-/

namespace ControlChannel

/-- The frame, if it is for this socket. -/
def toSocket? (s : SocketId) : Channel × Frame → Option Frame
  | (.socket id, frame) => if id = s then some frame else none
  | (.dataChannel _, _) => none

/-- The frames that a socket takes, among all that is posted. -/
def wireOf (s : SocketId) (posts : List Posting) : List Frame :=
  (posts.filterMap (·.frame?)).filterMap (toSocket? s)

section

variable (s : SocketId) (p : Posting) (posts more : List Posting)

@[simp] theorem wireOf_nil : wireOf s [] = [] := rfl

@[simp] theorem wireOf_cons :
    wireOf s (p :: posts) = (p.frame?.bind (toSocket? s)).toList ++ wireOf s posts := by
  cases framed : p.frame? with
  | none => simp [wireOf, framed]
  | some entry => cases mine : toSocket? s entry <;> simp [wireOf, framed, mine]

@[simp] theorem wireOf_append : wireOf s (posts ++ more) = wireOf s posts ++ wireOf s more := by
  simp [wireOf]

end

theorem wireOf_postings (s : SocketId) (past : List Occurrence) :
    wireOf s (postings past) = past.flatMap fun o => wireOf s o.postings := by
  induction past with
  | nil => rfl
  | cons o rest ih =>
    rw [postings, List.flatMap_cons, wireOf_append, List.flatMap_cons, ← ih]
    rfl

/-! ## The queue -/

/-- A socket takes frames, and nothing else becomes of it but that it may be closed. -/
structure Socket.Grown (frames : List Frame) (state next : Socket) : Prop where
  capacity : next.capacity = state.capacity
  receiving : next.receiving = state.receiving
  handles : next.handles = state.handles
  queue : next.queue = state.queue ++ frames
  closed : state.closed = true → next = state
  cancelled : state.cancelled = state.closed → next.cancelled = next.closed

namespace Socket.Grown

variable {state next last : Socket} {frames more : List Frame}

theorem refl (state : Socket) : Grown [] state state where
  capacity := rfl
  receiving := rfl
  handles := rfl
  queue := (List.append_nil _).symm
  closed _ := rfl
  cancelled := id

theorem trans (first : Grown frames state next) (second : Grown more next last) :
    Grown (frames ++ more) state last where
  capacity := second.capacity.trans first.capacity
  receiving := second.receiving.trans first.receiving
  handles := second.handles.trans first.handles
  queue := by rw [second.queue, first.queue, List.append_assoc]
  closed isClosed := by
    obtain rfl := first.closed isClosed
    exact second.closed isClosed
  cancelled same := second.cancelled (first.cancelled same)

theorem send {text : String} (sent : state.send text = .ok next) :
    Grown [.text text] state next := by
  obtain ⟨isOpen, -, -, rfl⟩ := send_eq_ok sent
  exact ⟨rfl, rfl, rfl, rfl, fun closed => by simp [isOpen] at closed, id⟩

theorem close (state : Socket) (status : UInt16) (reason : String) :
    Grown (match (state.close status reason).2 with
      | .queued => [.close status reason]
      | _ => []) state (state.close status reason).1 := by
  cases closed : state.closed with
  | true =>
    rw [close_of_closed closed]
    exact refl state
  | false =>
    unfold Socket.close
    rw [closed, if_neg Bool.false_ne_true]
    cases offered : state.offer (.close status reason) with
    | ok next =>
      obtain ⟨-, -, rfl⟩ := offer_eq_ok offered
      exact ⟨rfl, rfl, rfl, rfl, fun isClosed => by simp [closed] at isClosed, fun _ => rfl⟩
    | error e =>
      exact ⟨rfl, rfl, rfl, (List.append_nil _).symm, fun isClosed => by simp [closed] at isClosed,
        fun _ => rfl⟩

end Socket.Grown

namespace Bridge

variable {b b' b'' : Bridge} {t : TransportId} {s : SocketId} {posts : List Posting}
  {frames more : List Frame}

/-- A socket that is there stays there, and takes these frames. -/
def Feeds (s : SocketId) (b : Bridge) (frames : List Frame) (b' : Bridge) : Prop :=
  s < b.sockets.length →
    s < b'.sockets.length ∧ Socket.Grown frames (b.socket s) (b'.socket s)

namespace Feeds

theorem of_sockets (same : b'.sockets = b.sockets) : Feeds s b [] b' := by
  intro present
  have state : b'.socket s = b.socket s := by rw [socket, same, socket]
  exact ⟨same ▸ present, state ▸ .refl _⟩

theorem trans (first : Feeds s b frames b') (second : Feeds s b' more b'') :
    Feeds s b (frames ++ more) b'' := by
  intro present
  obtain ⟨stays, grown⟩ := first present
  obtain ⟨still, further⟩ := second stays
  exact ⟨still, grown.trans further⟩

/-- One socket takes frames, and no other. -/
theorem setSocket {id : SocketId} {state : Socket} (grown : Socket.Grown frames (b.socket id) state) :
    Feeds s b (if id = s then frames else []) (b.setSocket id state) := by
  intro present
  refine ⟨(List.length_set ..).symm ▸ present, ?_⟩
  by_cases here : id = s
  · subst here
    rw [if_pos rfl, socket_setSocket present]
    exact grown
  · rw [if_neg here, socket_setSocket_ne b state (Ne.symm here)]
    exact .refl _

end Feeds

theorem wireOf_closePostings (b : Bridge) (s id : SocketId) (status : UInt16) (reason : String) :
    wireOf s (b.closePostings id status reason) =
      if id = s ∧ ((b.socket id).close status reason).2 = .queued then [.close status reason]
      else [] := by
  unfold closePostings
  by_cases here : id = s
  · cases ((b.socket id).close status reason).2 <;>
      simp [here, Posting.frame?, toSocket?]
  · cases ((b.socket id).close status reason).2 <;>
      simp [here, Posting.frame?, toSocket?]

theorem feeds_closeSession (b : Bridge) (s id : SocketId) (status : UInt16) (reason : String) :
    Feeds s b (wireOf s (b.closePostings id status reason)) (b.closeSession id status reason) := by
  have put := Feeds.setSocket (s := s) (Socket.Grown.close (b.socket id) status reason)
  rw [wireOf_closePostings]
  unfold closeSession
  cases closed : (b.socket id).close status reason with
  | mk state closing =>
    rw [closed] at put
    cases closing with
    | already => simpa using put
    | queued =>
      have noted : Feeds s (b.setSocket id state) []
          ((b.setSocket id state).emit (.accepted (.socket id) (.close status reason))) :=
        .of_sockets rfl
      simpa using put.trans noted
    | unqueued e =>
      have noted : Feeds s (b.setSocket id state) []
          ((b.setSocket id state).log (.closeNotQueued id e)) :=
        .of_sockets rfl
      simpa using put.trans noted

/-- Work lets a socket take the frames that it posts for it. -/
theorem Work.feeds (done : Work t b posts b') : Feeds s b (wireOf s posts) b' := by
  induction done with
  | trans _ _ first second =>
    rw [wireOf_append]
    exact first.trans second
  | @make state buffer b created =>
    intro present
    have kept : ({ b with sockets := b.sockets ++ [state] } : Bridge).socket s = b.socket s := by
      simp [socket, List.getElem?_append_left present]
    refine ⟨?_, kept ▸ .refl _⟩
    rw [List.length_append]
    exact Nat.lt_add_right _ present
  | @queue b id text state sent =>
    have put := Feeds.setSocket (s := s) (Socket.Grown.send sent)
    have noted : Feeds s (b.setSocket id state) []
        ((b.setSocket id state).emit (.accepted (.socket id) (.text text))) :=
      .of_sockets rfl
    by_cases here : id = s
    · simpa [here, Posting.frame?, toSocket?] using put.trans noted
    · simpa [here, Posting.frame?, toSocket?] using put.trans noted
  | shut b id status reason => exact feeds_closeSession b s id status reason
  | _ => exact .of_sockets rfl

/-- A socket that is not closed is there. -/
theorem lt_of_open (isOpen : (b.socket s).closed = false) : s < b.sockets.length := by
  refine Nat.lt_of_not_le fun missing => ?_
  rw [socket, List.getD_eq_getElem?_getD, List.getElem?_eq_none missing] at isOpen
  cases isOpen

/-! ## Steps -/

/-- A step by which the handles of the socket and its wire are left alone. -/
theorem feeds_step {operation : Operation} (apart : operation.touches s = false) (b : Bridge) :
    Feeds s b (wireOf s (b.stepPostings operation)) (b.step operation).2 := by
  unfold stepPostings
  cases occasion : b.occasion? operation with
  | some found =>
    obtain ⟨t, asked⟩ := found
    obtain ⟨posts, done, -, frames⟩ := worked_of_occasion occasion
    have same : wireOf s posts = wireOf s (postings (b.stepOccurrences operation)) := by
      rw [wireOf, frames, wireOf]
    rw [directPostings_of_occasion occasion, List.nil_append, ← same]
    exact done.feeds
  | none =>
    have nothing : b.stepOccurrences operation = [] := by rw [stepOccurrences, occasion]
    have direct : b.directPostings operation ++ postings [] = b.directPostings operation :=
      List.append_nil _
    rw [nothing, direct]
    rcases step_of_no_occasion occasion with done | ⟨none, id, state, touched, moved⟩ |
      ⟨none, channels, conferences, moved⟩
    · exact done.feeds
    · rw [none, moved]
      intro present
      have other : s ≠ id := by
        rintro rfl
        rw [touched] at apart
        cases apart
      exact ⟨(List.length_set ..).symm ▸ present, socket_setSocket_ne b state other ▸ .refl _⟩
    · rw [none, moved]
      exact .of_sockets rfl

/-- What is done to the handles of a socket or by its wire is a use of it, by which it takes nothing
    and is not closed. -/
theorem use_of_touches {operation : Operation} (touches : operation.touches s = true) :
    ∃ use : SocketUse, operation = use.operation s ∧ ∀ (state : Socket) (held : Bool),
      (state.use held use).2 =
        { state with
          queue := (state.use held use).2.queue
          handles := (state.use held use).2.handles
          receiving := (state.use held use).2.receiving } := by
  cases operation with
  | cloneHandle id =>
    obtain rfl : id = s := eq_of_beq touches
    exact ⟨.cloneHandle, rfl, fun _ _ => rfl⟩
  | dropHandle id =>
    obtain rfl : id = s := eq_of_beq touches
    exact ⟨.dropHandle, rfl, fun _ _ => rfl⟩
  | dropReceiver id =>
    obtain rfl : id = s := eq_of_beq touches
    exact ⟨.dropReceiver, rfl, fun _ _ => rfl⟩
  | takeFrame id =>
    obtain rfl : id = s := eq_of_beq touches
    refine ⟨.take, rfl, fun state held => ?_⟩
    unfold Socket.use Socket.take
    cases state.queue <;> rfl
  | poll id =>
    obtain rfl : id = s := eq_of_beq touches
    refine ⟨.poll, rfl, fun state held => ?_⟩
    unfold Socket.use Socket.poll Socket.take
    cases state.queue <;> rfl
  | _ => cases touches

/-! ## The flow through the queue -/

/-- What the operations of a run come to, in order. -/
def transcript (b : Bridge) : List Operation → List (Operation × Answer)
  | [] => []
  | operation :: rest =>
      (operation, (b.step operation).1) :: (b.step operation).2.transcript rest

/-- The frame that the wire of a socket got. -/
def delivered? (s : SocketId) : Operation × Answer → Option Frame
  | (.takeFrame id, .frame frame) => if id = s then frame else none
  | (.poll id, .polled (.frame frame)) => if id = s then some frame else none
  | _ => none

theorem delivered?_of_apart {operation : Operation} (apart : operation.touches s = false)
    (answer : Answer) : delivered? s (operation, answer) = none := by
  unfold delivered?
  split
  · rename_i same
    cases same
    exact if_neg (ne_of_beq_false apart)
  · rename_i same
    cases same
    exact if_neg (ne_of_beq_false apart)
  · rfl

/-- What a step delivers and what waits after it is what waited before and what the socket took. -/
theorem flow_step {operation : Operation} (present : s < b.sockets.length)
    (kept : operation ≠ .dropReceiver s) : s < (b.step operation).2.sockets.length ∧
      (delivered? s (operation, (b.step operation).1)).toList ++
          ((b.step operation).2.socket s).queue =
        (b.socket s).queue ++ wireOf s (b.stepPostings operation) := by
  cases touches : operation.touches s with
  | false =>
    obtain ⟨stays, grown⟩ := feeds_step touches b present
    rw [delivered?_of_apart touches]
    exact ⟨stays, grown.queue⟩
  | true =>
    obtain ⟨use, rfl, -⟩ := use_of_touches touches
    obtain ⟨answer, state⟩ := step_use present use
    refine ⟨(length_sockets_use b s use).symm ▸ present, ?_⟩
    have taken := (b.socket s).take_conserves.1
    rw [answer, state]
    cases use with
    | cloneHandle => exact (List.append_nil _).symm
    | dropHandle => exact (List.append_nil _).symm
    | send text => cases touches
    | close status reason => cases touches
    | take =>
      have got : delivered? s (.takeFrame s, .frame (b.socket s).take.1) = (b.socket s).take.1 :=
        if_pos rfl
      rw [← got] at taken
      exact taken.trans (List.append_nil _).symm
    | poll =>
      obtain ⟨found, same⟩ := (b.socket s).received?_poll (b.isHeld s)
      have got : delivered? s (.poll s, .polled ((b.socket s).poll (b.isHeld s)).1) =
          (b.socket s).take.1 := by
        rw [← found]
        cases ((b.socket s).poll (b.isHeld s)).1 <;> simp [delivered?, SocketLog.received?]
      rw [← got, ← same] at taken
      exact taken.trans (List.append_nil _).symm
    | dropReceiver => exact absurd rfl kept

/-- As long as the wire is there, what it gets and what still waits is what waited at first and what
    the socket took, in the same order. -/
theorem flow_run {operations : List Operation} (present : s < b.sockets.length)
    (kept : .dropReceiver s ∉ operations) :
    (b.transcript operations).filterMap (delivered? s) ++ ((b.run operations).socket s).queue =
      (b.socket s).queue ++ wireOf s (b.runPostings operations) := by
  induction operations generalizing b with
  | nil => exact (List.append_nil _).symm
  | cons operation rest ih =>
    obtain ⟨head, tail⟩ := not_or.1 (mt List.mem_cons.2 kept)
    obtain ⟨stays, flow⟩ := flow_step present (Ne.symm head)
    have later := ih stays tail
    rw [transcript, SlotHistory.filterMap_cons_toList, List.append_assoc, runPostings, wireOf_append]
    have moved : (b.run (operation :: rest)) = (b.step operation).2.run rest := rfl
    rw [moved, later, ← List.append_assoc, flow, List.append_assoc]

/-- The frames that a socket took. -/
def framesOn (b : Bridge) (s : SocketId) : List Frame :=
  b.frames.filterMap (toSocket? s)

theorem framesOn_run (b : Bridge) (s : SocketId) (operations : List Operation) :
    (b.run operations).framesOn s = b.framesOn s ++ wireOf s (b.runPostings operations) := by
  rw [framesOn, (booked_run b operations).frames, List.filterMap_append]
  rfl

end Bridge

end ControlChannel
