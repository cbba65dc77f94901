import ControlChannel.Proofs.Bridge.Handles

/-!
# When the wire of a socket is finished

The wire of a socket gets the frames that wait, in order. Once none waits, it is finished if the session
was closed or no handle of the socket is left, and from then on it stays finished; otherwise a frame may
still come. So the wire of a session that was closed gets exactly the frames that wait, and then no more.
-/

namespace ControlChannel

/-- What a look of the wire of this socket found. -/
def polled? (s : SocketId) : Operation × Answer → Option Poll
  | (.poll id, .polled found) => if id = s then some found else none
  | _ => none

/-- What looks find while a queue that gets no more frames runs dry: each frame once, and then the
    end. -/
def runDry (queue : List Frame) (looks : Nat) : List Poll :=
  (queue.take looks).map .frame ++ .replicate (looks - queue.length) .finished

namespace Bridge

variable {b : Bridge} {t : TransportId} {s : SocketId} {operation : Operation}

/-- No frame waits for the wire of the socket, and none will come. -/
def Finished (b : Bridge) (s : SocketId) : Prop :=
  (b.socket s).queue = [] ∧ ((b.socket s).closed = true ∨ b.handlesLeft s = 0)

/-- Looks of the wire find the frames that wait, each once, and then the end, whatever else happens
    meanwhile. -/
def Drains (b : Bridge) (s : SocketId) : Prop :=
  ∀ later : List Operation,
    (∀ operation ∈ later, operation ≠ .takeFrame s ∧ operation ≠ .dropReceiver s) →
      let polls := (b.transcript later).filterMap (polled? s)
      polls = runDry (b.socket s).queue polls.length

/-! ## One look -/

/-- The oldest frame that waits is found, as it is taken. -/
theorem poll_of_waiting {frame : Frame} {rest : List Frame} (present : s < b.sockets.length)
    (waiting : (b.socket s).queue = frame :: rest) :
    (b.step (.poll s)).1 = .polled (.frame frame) ∧
      (b.step (.takeFrame s)).1 = .frame (some frame) ∧
      (b.step (.takeFrame s)).2 = (b.step (.poll s)).2 ∧
      ((b.step (.poll s)).2.socket s).queue = rest := by
  have taken : (b.socket s).take = (some frame, { b.socket s with queue := rest }) := by
    rw [Socket.take, waiting]
  have found : (b.socket s).poll (b.isHeld s) = (.frame frame, { b.socket s with queue := rest }) := by
    rw [Socket.poll, taken]
  refine ⟨?_, ?_, ?_, ?_⟩
  · rw [step, found]
  · rw [step, taken]
  · rw [step, step, found, taken]
  · rw [step, found]
    dsimp only
    rw [socket_setSocket present]

/-- If no frame waits, a look changes nothing, and tells whether one may still come. -/
theorem poll_of_empty (sound : b.Sound) (present : s < b.sockets.length)
    (empty : (b.socket s).queue = []) : b.step (.poll s) =
      (.polled (if (b.socket s).closed = true ∨ b.handlesLeft s = 0 then .finished else .pending),
        b) := by
  have nothing : (b.socket s).take = (none, b.socket s) := by rw [Socket.take, empty]
  have informed := sound.cancelled s present
  have found : (b.socket s).poll (b.isHeld s) = (if (b.socket s).closed = true ∨
      b.handlesLeft s = 0 then .finished else .pending, b.socket s) := by
    rw [Socket.poll, nothing]
    dsimp only
    rw [informed, sound.isHeld_eq]
    by_cases closed : (b.socket s).closed = true <;> by_cases none : b.handlesLeft s = 0 <;>
      simp [closed, none]
  rw [step, found]
  dsimp only
  rw [setSocket_socket]

theorem poll_eq_finished (sound : b.Sound) (present : s < b.sockets.length) :
    (b.step (.poll s)).1 = .polled .finished ↔ b.Finished s := by
  unfold Finished
  cases waiting : (b.socket s).queue with
  | nil =>
    rw [poll_of_empty sound present waiting]
    by_cases ended : (b.socket s).closed = true ∨ b.handlesLeft s = 0 <;> simp [ended]
  | cons frame rest =>
    rw [(poll_of_waiting present waiting).1]
    simp

/-! ## Once finished -/

/-- What is done to the handles of a socket or by its wire puts no frame into its queue, and only a clone
    adds a handle. -/
theorem use_of_empty {use : SocketUse} (touches : (use.operation s).touches s = true)
    {state : Socket} (empty : state.queue = []) (held : Bool) :
    (state.use held use).2.queue = [] ∧
      (use ≠ .cloneHandle → (state.use held use).2.handles ≤ state.handles) := by
  cases use with
  | cloneHandle => exact ⟨empty, fun other => absurd rfl other⟩
  | dropHandle => exact ⟨empty, fun _ => Nat.sub_le ..⟩
  | send text => cases touches
  | close status reason => cases touches
  | take => simp [Socket.use, Socket.take, empty]
  | poll => simp [Socket.use, Socket.poll, Socket.take, empty]
  | dropReceiver => exact ⟨rfl, fun _ => Nat.le_refl _⟩

theorem spares_of_unheld (unheld : operation.handle? ≠ some s) : operation.spares s = true := by
  have apart {id : SocketId} (other : some id ≠ some s) : (id != s) = true := by
    simpa using other
  cases operation with
  | sendText id text => exact apart unheld
  | closeSession id status reason => exact apart unheld
  | transport t asked =>
    cases asked with
    | installSocket id => exact apart unheld
    | slots operation =>
      cases operation with
      | putSocket id greeting => exact apart unheld
      | _ => rfl
    | dispatch channel message =>
      cases channel with
      | none => rfl
      | some channel =>
        cases channel with
        | socket id => exact apart unheld
        | dataChannel d => rfl
    | sendVia channel message =>
      cases channel with
      | socket id => exact apart unheld
      | dataChannel d => rfl
    | _ => rfl
  | _ => rfl

/-- Once no handle of a socket is left, what can be asked for neither makes one nor reaches the socket. -/
theorem unheld_step (sound : b.Sound) (present : s < b.sockets.length) (admits : b.Admits operation)
    (empty : (b.socket s).queue = []) (unheld : b.handlesLeft s = 0) :
    ((b.step operation).2.socket s).queue = [] ∧ (b.step operation).2.handlesLeft s = 0 := by
  have unused : operation.handle? ≠ some s := by
    intro uses
    have held := admits.held s uses
    rw [unheld] at held
    cases held
  have spares : ∀ each ∈ [operation], each.spares s = true :=
    List.forall_mem_singleton.2 (spares_of_unheld unused)
  obtain ⟨outside, absent⟩ := sound.handlesLeft_eq_zero.1 unheld
  have still : ∀ t, (b.step operation).2.currentSocket t ≠ some s :=
    fun t here => absent t (currentSocket_of_run spares here)
  rw [(sound.step admits).handlesLeft_eq_zero]
  cases touches : operation.touches s with
  | false =>
    obtain ⟨-, grown⟩ := feeds_step touches b present
    have nothing := wireOf_runPostings_of_absent spares absent
    rw [runPostings, wireOf_append, List.append_eq_nil_iff] at nothing
    refine ⟨?_, grown.handles.trans outside, still⟩
    rw [grown.queue, empty, nothing.1]
    rfl
  | true =>
    obtain ⟨use, rfl, -⟩ := use_of_touches touches
    obtain ⟨dry, fewer⟩ := use_of_empty touches empty (b.isHeld s)
    rw [(step_use present use).2]
    refine ⟨dry, Nat.le_zero.1 (outside ▸ fewer ?_), still⟩
    rintro rfl
    exact unused rfl

/-- A session that was closed stays so, and the wire stays informed. -/
theorem ended_step (present : s < b.sockets.length) (closed : (b.socket s).closed = true)
    (operation : Operation) : ((b.step operation).2.socket s).closed = true ∧
      ((b.step operation).2.socket s).cancelled = (b.socket s).cancelled := by
  cases touches : operation.touches s with
  | false =>
    rw [(feeds_step touches b present).2.closed closed]
    exact ⟨closed, rfl⟩
  | true =>
    obtain ⟨use, rfl, kept⟩ := use_of_touches touches
    rw [(step_use present use).2, kept]
    exact ⟨closed, rfl⟩

/-- Once the session of a socket is closed, its queue gets no more frames. -/
theorem dry_step (present : s < b.sockets.length) (empty : (b.socket s).queue = [])
    (closed : (b.socket s).closed = true) (operation : Operation) :
    ((b.step operation).2.socket s).queue = [] := by
  cases touches : operation.touches s with
  | false =>
    rw [(feeds_step touches b present).2.closed closed]
    exact empty
  | true =>
    obtain ⟨use, rfl, -⟩ := use_of_touches touches
    rw [(step_use present use).2]
    exact (use_of_empty touches empty _).1

theorem Finished.step (finished : b.Finished s) (sound : b.Sound) (present : s < b.sockets.length)
    (admits : b.Admits operation) : (b.step operation).2.Finished s := by
  obtain ⟨empty, closed | unheld⟩ := finished
  · exact ⟨dry_step present empty closed operation, .inl (ended_step present closed operation).1⟩
  · obtain ⟨dry, still⟩ := unheld_step sound present admits empty unheld
    exact ⟨dry, .inr still⟩

/-- A socket that is there stays there. -/
theorem length_sockets_step (present : s < b.sockets.length) (operation : Operation) :
    s < (b.step operation).2.sockets.length := by
  cases touches : operation.touches s with
  | false => exact (feeds_step touches b present).1
  | true =>
    obtain ⟨use, rfl, -⟩ := use_of_touches touches
    rwa [length_sockets_use]

theorem Finished.run {operations : List Operation} (finished : b.Finished s) (sound : b.Sound)
    (present : s < b.sockets.length) (admitted : b.Admitted operations) :
    (b.run operations).Finished s ∧ s < (b.run operations).sockets.length := by
  induction operations generalizing b with
  | nil => exact ⟨finished, present⟩
  | cons operation rest ih =>
    obtain ⟨admits, later⟩ := admitted
    exact ih (finished.step sound present admits) (sound.step admits)
      (length_sockets_step present operation) later

/-! ## Once closed -/

theorem runDry_cons (frame : Frame) (rest : List Frame) (looks : Nat) :
    runDry (frame :: rest) (looks + 1) = .frame frame :: runDry rest looks := by
  simp [runDry]

theorem runDry_nil (looks : Nat) : runDry [] (looks + 1) = .finished :: runDry [] looks := by
  simp [runDry, List.replicate_succ]

theorem polled?_of_ne (other : operation ≠ .poll s) (answer : Answer) :
    polled? s (operation, answer) = none := by
  unfold polled?
  split
  · rename_i same
    cases same
    refine if_neg ?_
    rintro rfl
    exact other rfl
  · rfl

/-- Once the session is closed, only looks of the wire change its queue, while it is there and does not
    take frames without looking. -/
theorem idle_step (present : s < b.sockets.length) (closed : (b.socket s).closed = true)
    (looks : operation ≠ .poll s) (alone : operation ≠ .takeFrame s ∧ operation ≠ .dropReceiver s) :
    ((b.step operation).2.socket s).queue = (b.socket s).queue := by
  cases touches : operation.touches s with
  | false => rw [(feeds_step touches b present).2.closed closed]
  | true =>
    obtain ⟨use, rfl, -⟩ := use_of_touches touches
    rw [(step_use present use).2]
    cases use with
    | cloneHandle => rfl
    | dropHandle => rfl
    | send text => cases touches
    | close status reason => cases touches
    | take => exact absurd rfl alone.1
    | poll => exact absurd rfl looks
    | dropReceiver => exact absurd rfl alone.2

/-- Once the session is closed, and the wire told of it, the queue runs dry. -/
theorem drains_of_closed (present : s < b.sockets.length) (closed : (b.socket s).closed = true)
    (cancelled : (b.socket s).cancelled = true) : b.Drains s := by
  intro later alone
  induction later generalizing b with
  | nil => simp [transcript, runDry]
  | cons operation rest ih =>
    intro polls
    obtain ⟨head, tail⟩ := List.forall_mem_cons.1 alone
    obtain ⟨still, told⟩ := ended_step present closed operation
    have later := ih (length_sockets_step present operation) still (told.trans cancelled) tail
    have first : polls = (polled? s (operation, (b.step operation).1)).toList ++
        ((b.step operation).2.transcript rest).filterMap (polled? s) :=
      SlotHistory.filterMap_cons_toList _ _ _
    rw [first]
    by_cases looks : operation = .poll s
    · subst looks
      have found (poll : Poll) : polled? s (.poll s, .polled poll) = some poll := if_pos rfl
      cases waiting : (b.socket s).queue with
      | nil =>
        have ends : b.step (.poll s) = (.polled .finished, b) := by
          have nothing : (b.socket s).take = (none, b.socket s) := by rw [Socket.take, waiting]
          simp [step, Socket.poll, nothing, cancelled, setSocket_socket]
        rw [ends, found]
        rw [ends, waiting] at later
        rw [Option.toList_some, List.singleton_append, List.length_cons, runDry_nil, ← later]
      | cons frame more =>
        obtain ⟨answer, -, -, left⟩ := poll_of_waiting present waiting
        rw [left] at later
        rw [answer, found, Option.toList_some, List.singleton_append, List.length_cons, runDry_cons,
          ← later]
    · rw [idle_step present closed looks head] at later
      rw [polled?_of_ne looks, Option.toList_none, List.nil_append]
      exact later

/-! ## The law -/

/-- In every state that can be reached from a bridge without sockets by what can be asked for: a look of
    the wire finds the oldest frame that waits, and takes it as it would be taken; if none waits, it finds
    that the wire is finished exactly if the session was closed or no handle is left. Once it is finished
    it stays so. After the session was closed, looks find the frames that wait, each once, and then the
    end. And whatever takes the socket out of the slot of a transport releases the handle there. -/
theorem receiver_finishes {operations : List Operation} (fresh : b.Fresh) (unmade : b.sockets = [])
    (admitted : b.Admitted operations) :
    let now := b.run operations
    ∀ s < now.sockets.length,
      (∀ frame rest, (now.socket s).queue = frame :: rest →
        (now.step (.poll s)).1 = .polled (.frame frame) ∧
          (now.step (.takeFrame s)).1 = .frame (some frame) ∧
          (now.step (.takeFrame s)).2 = (now.step (.poll s)).2 ∧
          ((now.step (.poll s)).2.socket s).queue = rest) ∧
      ((now.socket s).queue = [] → now.step (.poll s) =
        (.polled (if (now.socket s).closed = true ∨ now.handlesLeft s = 0 then .finished
          else .pending), now)) ∧
      ((now.step (.poll s)).1 = .polled .finished → ∀ later, now.Admitted later →
        ((now.run later).step (.poll s)).1 = .polled .finished) ∧
      ((now.socket s).closed = true → now.Drains s) ∧
      (∀ status reason, (now.step (.closeSession s status reason)).2.Drains s) ∧
      ∀ t asked, now.isLive t = true → now.currentSocket t = some s →
        TransportOperation.removes s asked = true →
        let after := (now.step (.transport t asked)).2
        after.currentSocket t ≠ some s ∧ after.handlesLeft s + 1 = now.handlesLeft s := by
  intro now s present
  have sound : now.Sound := (fresh.sound unmade).run admitted
  refine ⟨fun frame rest => poll_of_waiting present, poll_of_empty sound present, ?_, ?_, ?_, ?_⟩
  · intro ends later asked
    have finished := (poll_eq_finished sound present).1 ends
    obtain ⟨still, there⟩ := finished.run sound present asked
    exact (poll_eq_finished (sound.run asked) there).2 still
  · intro closed
    exact drains_of_closed present closed ((sound.cancelled s present).trans closed)
  · intro status reason
    have there := length_sockets_step present (.closeSession s status reason)
    have told := cancelled_step now (.closeSession s status reason) (sound.cancelled s) there
    have shut : ((now.step (.closeSession s status reason)).2.socket s).closed = true := by
      have closes : ((now.step (.closeSession s status reason)).2.socket s).closed =
          ((now.socket s).closed || s == s) := closed_closeSession now s s status reason
      rw [closes, beq_self_eq_true, Bool.or_true]
    exact drains_of_closed there shut (told.trans shut)
  · intro t asked live current removes
    exact handlesLeft_release present live current removes

/-- An endpoint, and no socket yet. -/
def noSocket : Bridge where
  statistics := [{}]
  transports := [.create "a" {} none 0]

/-- The only handle of the socket is the one in the slot, and its greeting was taken. -/
def heldBySlot : List Operation :=
  [.newSocket 2, .transport 0 (.installSocket 0), .cloneHandle 0, .dropHandle 0, .dropHandle 0,
    .poll 0]

theorem admitted_heldBySlot : noSocket.Admitted heldBySlot := by
  refine ⟨⟨nofun, nofun⟩, ⟨?_, ?_⟩, ⟨?_, nofun⟩, ⟨nofun, nofun⟩, ⟨nofun, nofun⟩, ⟨nofun, nofun⟩,
    trivial⟩
  · rintro s ⟨⟩
    decide
  · rintro t asked ⟨⟩
    decide
  · rintro s ⟨⟩
    decide +kernel

theorem receiver_finishes_heldBySlot :
    let now := noSocket.run heldBySlot
    let dropped := (now.step (.transport 0 .dropTransport)).2
    let closed := (now.step (.closeSession 0 1000 "bye")).2
    now.step (.poll 0) = (.polled .pending, now) ∧
      dropped.handlesLeft 0 = 0 ∧
      (closed.transcript [.poll 0, .newSocket 1, .poll 0, .poll 0]).filterMap (polled? 0) =
        [.frame (.close 1000 "bye"), .finished, .finished] := by
  intro now dropped closed
  have fresh : noSocket.Fresh := ⟨rfl, fun tr mem => ⟨"a", {}, none, 0, List.mem_singleton.1 mem⟩⟩
  obtain ⟨-, empty, -, -, closes, releases⟩ :=
    receiver_finishes fresh rfl admitted_heldBySlot 0 (by decide +kernel)
  have pending := empty (by decide +kernel)
  have one : now.handlesLeft 0 = 1 := by decide +kernel
  rw [if_neg (by decide +kernel)] at pending
  obtain ⟨-, left⟩ := releases 0 .dropTransport (by decide +kernel) (by decide +kernel) rfl
  have drained := closes 1000 "bye" [.poll 0, .newSocket 1, .poll 0, .poll 0] (by simp)
  have looks : ((closed.transcript [.poll 0, .newSocket 1, .poll 0, .poll 0]).filterMap
      (polled? 0)).length = 3 := by decide +kernel
  have queue : (closed.socket 0).queue = [.close 1000 "bye"] := by decide +kernel
  refine ⟨pending, ?_, ?_⟩
  · exact Nat.succ.inj (left.trans one)
  · exact drained.trans (by rw [looks, queue]; rfl)

end Bridge

end ControlChannel
