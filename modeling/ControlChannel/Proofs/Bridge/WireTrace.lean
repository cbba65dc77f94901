import ControlChannel.Proofs.Bridge.SlotWire
import Mathlib.Data.List.TakeWhile

/-!
# The wire trace of a socket

A new socket is installed once, and used by nobody but its transport. The first frame that it takes is
the greeting. Then, for as long as it stays in the slot, it takes the messages that are sent while it is
selected and the answers to hellos that came from it, and when it leaves the slot at most the frame that
closes it. After that it takes nothing any more.
-/

namespace ControlChannel

namespace Bridge

variable {b : Bridge} {t : TransportId} {s : SocketId}

/-! ## The installation -/

/-- Only another socket is closed as a socket takes its slot. -/
theorem socket_displaceSocket (b : Bridge) (t : TransportId) (s : SocketId) :
    (b.displaceSocket t s).socket s = b.socket s := by
  unfold displaceSocket
  cases (b.transport t).channels.socket with
  | none => rfl
  | some old =>
    dsimp only
    split
    · rfl
    · rename_i other
      have kept : ((b.log (.replacingSocket old s)).setSocket old
          (((b.log (.replacingSocket old s)).socket old).close replacedStatus.1
            replacedStatus.2).1).socket s = b.socket s :=
        socket_setSocket_ne (b.log (.replacingSocket old s)) _ (Ne.symm other)
      rw [socket, sockets_closeSession]
      exact kept

theorem wireOf_displacePostings_self (b : Bridge) (t : TransportId) (s : SocketId) :
    wireOf s (b.displacePostings t s) = [] := by
  unfold displacePostings
  cases b.currentSocket t with
  | none => rfl
  | some old =>
    dsimp only
    split
    · rfl
    · rename_i other
      have closing := wireOf_closing b s old replacedStatus.1 replacedStatus.2
      rwa [if_neg (by simpa using other)] at closing

/-- An open socket with room takes its greeting. -/
theorem wireOf_install (isOpen : (b.socket s).closed = false)
    (receiving : (b.socket s).receiving = true)
    (room : (b.socket s).queue.length < (b.socket s).capacity) (t : TransportId) :
    wireOf s (b.stepPostings (.transport t (.installSocket s))) =
      [.text Message.hello.encode] := by
  have posted : b.stepPostings (.transport t (.installSocket s)) =
      b.displacePostings t s ++ (b.displaceSocket t s).sendPostings t (.socket s) .hello :=
    (List.append_nil _)
  have accepted : (b.displaceSocket t s).refusal (.socket s) Message.hello.encode = none := by
    unfold refusal
    dsimp only
    rw [socket_displaceSocket, Socket.send_of_open isOpen, Socket.offer_of_room receiving room]
  rw [posted, wireOf_append, wireOf_displacePostings_self, wireOf_sendPostings, if_pos rfl,
    textFrame?, if_pos accepted]
  rfl

/-- A socket that was in no slot is in the one that it was installed in. -/
theorem currentSocket_install (present : t < b.transports.length)
    (absent : ∀ u, b.currentSocket u ≠ some s) (u : TransportId) :
    (b.step (.transport t (.installSocket s))).2.currentSocket u = some s ↔ u = t := by
  have viewed : (b.step (.transport t (.installSocket s))).2.view =
      Occurrence.viewAfter ⟨b, t, .installSocket s⟩ := view_stepTransport rfl b t
  rw [currentSocket_eq_some, viewed]
  constructor
  · rintro ⟨after, stands, current⟩
    obtain ⟨before, stood, rfl⟩ := standing_viewAfter stands
    by_contra other
    rw [if_neg other] at current
    exact absent u (currentSocket_eq_some.2 ⟨before, stood, current⟩)
  · rintro rfl
    have stood : b.view.standing u = some (b.transports[u]).standing := by
      simp [view, present]
    have stands : (Occurrence.viewAfter ⟨b, u, .installSocket s⟩).standing u =
        some (Occurrence.effect ⟨b, u, .installSocket s⟩ (b.transports[u]).standing) := by
      have moved : (Occurrence.viewAfter ⟨b, u, .installSocket s⟩).standing u =
        if u = u then (b.view.standing u).map (Occurrence.effect ⟨b, u, .installSocket s⟩)
        else b.view.standing u := rfl
      rw [moved, if_pos rfl, stood]
      rfl
    exact ⟨_, stands, rfl⟩

/-- A socket that is new and in no slot, once it is taken into use: it is in the slot of its transport
    alone, and the greeting waits in its queue. -/
theorem install_new (present : t < b.transports.length) (absent : ∀ u, b.currentSocket u ≠ some s)
    (new : ∃ room handles, b.socket s = { capacity := room + 1, handles := handles }) :
    let installed := (b.step (.transport t (.installSocket s))).2
    (∀ u, installed.currentSocket u = some s ↔ u = t) ∧ s < installed.sockets.length ∧
      (installed.socket s).queue = [.text Message.hello.encode] ∧
      installed.framesOn s = b.framesOn s ++ [.text Message.hello.encode] := by
  intro installed
  obtain ⟨room, handles, made⟩ := new
  have isOpen : (b.socket s).closed = false := by rw [made]
  have greeted : wireOf s (b.stepPostings (.transport t (.installSocket s))) =
      [.text Message.hello.encode] := by
    refine wireOf_install isOpen ?_ ?_ t
    · rw [made]
    · rw [made]
      exact Nat.succ_pos room
  have apart : (Operation.transport t (.installSocket s)).touches s = false := rfl
  obtain ⟨stays, grown⟩ := feeds_step apart b (lt_of_open isOpen)
  have queued := grown.queue
  rw [greeted, made] at queued
  have booked := framesOn_run b s [.transport t (.installSocket s)]
  rw [runPostings, wireOf_append, greeted] at booked
  exact ⟨currentSocket_install present absent, stays, queued, booked⟩

/-! ## Until it leaves -/

/-- What happens while a socket is in its slot, and from when it is taken out on. -/
theorem exists_stay (past : List Occurrence) (t : TransportId) (s : SocketId) :
    ∃ stay gone, past = stay ++ gone ∧ (∀ o ∈ stay, o.evicts t s = false) ∧
      ∀ o ∈ gone.head?, o.evicts t s = true := by
  refine ⟨past.takeWhile fun o => !o.evicts t s, past.dropWhile fun o => !o.evicts t s,
    List.takeWhile_append_dropWhile.symm, fun o mem => ?_, fun o mem => ?_⟩
  · simpa using List.mem_takeWhile_imp mem
  · have found := List.find?_eq_head?_dropWhile_not (l := past) (p := fun o : Occurrence => o.evicts t s)
    rw [← found] at mem
    exact List.find?_some (p := fun o : Occurrence => o.evicts t s) mem

/-- Nothing but a last frame is sent by what takes the socket out of the slot. -/
theorem text?_of_removes {o : Occurrence} (removes : o.operation.removes s = true) :
    o.text? s = none := by
  obtain ⟨b, t, operation⟩ := o
  cases operation <;> first | rfl | cases removes

/-- While the socket stays in the one slot that it is in, it takes texts. -/
theorem wireOf_of_stays {o : Occurrence} (spares : o.operation.spares s = true)
    (stays : o.evicts t s = false)
    (alone : o.bridge.currentSocket o.transport = some s → o.transport = t) :
    wireOf s o.postings = (o.text? s).toList := by
  rw [wireOf_occurrence spares]
  split
  · rename_i here
    have kept : o.operation.removes s = false := by
      simpa [Occurrence.evicts, alone here] using stays
    rw [farewell?_of_stays spares kept]
    exact List.append_nil _
  · exact List.append_nil _

/-- As the socket leaves the slot, it takes a last frame. -/
theorem wireOf_of_evicts {o : Occurrence} (spares : o.operation.spares s = true)
    (evicts : o.evicts t s = true) (current : o.bridge.currentSocket t = some s) :
    wireOf s o.postings = (o.farewell? s).toList := by
  obtain ⟨own, removes⟩ := Bool.and_eq_true_iff.1 evicts
  have own : o.transport = t := eq_of_beq own
  rw [wireOf_occurrence spares, text?_of_removes removes, own, if_pos current]
  rfl

/-- In a run that spares a socket which is in the slot of one transport: what happens while it stays
    there and what happens from when it is taken out on, with the frames that it takes. -/
theorem stay_of_run {operations : List Operation}
    (spares : ∀ operation ∈ operations, operation.spares s = true)
    (current : ∀ u, b.currentSocket u = some s ↔ u = t) :
    ∃ stay gone, b.occurrences operations = stay ++ gone ∧
      (∀ o ∈ stay, o.bridge.currentSocket t = some s ∧ o.evicts t s = false) ∧
      (∀ o ∈ gone.head?, o.bridge.currentSocket t = some s ∧ o.evicts t s = true) ∧
      (∀ o ∈ gone.tail, ∀ u, o.bridge.currentSocket u ≠ some s) ∧
      wireOf s (b.runPostings operations) =
        stay.filterMap (·.text? s) ++ (gone.head?.bind (·.farewell? s)).toList := by
  obtain ⟨stay, gone, split, stays, leaves⟩ := exists_stay (b.occurrences operations) t s
  have spared {o : Occurrence} (mem : o ∈ stay ++ gone) : o.operation.spares s = true :=
    spares_of_mem_run spares (split ▸ mem)
  have standing {past future : List Occurrence} {o : Occurrence}
      (whole : stay ++ gone = past ++ o :: future) (u : TransportId) :
      o.bridge.currentSocket u = some s ↔ u = t ∧ ∀ earlier ∈ past, earlier.evicts u s = false := by
    rw [currentSocket_of_split spares (split.trans whole) u, current]
  have during : ∀ o ∈ stay, o.bridge.currentSocket t = some s ∧
      wireOf s o.postings = (o.text? s).toList := by
    intro o mem
    obtain ⟨past, future, rfl⟩ := List.append_of_mem mem
    have whole : past ++ o :: future ++ gone = past ++ o :: (future ++ gone) := by simp
    have here := (standing whole t).2 ⟨rfl, fun _ mem => stays _ (List.mem_append_left _ mem)⟩
    refine ⟨here, wireOf_of_stays (spared (List.mem_append_left _ mem)) (stays o mem) ?_⟩
    exact fun alone => ((standing whole _).1 alone).1
  have staying : (stay.flatMap fun o => wireOf s o.postings) = stay.filterMap (·.text? s) := by
    rw [List.filterMap_eq_flatMap_toList]
    exact List.flatMap_congr fun o mem => (during o mem).2
  refine ⟨stay, gone, split, fun o mem => ⟨(during o mem).1, stays o mem⟩, ?_⟩
  rw [wireOf_runPostings spares, split, List.flatMap_append, staying]
  cases gone with
  | nil => exact ⟨nofun, nofun, rfl⟩
  | cons leave rest =>
    have evicts : leave.evicts t s = true := leaves leave rfl
    have there : leave.bridge.currentSocket t = some s := (standing rfl t).2 ⟨rfl, stays⟩
    have left : ∀ o ∈ rest, ∀ u, o.bridge.currentSocket u ≠ some s := by
      intro o mem u here
      obtain ⟨past, future, rfl⟩ := List.append_of_mem mem
      have whole : stay ++ leave :: (past ++ o :: future) =
          (stay ++ leave :: past) ++ o :: future := by simp
      obtain ⟨rfl, kept⟩ := (standing whole u).1 here
      have stayed := kept leave (by simp)
      rw [evicts] at stayed
      cases stayed
    have nothing : (rest.flatMap fun o => wireOf s o.postings) = [] := by
      refine List.flatMap_eq_nil_iff.2 fun o mem => ?_
      exact wireOf_of_absent (spared (by simp [mem])) (left o mem _)
    refine ⟨?_, left, ?_⟩
    · rintro o mem
      cases mem
      exact ⟨there, evicts⟩
    · rw [List.flatMap_cons, wireOf_of_evicts (spared (by simp)) evicts there, nothing,
        List.append_nil]
      rfl

/-- A socket that is in no slot, nor used by anybody, when a transport takes it into use: all that its
    queue ever takes is the greeting, then the texts that the transport has for it while it stays in the
    slot, and then at most the frame that closes it as another socket displaces it or its transport
    gives it up. That is also what its wire gets. From when it has left the slot it takes nothing. -/
theorem wire_trace {before after : List Operation} (fresh : b.Fresh)
    (present : t < b.transports.length)
    (alone : ∀ operation ∈ before ++ after, operation.spares s = true)
    (new : ∃ room handles,
      (b.run before).socket s = { capacity := room + 1, handles := handles }) :
    let installed := b.run (before ++ [.transport t (.installSocket s)])
    let now := installed.run after
    (∃ stay gone, installed.occurrences after = stay ++ gone ∧
      (∀ o ∈ stay, o.bridge.currentSocket t = some s ∧ o.evicts t s = false) ∧
      (∀ o ∈ gone.head?, o.bridge.currentSocket t = some s ∧ o.evicts t s = true) ∧
      (∀ o ∈ gone.tail, ∀ u, o.bridge.currentSocket u ≠ some s) ∧
      now.framesOn s = .text Message.hello.encode ::
        stay.filterMap (·.text? s) ++ (gone.head?.bind (·.farewell? s)).toList) ∧
    (∀ first later, after = first ++ later → (installed.run first).currentSocket t ≠ some s →
      now.framesOn s = (installed.run first).framesOn s) ∧
    (.dropReceiver s ∉ after →
      (installed.transcript after).filterMap (delivered? s) ++ (now.socket s).queue =
        now.framesOn s) := by
  intro installed now
  obtain ⟨spareBefore, spareAfter⟩ := List.forall_mem_append.1 alone
  have empty : ∀ u, b.currentSocket u ≠ some s := fun u => by simp [fresh.currentSocket u]
  have inRange : t < (b.run before).transports.length := by
    rwa [(booked_run b before).length_transports]
  have installs : installed = ((b.run before).step (.transport t (.installSocket s))).2 := by
    simp [installed, run, List.foldl_append]
  obtain ⟨current, there, waiting, greeted⟩ := install_new inRange
    (fun u here => empty u (currentSocket_of_run spareBefore here)) new
  rw [← installs] at current there waiting greeted
  have first : installed.framesOn s = [.text Message.hello.encode] := by
    have start : b.framesOn s = [] := by
      rw [framesOn, frames, fresh.trace]
      rfl
    rw [greeted, framesOn_run_of_absent spareBefore empty, start, List.nil_append]
  have total : now.framesOn s = installed.framesOn s ++ wireOf s (installed.runPostings after) :=
    framesOn_run installed s after
  obtain ⟨stay, gone, split, during, leaves, left, taken⟩ := stay_of_run spareAfter current
  refine ⟨⟨stay, gone, split, during, leaves, left, ?_⟩, ?_, fun kept => ?_⟩
  · rw [total, first, taken]
    rfl
  · intro early late parts gone
    rw [parts] at spareAfter
    obtain ⟨spareEarly, spareLate⟩ := List.forall_mem_append.1 spareAfter
    have apart : now = (installed.run early).run late := by
      simp [now, run, parts, List.foldl_append]
    rw [apart]
    refine framesOn_run_of_absent spareLate fun u here => gone ?_
    obtain rfl := (current u).1 (currentSocket_of_run spareEarly here)
    exact here
  · rw [flow_run there kept, waiting, total, first]

/-- Two new sockets, and an endpoint without a channel. -/
def twoSockets : Bridge where
  sockets := [{ capacity := 3 }, { capacity := 2 }]
  statistics := [{}]
  transports := [.create "a" {} none 0]

/-- The socket is sent an answer and a message, a message for which there is no room, and none after
    another socket took its place. -/
def untilDisplaced : List Operation :=
  [.transport 0 (.receive (.socket 0) Message.clientHello.encode), .transport 0 (.send .hello),
    .transport 0 (.send .clientHello), .poll 0, .newSocket 4, .transport 0 (.installSocket 2),
    .transport 0 (.send .clientHello),
    .transport 0 (.receive (.socket 0) Message.clientHello.encode)]

theorem wire_trace_untilDisplaced :
    let installed := twoSockets.run
      [.transport 0 (.installSocket 1), .transport 0 (.installSocket 0)]
    let now := installed.run untilDisplaced
    let hello := Frame.text Message.hello.encode
    (installed.transcript untilDisplaced).filterMap (delivered? 0) = [hello] ∧
      (now.socket 0).queue = [hello, hello, .close 200 "replaced"] ∧
      now.framesOn 0 = [hello, hello, hello, .close 200 "replaced"] ∧
      now.framesOn 0 = (installed.run (untilDisplaced.take 6)).framesOn 0 := by
  intro installed now hello
  have fresh : twoSockets.Fresh := ⟨rfl, fun tr mem => ⟨"a", {}, none, 0, List.mem_singleton.1 mem⟩⟩
  obtain ⟨-, left, flow⟩ := @wire_trace twoSockets 0 0 [.transport 0 (.installSocket 1)]
    untilDisplaced fresh (by decide) (by decide) ⟨2, 1, by decide +kernel⟩
  have delivered : (installed.transcript untilDisplaced).filterMap (delivered? 0) = [hello] := by
    decide +kernel
  have queue : (now.socket 0).queue = [hello, hello, .close 200 "replaced"] := by decide +kernel
  have flow : (installed.transcript untilDisplaced).filterMap (delivered? 0) ++
      (now.socket 0).queue = now.framesOn 0 := flow (by simp [untilDisplaced])
  refine ⟨delivered, queue, ?_, ?_⟩
  · rw [delivered, queue] at flow
    exact flow.symm
  · exact left (untilDisplaced.take 6) (untilDisplaced.drop 6)
      (List.take_append_drop 6 untilDisplaced).symm (by decide +kernel)

end Bridge

end ControlChannel
