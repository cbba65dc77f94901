import ControlChannel.Proofs.Bridge.SlotWire

/-!
# The handles of a socket

A socket lives as long as a handle of it is left: one outside the bridge, or one in the slot of a
transport. What uses a socket needs a handle of it, and what is done to a transport needs the transport.
In runs of such operations a transport that was dropped keeps no handle, and what takes a socket out of
a slot releases one.
-/

namespace ControlChannel

namespace Standing

/-- A transport that stands here holds the socket. -/
def holds (s : SocketId) (st : Standing) : Bool :=
  st.live && st.channels.socket == some s

end Standing

/-- The socket that an operation needs a handle of. -/
def Operation.handle? : Operation → Option SocketId
  | cloneHandle s | sendText s _ | closeSession s _ _ | transport _ (.installSocket s)
  | transport _ (.slots (.putSocket s _)) | transport _ (.dispatch (some (.socket s)) _)
  | transport _ (.sendVia (.socket s) _) => some s
  | _ => none

theorem countP_modify {α : Type} {p : α → Bool} {f : α → α} {l : List α} {i : Nat} {a : α}
    (found : l[i]? = some a) (before : p a = true) (after : p (f a) = false) :
    (l.modify i f).countP p + 1 = l.countP p := by
  induction l generalizing i with
  | nil => cases found
  | cons head rest ih =>
    cases i with
    | zero =>
      cases found
      simp [before, after]
    | succ i =>
      rw [List.modify_succ_cons, List.countP_cons, List.countP_cons, ← ih found]
      omega

namespace Bridge

variable {b b' : Bridge} {t : TransportId} {s : SocketId} {operation : Operation}

/-- The handles of a socket that are left: those outside the bridge, and one in the slot of each live
    transport that has it. -/
def handlesLeft (b : Bridge) (s : SocketId) : Nat :=
  (b.socket s).handles + b.transports.countP fun tr => tr.live && tr.channels.socket == some s

/-- The operation can be asked for: a handle is left of the socket that it uses, and the transport that
    it is for was not dropped. -/
structure Admits (b : Bridge) (operation : Operation) : Prop where
  held : ∀ s, operation.handle? = some s → 0 < b.handlesLeft s
  live : ∀ t asked, operation = .transport t asked → b.isLive t = true

/-- Each operation of a run can be asked for when its turn comes. -/
def Admitted (b : Bridge) : List Operation → Prop
  | [] => True
  | operation :: rest => b.Admits operation ∧ (b.step operation).2.Admitted rest

/-- The wire of a socket is told of the end of the session exactly when it ends, and a transport that
    was dropped holds no socket. -/
structure Sound (b : Bridge) : Prop where
  cancelled : ∀ s < b.sockets.length, (b.socket s).cancelled = (b.socket s).closed
  dead : ∀ t, b.isLive t = false → b.currentSocket t = none

/-! ## Handles -/

theorem handlesLeft_eq (b : Bridge) (s : SocketId) : b.handlesLeft s =
    (b.socket s).handles + (b.transports.map (·.standing)).countP (·.holds s) := by
  rw [handlesLeft, List.countP_map]
  rfl

/-- A socket is in a slot if some transport has it. -/
theorem exists_currentSocket : (∃ t, b.currentSocket t = some s) ↔
    ∃ tr ∈ b.transports, tr.channels.socket = some s := by
  constructor
  · rintro ⟨t, current⟩
    obtain ⟨st, stands, -⟩ := currentSocket_eq_some.1 current
    obtain ⟨tr, found, -⟩ := Option.map_eq_some_iff.1 stands
    refine ⟨tr, List.mem_of_getElem? found, ?_⟩
    rwa [currentSocket, transport, List.getD_eq_getElem?_getD, found] at current
  · rintro ⟨tr, mem, socket⟩
    obtain ⟨t, found⟩ := List.mem_iff_getElem?.1 mem
    refine ⟨t, ?_⟩
    rwa [currentSocket, transport, List.getD_eq_getElem?_getD, found]

/-- Every handle in a slot is one that is left. -/
theorem Sound.handlesLeft_eq_zero (sound : b.Sound) : b.handlesLeft s = 0 ↔
    (b.socket s).handles = 0 ∧ ∀ t, b.currentSocket t ≠ some s := by
  rw [handlesLeft, Nat.add_eq_zero_iff, List.countP_eq_zero]
  refine and_congr_right fun _ => ⟨fun unheld t current => ?_, fun absent tr mem holds => ?_⟩
  · have live : b.isLive t = true := by
      by_contra gone
      rw [sound.dead t (Bool.eq_false_iff.2 gone)] at current
      cases current
    obtain ⟨st, stands, socket⟩ := currentSocket_eq_some.1 current
    obtain ⟨tr, found, -⟩ := Option.map_eq_some_iff.1 stands
    rw [isLive, transport, List.getD_eq_getElem?_getD, found, Option.getD_some] at live
    rw [currentSocket, transport, List.getD_eq_getElem?_getD, found, Option.getD_some] at current
    exact unheld tr (List.mem_of_getElem? found) (by simp [live, current])
  · obtain ⟨-, socket⟩ := Bool.and_eq_true_iff.1 holds
    obtain ⟨t, current⟩ := exists_currentSocket.2 ⟨tr, mem, eq_of_beq socket⟩
    exact absent t current

theorem Sound.isHeld_eq (sound : b.Sound) : b.isHeld s = decide (b.handlesLeft s ≠ 0) := by
  rw [Bool.eq_iff_iff, decide_eq_true_iff, ne_eq, sound.handlesLeft_eq_zero, ← not_exists_not]
  have slots : (b.transports.any fun tr => tr.channels.socket == some s) = true ↔
      ∃ t, b.currentSocket t = some s := by
    rw [exists_currentSocket, List.any_eq_true]
    simp only [beq_iff_eq]
  rw [isHeld, Bool.or_eq_true, slots, decide_eq_true_iff, Nat.pos_iff_ne_zero]
  by_cases none : (b.socket s).handles = 0 <;> simp [none]

/-! ## Soundness -/

/-- Work keeps the wire of a socket informed. -/
theorem Work.cancelled {posts : List Posting} (done : Work t b posts b')
    (informed : s < b.sockets.length → (b.socket s).cancelled = (b.socket s).closed)
    (present : s < b'.sockets.length) : (b'.socket s).cancelled = (b'.socket s).closed := by
  induction done with
  | trans _ _ first second => exact second (first informed) present
  | @make state buffer b created =>
    by_cases old : s < b.sockets.length
    · have kept : ({ b with sockets := b.sockets ++ [state] } : Bridge).socket s = b.socket s := by
        simp [socket, List.getElem?_append_left old]
      rw [kept]
      exact informed old
    · rw [List.length_append, List.length_singleton] at present
      have last : s = b.sockets.length :=
        Nat.le_antisymm (Nat.lt_succ_iff.1 present) (Nat.not_lt.1 old)
      unfold Socket.create at created
      split at created
      · cases created
      · cases created
        simp [socket, last]
  | @queue b id text state sent =>
    have old : s < b.sockets.length := by simpa [setSocket, emit] using present
    exact ((Work.queue (t := t) sent).feeds old).2.cancelled (informed old)
  | shut b id status reason =>
    rw [sockets_closeSession, List.length_set] at present
    exact ((Work.shut (t := t) b id status reason).feeds present).2.cancelled (informed present)
  | _ => exact informed present

/-- A step keeps the wire of a socket informed. -/
theorem cancelled_step (b : Bridge) (operation : Operation)
    (informed : s < b.sockets.length → (b.socket s).cancelled = (b.socket s).closed)
    (present : s < (b.step operation).2.sockets.length) :
    ((b.step operation).2.socket s).cancelled = ((b.step operation).2.socket s).closed := by
  cases occasion : b.occasion? operation with
  | some found =>
    obtain ⟨t, asked⟩ := found
    obtain ⟨posts, done, -, -⟩ := worked_of_occasion occasion
    exact done.cancelled informed present
  | none =>
    rcases step_of_no_occasion occasion with done | ⟨-, id, state, touched, moved⟩ |
      ⟨-, channels, conferences, moved⟩
    · exact done.cancelled informed present
    · obtain ⟨use, rfl, kept⟩ := use_of_touches touched
      rw [length_sockets_use] at present
      by_cases here : id = s
      · subst here
        rw [(step_use present use).2, kept]
        exact informed present
      · rw [moved, socket_setSocket_ne b state (Ne.symm here)]
        exact informed present
    · rw [moved] at present ⊢
      exact informed present

theorem live_moved {o : Occurrence} (kept : o.operation ≠ .dropTransport) (st : Standing) :
    (o.moved st).live = st.live := by
  obtain ⟨b, t, operation⟩ := o
  cases operation with
  | dropTransport => exact absurd rfl kept
  | _ => rfl

/-- What one transport stands for moves only with what happens to it, and it is live as long as it is
    not dropped. -/
theorem tracked_live : Tracked fun b past b' => ∀ t after, b'.view.standing t = some after →
    ∃ before, b.view.standing t = some before ∧
      ((∀ o ∈ past, o.transport ≠ t) → after = before) ∧
      ((∀ o ∈ past, o.operation ≠ .dropTransport) → after.live = before.live) := by
  refine Tracked.of_view ?trans ?same ?after
  case trans =>
    intro b b' b'' past more first second t after stands
    obtain ⟨middle, stood, apart, live⟩ := second t after stands
    obtain ⟨before, stood, apartFirst, liveFirst⟩ := first t middle stood
    refine ⟨before, stood, fun other => ?_, fun kept => ?_⟩
    · obtain ⟨early, late⟩ := List.forall_mem_append.1 other
      rw [apart late, apartFirst early]
    · obtain ⟨early, late⟩ := List.forall_mem_append.1 kept
      rw [live late, liveFirst early]
  case same =>
    intro b b' same t after stands
    rw [same] at stands
    exact ⟨after, stands, fun _ => rfl, fun _ => rfl⟩
  case after =>
    intro o b' viewed t after stands
    rw [viewed] at stands
    obtain ⟨before, stood, rfl⟩ := standing_viewAfter stands
    refine ⟨before, stood, fun other => ?_, fun kept => ?_⟩
    · exact if_neg (Ne.symm (other o List.mem_cons_self))
    · split
      · obtain ⟨-, -, live, -⟩ := o.effect_eq_moved before
        rw [live]
        exact live_moved (kept o List.mem_cons_self) before
      · rfl

theorem isLive_of_standing {st : Standing} (stands : b.view.standing t = some st) :
    b.isLive t = st.live :=
  congrArg Standing.live (standing_view b t stands)

/-- What is asked for is asked of a transport that was not dropped. -/
theorem live_of_occasion {asked : TransportOperation} (admits : b.Admits operation)
    (occasion : b.occasion? operation = some (t, asked)) : b.isLive t = true := by
  rcases occasion_cases occasion with rfl | ⟨live, -⟩
  · exact admits.live t asked rfl
  · exact live

/-- No endpoint asks for its transport to be dropped. -/
theorem ne_dropTransport_of_mem {asked : TransportOperation} {o : Occurrence}
    (occasion : b.occasion? operation = some (t, asked)) (kept : asked ≠ .dropTransport)
    (mem : o ∈ b.stepOccurrences operation) : o.operation ≠ .dropTransport := by
  obtain ⟨found, again, same | ⟨reaction, asks⟩⟩ := of_mem_stepOccurrences mem
  · rw [occasion] at again
    cases again
    exact same ▸ kept
  · intro dropped
    rw [dropped] at asks
    rcases Reaction.operation?_cases asks with ⟨_, _, other⟩ | ⟨_, other⟩ | ⟨_, _, other⟩ | other
    all_goals cases other

/-- A sound bridge stays sound across what can be asked for. -/
theorem Sound.step (sound : b.Sound) (admits : b.Admits operation) :
    (b.step operation).2.Sound where
  cancelled s present := cancelled_step b operation (sound.cancelled s) present
  dead t gone := by
    cases current : (b.step operation).2.currentSocket t with
    | none => rfl
    | some s =>
      obtain ⟨after, stands, socket⟩ := currentSocket_eq_some.1 current
      rw [isLive_of_standing stands] at gone
      obtain ⟨before, stood, apart, live⟩ := tracked_live.step operation b t after stands
      -- A transport to which nothing happens would be a dropped one that holds a socket already.
      have moves : ¬ ∀ o ∈ b.stepOccurrences operation, o.transport ≠ t := by
        intro others
        obtain rfl := apart others
        have empty := sound.dead t ((isLive_of_standing stood).trans gone)
        rw [currentSocket_eq_some.2 ⟨after, stood, socket⟩] at empty
        cases empty
      obtain ⟨o, mem, here⟩ : ∃ o ∈ b.stepOccurrences operation, o.transport = t := by
        simpa using moves
      obtain ⟨asked, occasion, -⟩ := of_mem_stepOccurrences mem
      rw [here] at occasion
      have dropped : asked = .dropTransport := by
        by_contra kept
        have stays := live fun o mem => ne_dropTransport_of_mem occasion kept mem
        rw [gone, ← isLive_of_standing stood, live_of_occasion admits occasion] at stays
        cases stays
      rw [Tracked.step_of_occasion occasion, dropped, view_stepTransport rfl] at stands
      obtain ⟨former, -, rfl⟩ := standing_viewAfter stands
      rw [if_pos rfl, (Occurrence.effect_eq_moved _ former).1] at socket
      cases socket

theorem Sound.run {operations : List Operation} (sound : b.Sound)
    (admitted : b.Admitted operations) : (b.run operations).Sound := by
  induction operations generalizing b with
  | nil => exact sound
  | cons operation rest ih => exact ih (sound.step admitted.1) admitted.2

/-- A bridge at its start is sound while there is no socket. -/
theorem Fresh.sound (fresh : b.Fresh) (unmade : b.sockets = []) : b.Sound where
  cancelled s present := by
    rw [unmade] at present
    cases present
  dead t _ := fresh.currentSocket t

/-! ## Release -/

/-- What happens to a transport changes where it stands, among all. -/
theorem standings_of_view {o : Occurrence} (viewed : b'.view = o.viewAfter) :
    b'.transports.map (·.standing) =
      (o.bridge.transports.map (·.standing)).modify o.transport o.effect := by
  refine List.ext_getElem? fun u => ?_
  have stands : b'.transports[u]?.map (·.standing) = if u = o.transport then
      (o.bridge.transports[u]?.map (·.standing)).map o.effect
      else o.bridge.transports[u]?.map (·.standing) :=
    congrArg (fun v : View => v.standing u) viewed
  rw [List.getElem?_map, stands, List.getElem?_modify, List.getElem?_map]
  by_cases here : u = o.transport
  · simp [here]
  · simp [here, Ne.symm here]

/-- What takes a socket out of the slot of a live transport releases its handle. -/
theorem handlesLeft_release {asked : TransportOperation} (present : s < b.sockets.length)
    (live : b.isLive t = true) (current : b.currentSocket t = some s)
    (removes : asked.removes s = true) :
    (b.stepTransport t asked).2.currentSocket t ≠ some s ∧
      (b.stepTransport t asked).2.handlesLeft s + 1 = b.handlesLeft s := by
  have notText : asked.received? = none := by cases asked <;> first | rfl | cases removes
  have spares : asked.spares s = true := by
    cases asked with
    | slots operation => cases operation <;> first | exact removes | rfl
    | _ => first | exact removes | rfl | cases removes
  have viewed := view_stepTransport notText b t
  obtain ⟨st, stands, socket⟩ := currentSocket_eq_some.1 current
  have held : st.holds s = true := by
    rw [isLive_of_standing stands] at live
    simp [Standing.holds, live, socket]
  have released : (Occurrence.effect ⟨b, t, asked⟩ st).holds s = false := by
    have slot := socket_channelsAfter (o := ⟨b, t, asked⟩) spares st.channels
    have gone : (Occurrence.effect ⟨b, t, asked⟩ st).channels.socket ≠ some s := by
      rw [(Occurrence.effect_eq_moved _ st).1]
      intro stays
      rw [(slot.1 stays).2] at removes
      cases removes
    simp [Standing.holds, gone]
  refine ⟨fun stays => ?_, ?_⟩
  · have left := ((tracked_slot s).operate (b := b) t asked notText
      (List.forall_mem_singleton.2 spares) t).1 stays
    have evicts : Occurrence.evicts ⟨b, t, asked⟩ t s = true := by
      simp [Occurrence.evicts, removes]
    rw [left.2 _ List.mem_cons_self] at evicts
    cases evicts
  · have apart : (Operation.transport t asked).touches s = false := rfl
    have outside : ((b.stepTransport t asked).2.socket s).handles = (b.socket s).handles :=
      (feeds_step apart b present).2.handles
    have listed : (b.transports.map (·.standing))[t]? = some st := by
      rw [List.getElem?_map]
      exact stands
    rw [handlesLeft_eq, handlesLeft_eq, outside, standings_of_view viewed, Nat.add_assoc,
      countP_modify listed held released]

end Bridge

end ControlChannel
