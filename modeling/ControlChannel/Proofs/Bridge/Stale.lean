import ControlChannel.Proofs.Bridge.Arbitration
import ControlChannel.Proofs.Bridge.Receipt

/-!
# Sockets that are not current

A socket that was replaced, cleared or closed may still have a session, and its texts and its end
still reach the transport; so may those of a socket that was never put in. None of them does
anything but leave a note in the trace. A run from which they are left out gives the same answers
and comes to the same end, such notes apart.
-/

namespace ControlChannel

namespace Event

/-- The event is a note of a text from a socket that is not the current one. -/
def isStaleNote : Event → Bool
  | counted (.dropped .inbound .staleSocket) | logged (.unknownSocket _ _) => true
  | _ => false

end Event

/-- The socket that the operation is reported for: it was heard from, or its session ended. -/
def TransportOperation.socket? : TransportOperation → Option SocketId
  | receive (.socket s) _ | clearSocket s _ _ | slots (.takeSocket s) | slots (.markSocket s) => some s
  | _ => none

namespace Bridge

variable {b b' : Bridge} {t : TransportId} {s : SocketId}

/-- The operation is reported for a socket that is not the current one of its transport. -/
def ignores (b : Bridge) : Operation → Bool
  | .transport t operation => operation.socket?.any fun s => b.currentSocket t ≠ some s
  | _ => false

/-- The operations of a run, without those that are reported for sockets that are not current when
    they come. -/
def heeded (b : Bridge) : List Operation → List Operation
  | [] => []
  | operation :: rest =>
      if b.ignores operation then (b.step operation).2.heeded rest
      else operation :: (b.step operation).2.heeded rest

/-- The bridge without notes of texts from sockets that were not current. -/
def unnoted (b : Bridge) : Bridge :=
  { b with trace := b.trace.filter (!·.isStaleNote) }

/-! ## Nobody reads the notes -/

/-- Two bridges are the same but for such notes. -/
def SameButNotes (b b' : Bridge) : Prop :=
  b'.unnoted = b.unnoted

namespace SameButNotes

/-- What is done in both bridges keeps them the same, if it does not read the trace. -/
theorem map {F : Bridge → Bridge} (blind : ∀ b, (F b).unnoted = F b.unnoted)
    (same : SameButNotes b b') : SameButNotes (F b) (F b') := by
  unfold SameButNotes
  rw [blind, blind, same]

/-- What does not depend on the trace is the same. -/
theorem read {α : Type} (part : Bridge → α) (blind : ∀ b, part b.unnoted = part b)
    (same : SameButNotes b b') : part b' = part b := by
  rw [← blind b', same, blind]

theorem emit (e : Event) (same : SameButNotes b b') : SameButNotes (b.emit e) (b'.emit e) := by
  have written (b : Bridge) :
      (b.emit e).unnoted = b.unnoted.write ([e].filter (!·.isStaleNote)) := by
    unfold unnoted Bridge.emit write
    rw [List.filter_append]
  unfold SameButNotes
  rw [written, written, same]

theorem updateTransport (u : TransportId) (f : Transport → Transport) (same : SameButNotes b b') :
    SameButNotes (b.updateTransport u f) (b'.updateTransport u f) :=
  same.map (F := (·.updateTransport u f)) fun _ => rfl

/-- Work for a transport comes to the same. -/
theorem lockstep (u : TransportId) : Lockstep u SameButNotes where
  toHandles := .of_endpoint (fun _ same => same.emit _) (fun _ _ same => same.emit _)
    (fun same => same.read (fun b => (b.transport u).inner) fun _ => rfl)
    (fun same => same.read (fun b => (b.transport u).endpoint) fun _ => rfl)
    (fun same => same.read (·.conferences) fun _ => rfl) fun _ same => same.updateTransport u _
  sockets same := same.read (·.sockets) fun _ => rfl
  dataChannels same := same.read (·.dataChannels) fun _ => rfl
  channels same := same.read (fun b => (b.transport u).channels.detached) fun _ => rfl
  liveDataChannel same := same.read (·.liveDataChannel u) fun _ => rfl
  script same := same.read (·.script u) fun _ => rfl
  setSocket s state same := same.map (F := (Bridge.setSocket · s state)) fun _ => rfl
  updateStatistics f same := same.map (F := (Bridge.updateStatistics · u f)) fun _ => rfl
  move _ _ same := same.updateTransport u _
  advance same := same.updateTransport u _

/-- Whatever happens to a transport comes to the same. -/
theorem operates (u : TransportId) : Operates u (fun _ => True) SameButNotes where
  toLockstep := lockstep u
  tell _ same := same.emit _
  addSocket state same :=
    same.map (F := fun b => { b with sockets := b.sockets ++ [state] }) fun _ => rfl
  setDataChannel d _ _ same := same.map (F := (Bridge.setDataChannel · d _)) fun _ => rfl
  putDataChannel d _ same :=
    same.map (F := fun b => b.setChannels u ((b.transport u).channels.putDataChannel d)) fun _ => rfl
  change _ _ same := same.updateTransport u _

/-- Nobody can tell which of the two bridges it is. -/
theorem bisimulation : Bisimulation (fun _ => True) SameButNotes where
  operates := operates
  isHeld s same := same.read (·.isHeld s) fun _ => rfl
  addDataChannel ready same := same.map (F := fun b => (b.addDataChannel ready).2) fun _ => rfl
  expire c same := same.map (F := (Bridge.expire · c)) fun _ => rfl

end SameButNotes

/-! ## One event of such a socket -/

theorem clearSocket_of_ne (other : b.currentSocket t ≠ some s) (status : UInt16)
    (reason : String) : b.clearSocket t s status reason = b := by
  unfold clearSocket
  rw [takeSocket_of_ne other]

theorem ignores_transport {operation : TransportOperation} :
    b.ignores (.transport t operation) = true ↔
      ∃ s, operation.socket? = some s ∧ b.currentSocket t ≠ some s := by
  have reports : b.ignores (.transport t operation) =
      operation.socket?.any fun s => b.currentSocket t ≠ some s := rfl
  rw [reports]
  cases operation.socket? with
  | none => simp
  | some s => simp

theorem unnoted_write {events : List Event} (notes : ∀ e ∈ events, e.isStaleNote = true)
    (b : Bridge) : (b.write events).unnoted = b.unnoted := by
  have none : events.filter (!·.isStaleNote) = [] := by
    rw [List.filter_eq_nil_iff]
    intro e mem
    simp [notes e mem]
  unfold unnoted write
  rw [List.filter_append, none, List.append_nil]

/-- A step that is reported for a socket that is not the current one leaves notes at most. -/
theorem unnoted_step_of_ignores {operation : Operation} (ignored : b.ignores operation = true) :
    (b.step operation).2.unnoted = b.unnoted := by
  cases operation with
  | transport t operation =>
    obtain ⟨s, reported, other⟩ := ignores_transport.1 ignored
    cases operation with
    | receive source text =>
      cases source with
      | socket id =>
        cases reported
        have received := receiveWith_of_ne other (followScript t (b.scriptLength t)) text
        change (b.receiveWith _ t _ text).unnoted = _
        rw [received]
        exact unnoted_write (by simp [Event.isStaleNote]) b
      | dataChannel => cases reported
    | clearSocket id status reason =>
      cases reported
      exact congrArg unnoted (clearSocket_of_ne other status reason)
    | slots operation =>
      cases operation with
      | takeSocket id =>
        cases reported
        unfold step stepTransport stepSlots
        dsimp only
        rw [takeSocket_of_ne other]
      | markSocket id =>
        cases reported
        unfold step stepTransport stepSlots
        dsimp only
        rw [markSocket_of_ne other]
      | _ => cases reported
    | _ => cases reported
  | _ => cases ignored

/-! ## Whole runs -/

/-- A run without what is ignored comes to the same end and gives the same answers, in a bridge that
    is the same but for notes. The induction is on the operations. -/
theorem run_heeded (same : SameButNotes b b') (operations : List Operation) :
    SameButNotes (b.run (b'.heeded operations)) (b'.run operations) ∧
      (b.transcript (b'.heeded operations)).Sublist (b'.transcript operations) := by
  induction operations generalizing b b' with
  | nil => exact ⟨same, .slnil⟩
  | cons operation rest ih =>
    unfold heeded
    split
    · rename_i ignored
      have after : SameButNotes b (b'.step operation).2 :=
        (unnoted_step_of_ignores ignored).trans same
      obtain ⟨final, answers⟩ := ih after
      exact ⟨final, answers.cons _⟩
    · obtain ⟨answer, after⟩ := SameButNotes.bisimulation.step trivial same
      obtain ⟨final, answers⟩ := ih after
      refine ⟨final, ?_⟩
      unfold transcript
      rw [answer]
      exact answers.cons_cons _

/-- As long as the transport is not dropped, its current socket is the one that was put in last,
    unless it was cleared or given up since. -/
theorem currentSocket_of_history {operations : List Operation} {past : List Occurrence}
    {now : Bridge} (moment : b.Moment operations past now) (live : now.isLive t = true) :
    now.currentSocket t = latest (·.socketSlot? t) (b.currentSocket t) past :=
  congrArg ChannelPair.socket (channels_of_history moment live)

/-- What comes from a socket that is not the current one is inert. At every moment of a run, calls
    of an endpoint included, its end changes nothing, it is not heard from, and a text from it is
    counted as stale and told of and does nothing else, whatever the text is and whatever the
    endpoint would do. Which socket is the current one follows from what was put in, cleared and
    given up. And a run from which all such reports are left out gives the same answers and comes to
    the same end, but for the counts of stale texts and what is told of them. -/
theorem stale_inert (b : Bridge) (operations : List Operation) :
    (∀ past now, b.Moment operations past now → ∀ t s, now.currentSocket t ≠ some s →
      (∀ status reason, now.clearSocket t s status reason = now) ∧
      now.takeSocket t s = (false, now) ∧
      now.markSocket t s = none ∧
      ∀ onPush text, now.receiveWith onPush t (.socket s) text =
        { now with trace := now.trace ++ [.counted (.dropped .inbound .staleSocket),
            .logged (.unknownSocket (now.transport t).endpointId s)] }) ∧
    (∀ past now, b.Moment operations past now → ∀ t, now.isLive t = true →
      now.currentSocket t = latest (·.socketSlot? t) (b.currentSocket t) past) ∧
    (b.run (b.heeded operations)).unnoted = (b.run operations).unnoted ∧
    (b.transcript (b.heeded operations)).Sublist (b.transcript operations) := by
  have same : SameButNotes b b := rfl
  obtain ⟨final, answers⟩ := run_heeded same operations
  refine ⟨?_, ?_, final.symm, answers⟩
  · intro past now _ t s other
    exact ⟨clearSocket_of_ne other, takeSocket_of_ne other, markSocket_of_ne other,
      receiveWith_of_ne other⟩
  · intro past now moment t live
    exact currentSocket_of_history moment live

/-- Socket 1 displaces socket 0, of which a hello, its end and a sign of life come after that; then
    it is closed, and a hello comes from it. -/
def lateReports : List Operation :=
  [.transport 0 (.installSocket 0), .transport 0 (.installSocket 1),
    .transport 0 (.receive (.socket 0) "\x7b\"colibriClass\":\"ClientHello\"\x7d"),
    .transport 0 (.clearSocket 0 1000 "bye"), .transport 0 (.slots (.markSocket 0)),
    .transport 0 .close,
    .transport 0 (.receive (.socket 1) "\x7b\"colibriClass\":\"ClientHello\"\x7d")]

theorem stale_inert_lateReports :
    let now := fourSockets.run (lateReports.take 2)
    now.currentSocket 0 = some 1 ∧ now.clearSocket 0 0 1000 "bye" = now ∧
      (fourSockets.run lateReports).unnoted =
        (fourSockets.run [.transport 0 (.installSocket 0), .transport 0 (.installSocket 1),
          .transport 0 .close]).unnoted := by
  intro now
  obtain ⟨inert, history, same, -⟩ := stale_inert fourSockets lateReports
  have moment : fourSockets.Moment lateReports (fourSockets.occurrences (lateReports.take 2)) now :=
    .between _ _ (List.take_append_drop 2 lateReports).symm
  have current : now.currentSocket 0 = some 1 := history _ now moment 0 rfl
  have other : now.currentSocket 0 ≠ some 0 := by
    rw [current]
    decide
  have kept : fourSockets.heeded lateReports =
      [.transport 0 (.installSocket 0), .transport 0 (.installSocket 1), .transport 0 .close] := rfl
  rw [kept] at same
  exact ⟨current, (inert _ now moment 0 0 other).1 1000 "bye", same.symm⟩

end Bridge

end ControlChannel
