import ControlChannel.Proofs.Bridge.Connections
import ControlChannel.Proofs.Bridge.Detached
import ControlChannel.Proofs.Bridge.Receipt
import ControlChannel.Proofs.Bridge.SocketWire

/-!
# Attaching a data channel

A transport has one data channel at a time. Another one, and also the same one again, is refused as
long as one that was attached is alive, and then nothing comes of it: a run goes on as it would
without the attempt. Otherwise the data channel is attached as a whole: it takes the slot, what it
reports leads to the transport, and the transport tells of it if it is ready.
-/

namespace ControlChannel

/-- The answer is the refusal of a data channel that was to be attached. -/
def Answer.refusesAttachment : Answer → Bool
  | .misused .sameDataChannel | .misused .otherDataChannel => true
  | _ => false

namespace Occurrence

variable {o : Occurrence} {t : TransportId} {d : DataChannelId}

/-- A data channel is attached to the transport. -/
def Attaches (o : Occurrence) (t : TransportId) (d : DataChannelId) : Prop :=
  o.dataChannelSlot? t = some (some d)

/-- What comes to be in the slot is a data channel, and none that was there before is alive. -/
theorem exists_of_dataChannelSlot? {slot : Option DataChannelId}
    (comes : o.dataChannelSlot? t = some slot) :
    ∃ d, slot = some d ∧ o.bridge.liveDataChannel t = none := by
  have put {d : DataChannelId} (taken : (o.bridge.putDataChannel t d).toOption.map
      (fun _ => some d) = some slot) : ∃ d, slot = some d ∧ o.bridge.liveDataChannel t = none := by
    unfold Bridge.putDataChannel at taken
    cases alive : o.bridge.liveDataChannel t with
    | none =>
      rw [alive] at taken
      cases taken
      exact ⟨d, rfl, rfl⟩
    | some old =>
      rw [alive] at taken
      cases taken
  unfold dataChannelSlot? at comes
  split at comes
  · split at comes
    · exact put comes
    · exact put comes
    · cases comes
  · cases comes

end Occurrence

namespace Bridge

variable {b b' now : Bridge} {t : TransportId} {d : DataChannelId} {operations : List Operation}
  {past : List Occurrence}

/-! ## What was attached before -/

/-- A data channel that is there stays there. -/
theorem tracked_present (d : DataChannelId) : Tracked fun b _ b' =>
    d < b.dataChannels.length → d < b'.dataChannels.length := by
  refine Stays.tracked (P := fun b => d < b.dataChannels.length) (fun t => ?_)
    (fun ready present => ?_) (fun _ => id) fun _ => Iff.rfl
  · exact {
      toKept := ⟨fun _ => id, fun _ _ => id, fun _ _ => id, fun _ => id, fun _ _ => id⟩
      tell := fun _ => id
      addSocket := fun _ => id
      setDataChannel := fun e state _ present => Nat.lt_of_lt_of_eq present List.length_set.symm
      setChannels := fun _ => id
      change := fun _ _ => id }
  · exact Nat.lt_of_lt_of_le present (List.length_append ▸ Nat.le_add_right _ _)

/-- A data channel that was attached and is alive is the one in the slot: another one can only have
    been attached after it was gone, and what is gone stays so. The induction is on the past, up to
    the last time that a data channel was attached. -/
theorem slot_of_attached {o : Occurrence} (moment : b.Moment operations past now)
    (live : now.isLive t = true)
    (existing : ∀ o ∈ past, ∀ e, o.Attaches t e → e < o.bridge.dataChannels.length)
    (mem : o ∈ past) (attached : o.Attaches t d) (alive : (now.dataChannel d).live = true) :
    (now.transport t).channels.dataChannel = some d := by
  induction size : past.length using Nat.strongRecOn generalizing past now with
  | ind n ih =>
    have told : (now.transport t).channels.dataChannel = latest (·.dataChannelSlot? t) _ past :=
      congrArg ChannelPair.dataChannel (channels_of_history moment live)
    rw [told]
    rcases latest_cases (·.dataChannelSlot? t) (b.transport t).channels.dataChannel past with
      ⟨silent, -⟩ | ⟨before, last, after, slot, rfl, comes, silent, said⟩
    · rw [Occurrence.Attaches, silent o mem] at attached
      cases attached
    · rw [said]
      rcases List.mem_append.1 mem with early | late
      · obtain ⟨e, rfl, free⟩ := Occurrence.exists_of_dataChannelSlot? comes
        have former := moment.earlier
        have existed (p : Occurrence) (listed : p ∈ before) :=
          existing p (List.mem_append_left _ listed)
        have aliveThen : (last.bridge.dataChannel d).live = true := by
          by_contra dead
          have there : d < last.bridge.dataChannels.length := by
            obtain ⟨first, rest, rfl⟩ := List.append_of_mem early
            exact (tracked_present d).since former (existed o early d attached)
          have gone := IsGone.of_dead there (Bool.eq_false_iff.2 dead)
          rw [((tracked_isGone d).since moment gone).live] at alive
          cases alive
        have held := ih before.length (by rw [← size]; simp) former (isLive_of_earlier moment live)
          existed early aliveThen rfl
        have found : last.bridge.liveDataChannel t = some d :=
          Option.filter_eq_some_iff.2 ⟨held, aliveThen⟩
        rw [free] at found
        cases found
      · rcases List.mem_cons.1 late with rfl | later
        · exact Option.some.inj (comes.symm.trans attached)
        · rw [Occurrence.Attaches, silent o later] at attached
          cases attached

/-- The data channel in the slot that is alive is the one of those attached that is. -/
theorem liveDataChannel_of_history {old : DataChannelId} (moment : b.Moment operations past now)
    (live : now.isLive t = true) (empty : (b.transport t).channels.dataChannel = none)
    (existing : ∀ o ∈ past, ∀ e, o.Attaches t e → e < o.bridge.dataChannels.length) :
    now.liveDataChannel t = some old ↔
      (∃ o ∈ past, o.Attaches t old) ∧ (now.dataChannel old).live = true := by
  constructor
  · intro found
    obtain ⟨held, alive⟩ := Option.filter_eq_some_iff.1 found
    refine ⟨?_, alive⟩
    have told : latest (·.dataChannelSlot? t) _ past = (now.transport t).channels.dataChannel :=
      (congrArg ChannelPair.dataChannel (channels_of_history moment live)).symm
    rw [held] at told
    rcases latest_cases (·.dataChannelSlot? t) (b.transport t).channels.dataChannel past with
      ⟨-, start⟩ | ⟨before, last, after, slot, rfl, comes, -, said⟩
    · rw [start, empty] at told
      cases told
    · obtain ⟨e, rfl, -⟩ := Occurrence.exists_of_dataChannelSlot? comes
      rw [said] at told
      cases told
      exact ⟨last, List.mem_append_right _ List.mem_cons_self, comes⟩
  · rintro ⟨⟨o, mem, attached⟩, alive⟩
    exact Option.filter_eq_some_iff.2
      ⟨slot_of_attached moment live existing mem attached alive, alive⟩

/-! ## One attachment -/

/-- A data channel is refused if one that is alive is in the slot, and the misuse says which one. -/
theorem putDataChannel_eq_error {misuse : Misuse} : b.putDataChannel t d = .error misuse ↔
    ∃ old, b.liveDataChannel t = some old ∧
      misuse = if old = d then .sameDataChannel else .otherDataChannel := by
  unfold putDataChannel
  cases b.liveDataChannel t with
  | none => simp
  | some old => simp [eq_comm]

/-- A data channel is refused before anything is done with it. -/
theorem installDataChannel_eq_error {misuse : Misuse} :
    b.installDataChannel t d = .error misuse ↔ b.putDataChannel t d = .error misuse := by
  unfold installDataChannel
  cases b.putDataChannel t d with
  | error other => exact Iff.rfl
  | ok c =>
    constructor
    · rintro ⟨⟩
    · rintro ⟨⟩

theorem putDataChannel_of_free (free : b.liveDataChannel t = none) (d : DataChannelId) :
    b.putDataChannel t d = .ok (b.setChannels t ((b.transport t).channels.putDataChannel d)) := by
  unfold putDataChannel
  rw [free]

/-- A data channel takes the slot of a transport, and reports to it. -/
def hook (b : Bridge) (t : TransportId) (d : DataChannelId) : Bridge :=
  (b.setChannels t ((b.transport t).channels.putDataChannel d)).setDataChannel d
    { b.dataChannel d with listener := some t }

/-- What a transport tells of a data channel that is attached to it. -/
def tidings (b : Bridge) (t : TransportId) (d : DataChannelId) : List Event :=
  if (b.dataChannel d).ready then
    [.logged (.channelConnected (b.transport t).endpointId),
      .connected t (b.transport t).endpointId]
  else []

theorem installDataChannel_of_free (free : b.liveDataChannel t = none) (d : DataChannelId) :
    b.installDataChannel t d = .ok ((b.hook t d).write (b.tidings t d)) := by
  have id : ((b.hook t d).transport t).endpointId = (b.transport t).endpointId :=
    transport_updateTransport_keeps (f := fun tr => { tr with
      channels := (b.transport t).channels.putDataChannel d }) (·.endpointId) (fun _ => rfl) b t t
  have told : (if (b.dataChannel d).ready then (b.hook t d).notifyConnected t else b.hook t d) =
      (b.hook t d).write (b.tidings t d) := by
    unfold tidings
    split
    · rw [notifyConnected, id]
      exact write_write (b.hook t d) [_] [_]
    · exact congrArg (fun trace => { b.hook t d with trace := trace }) (List.append_nil _).symm
  rw [← told]
  unfold installDataChannel
  rw [putDataChannel_of_free free]
  rfl

/-- A data channel is attached only where none that is alive is in the slot. -/
theorem liveDataChannel_of_installed (attached : b.installDataChannel t d = .ok b') :
    b.liveDataChannel t = none := by
  cases found : b.liveDataChannel t with
  | none => rfl
  | some old =>
    have refused := installDataChannel_eq_error.2
      (putDataChannel_eq_error (d := d).2 ⟨old, found, rfl⟩)
    rw [attached] at refused
    cases refused

/-- From one state of a bridge to another, a data channel was attached to a transport: it is in the
    slot and reports to the transport, which tells of it if it is ready. Nothing else changed. -/
structure AttachedTo (t : TransportId) (d : DataChannelId) (b b' : Bridge) : Prop where
  slot : b'.transport t = { b.transport t with
    channels := { (b.transport t).channels with dataChannel := some d } }
  otherTransports (u : TransportId) : u ≠ t → b'.transport u = b.transport u
  reports : b'.dataChannel d = { b.dataChannel d with listener := some t }
  otherChannels (e : DataChannelId) : e ≠ d → b'.dataChannel e = b.dataChannel e
  trace : b'.trace = b.trace ++ b.tidings t d
  sockets : b'.sockets = b.sockets
  statistics : b'.statistics = b.statistics
  conferences : b'.conferences = b.conferences
  /-- Nothing is made. -/
  lengths : b'.transports.length = b.transports.length ∧
    b'.dataChannels.length = b.dataChannels.length

/-- A data channel that is not refused is attached as a whole. -/
theorem attachedTo_of_ok (there : t < b.transports.length) (present : d < b.dataChannels.length)
    (attached : b.installDataChannel t d = .ok b') : AttachedTo t d b b' := by
  have put := installDataChannel_of_free (liveDataChannel_of_installed attached) d
  rw [put] at attached
  cases attached
  let c := b.setChannels t ((b.transport t).channels.putDataChannel d)
  exact {
    slot := (transport_updateTransport_eq there t _).trans (if_pos rfl)
    otherTransports := fun u other => transport_updateTransport_ne (Ne.symm other) b _
    reports := (dataChannel_setDataChannel c d d _).trans (if_pos ⟨rfl, present⟩)
    otherChannels := fun e other =>
      (dataChannel_setDataChannel c d e _).trans (if_neg fun here => other here.1.symm)
    trace := rfl
    sockets := rfl
    statistics := rfl
    conferences := rfl
    lengths := ⟨List.length_modify .., List.length_set⟩ }

/-- What a data channel reports reaches this transport: the messages that it delivers, and that it
    becomes ready. -/
structure LeadsTo (d : DataChannelId) (t : TransportId) (b : Bridge) : Prop where
  text (text : String) : b.step (.deliverText d text) = (.done, b.receive t .dataChannel text)
  binary (length : Nat) : b.step (.deliverBinary d length) = (.done, b.receiveBinary t length)
  wakes : (b.dataChannel d).ready = false → b.step (.setReady d true) =
    (.done, (b.setDataChannel d { b.dataChannel d with ready := true }).notifyConnected t)

/-- What a data channel reports leads to the transport that it has for a listener. -/
theorem leadsTo_of_listener (listens : (b.dataChannel d).listener = some t)
    (live : b.isLive t = true) : LeadsTo d t b where
  text text := by simp [step, deliver, listens, live, attempt]
  binary length := by simp [step, deliver, listens, live, attempt]
  wakes unready := by
    have reports : b.listener d = some t := Option.filter_eq_some_iff.2 ⟨listens, live⟩
    have wakes : Step.wakes? (b, .setReady d true) = some d := by
      simp [Step.wakes?, unready]
    have set := setReady_eq b d true
    rw [wakes, Option.bind_some, reports] at set
    exact congrArg (Prod.mk Answer.done) set

/-- A data channel goes on to report to a transport until it is attached to another one. -/
theorem listener_of_later {later : List Operation} (listens : (b.dataChannel d).listener = some t)
    (stays : ∀ step ∈ b.steps later, step.attachesPresent = true ∧
      ∀ u, step.home? d = some u → u = t) :
    ((b.run later).dataChannel d).listener = some t := by
  induction later generalizing b with
  | nil => exact listens
  | cons operation rest ih =>
    obtain ⟨⟨present, home⟩, remain⟩ := List.forall_mem_cons.1 stays
    refine ih ?_ remain
    rw [listener_step present]
    cases moved : Step.home? d (b, operation) with
    | none => exact listens
    | some u => exact congrArg some (home u moved)

/-! ## Runs without refused attachments -/

/-- A data channel is to be attached where one that was attached is alive. -/
def refusesAttachment (b : Bridge) : Operation → Bool
  | .transport t (.installDataChannel _) | .transport t (.slots (.putDataChannel _)) =>
      (b.liveDataChannel t).isSome
  | _ => false

/-- The operations of a run, without the attachments that are refused when they come. -/
def granted (b : Bridge) : List Operation → List Operation
  | [] => []
  | operation :: rest =>
      if b.refusesAttachment operation then (b.step operation).2.granted rest
      else operation :: (b.step operation).2.granted rest

/-- An attachment that is refused is answered with the misuse that it is, and changes nothing. -/
theorem step_of_refusesAttachment {operation : Operation}
    (refused : b.refusesAttachment operation = true) :
    (b.step operation).1.refusesAttachment = true ∧ (b.step operation).2 = b := by
  have misused {t : TransportId} {d : DataChannelId} (alive : (b.liveDataChannel t).isSome = true) :
      ∃ misuse, (Answer.misused misuse).refusesAttachment = true ∧
        b.putDataChannel t d = .error misuse := by
    obtain ⟨old, found⟩ := Option.isSome_iff_exists.1 alive
    refine ⟨_, ?_, putDataChannel_eq_error.2 ⟨old, found, rfl⟩⟩
    split <;> rfl
  cases operation with
  | transport t operation =>
    cases operation with
    | installDataChannel d =>
      obtain ⟨misuse, answers, put⟩ := misused (d := d) refused
      unfold step stepTransport
      dsimp only
      rw [installDataChannel_eq_error.2 put]
      exact ⟨answers, rfl⟩
    | slots operation =>
      cases operation with
      | putDataChannel d =>
        obtain ⟨misuse, answers, put⟩ := misused (d := d) refused
        unfold step stepTransport stepSlots
        dsimp only
        rw [put]
        exact ⟨answers, rfl⟩
      | _ => cases refused
    | _ => cases refused
  | _ => cases refused

/-- No other step is answered with such a misuse. -/
theorem answer_of_not_refusesAttachment {operation : Operation}
    (grants : b.refusesAttachment operation = false) :
    (b.step operation).1.refusesAttachment = false := by
  have free {t : TransportId} (none : (b.liveDataChannel t).isSome = false) :
      b.liveDataChannel t = .none := by
    rwa [Option.isSome_eq_false_iff, Option.isNone_iff_eq_none] at none
  have opened (buffer : Nat) : (b.openSocket buffer).1.refusesAttachment = false := by
    unfold openSocket addSocket Socket.create
    by_cases long : longestQueue < max buffer 1
    · rw [if_pos long]
      rfl
    · rw [if_neg long]
      rfl
  have delivered (d : DataChannelId) (receive : TransportId → Bridge) :
      (b.attempt (b.deliver d receive)).1.refusesAttachment = false := by
    unfold deliver
    cases (b.dataChannel d).listener <;> rfl
  cases operation with
  | newSocket buffer => exact opened buffer
  | sendText s text =>
    unfold step
    dsimp only
    cases b.sendOn (.socket s) text <;> rfl
  | deliverText d text => exact delivered d _
  | deliverBinary d length => exact delivered d _
  | transport t operation =>
    cases operation with
    | newSocket => exact opened _
    | installDataChannel d =>
      unfold step stepTransport
      dsimp only
      rw [installDataChannel_of_free (free grants)]
      rfl
    | slots operation =>
      cases operation with
      | putDataChannel d =>
        unfold step stepTransport stepSlots
        dsimp only
        rw [putDataChannel_of_free (free grants)]
        rfl
      | markSocket s =>
        unfold step stepTransport stepSlots
        dsimp only
        cases b.markSocket t s <;> rfl
      | _ => rfl
    | _ => rfl
  | _ => rfl

/-- A run without the attachments that are refused comes to the same end, and gives the same answers
    but for the refusals. The induction is on the operations. -/
theorem run_granted (b : Bridge) (operations : List Operation) :
    b.run (b.granted operations) = b.run operations ∧
      b.transcript (b.granted operations) =
        (b.transcript operations).filter (!·.2.refusesAttachment) := by
  induction operations generalizing b with
  | nil => exact ⟨rfl, rfl⟩
  | cons operation rest ih =>
    obtain ⟨final, answers⟩ := ih (b.step operation).2
    unfold granted
    cases refused : b.refusesAttachment operation with
    | true =>
      obtain ⟨answer, same⟩ := step_of_refusesAttachment refused
      have dropped : (b.transcript (operation :: rest)).filter (!·.2.refusesAttachment) =
          ((b.step operation).2.transcript rest).filter (!·.2.refusesAttachment) :=
        List.filter_cons_of_neg (by simp [answer])
      have whole : b.run (operation :: rest) = (b.step operation).2.run rest := rfl
      rw [if_pos rfl, dropped, whole, ← answers, ← final, same]
      exact ⟨rfl, rfl⟩
    | false =>
      have answer := answer_of_not_refusesAttachment refused
      have kept : (b.transcript (operation :: rest)).filter (!·.2.refusesAttachment) =
          (operation, (b.step operation).1) ::
            ((b.step operation).2.transcript rest).filter (!·.2.refusesAttachment) :=
        List.filter_cons_of_pos (by simp [answer])
      rw [if_neg Bool.false_ne_true, kept, ← answers]
      exact ⟨final, rfl⟩

/-- A data channel is attached as a whole or not at all. Take any moment of a run, calls of an
    endpoint included, any transport that is there and whose slot was empty at the start, and any
    data channel that is there. It is refused if and only if one that was attached to the transport
    earlier is alive, and the refusal says whether it is that one. A refusal leaves the whole bridge
    as it is, with the bare slots as with the transport. Where it is not refused, the data channel
    takes the slot, and the transport tells of it once if it is ready and not at all if it is not,
    and nothing else changes; and from then on, as long as the transport is there and the data
    channel is not attached to another one, what it reports leads to this transport. A run from
    which all refused attempts are left out comes to the same end and gives the same answers, but
    for the refusals. -/
theorem attachment_all_or_nothing (moment : b.Moment operations past now)
    (live : now.isLive t = true) (empty : (b.transport t).channels.dataChannel = none)
    (existing : ∀ o ∈ past, ∀ e, o.Attaches t e → e < o.bridge.dataChannels.length)
    (present : d < now.dataChannels.length) :
    (∀ text, (now.installDataChannel t d).mapError Misuse.message = .error text ↔
      ∃ old, (∃ o ∈ past, o.Attaches t old) ∧ (now.dataChannel old).live = true ∧
        text = if old = d then "Re-setting the same data channel"
          else "Overwriting a previous data channel") ∧
    (∀ misuse, now.installDataChannel t d = .error misuse →
      now.step (.transport t (.installDataChannel d)) = (.misused misuse, now) ∧
      now.step (.transport t (.slots (.putDataChannel d))) = (.misused misuse, now)) ∧
    (∀ after, now.installDataChannel t d = .ok after →
      now.step (.transport t (.installDataChannel d)) = (.done, after) ∧
      now.step (.transport t (.slots (.putDataChannel d))) =
        (.done, now.setChannels t ((now.transport t).channels.putDataChannel d)) ∧
      AttachedTo t d now after ∧
      ∀ later, (after.run later).isLive t = true →
        (∀ step ∈ after.steps later, step.attachesPresent = true ∧
          ∀ u, step.home? d = some u → u = t) →
        LeadsTo d t (after.run later)) ∧
    b.run (b.granted operations) = b.run operations ∧
    b.transcript (b.granted operations) =
      (b.transcript operations).filter (!·.2.refusesAttachment) := by
  have there := transport_lt_of_live live
  refine ⟨fun text => ?_, fun misuse refused => ?_, fun after attached => ?_,
    run_granted b operations⟩
  · rw [mapError_eq_error]
    simp only [installDataChannel_eq_error, putDataChannel_eq_error,
      liveDataChannel_of_history moment live empty existing]
    constructor
    · rintro ⟨misuse, ⟨old, ⟨attached, alive⟩, rfl⟩, rfl⟩
      exact ⟨old, attached, alive, apply_ite Misuse.message ..⟩
    · rintro ⟨old, attached, alive, rfl⟩
      exact ⟨_, ⟨old, ⟨attached, alive⟩, rfl⟩, apply_ite Misuse.message ..⟩
  · have put := installDataChannel_eq_error.1 refused
    constructor
    · unfold step stepTransport
      dsimp only
      rw [refused]
      rfl
    · unfold step stepTransport stepSlots
      dsimp only
      rw [put]
      rfl
  · have reached := attachedTo_of_ok there present attached
    refine ⟨?_, ?_, reached, fun later alive stays => ?_⟩
    · unfold step stepTransport
      dsimp only
      rw [attached]
      rfl
    · unfold step stepTransport stepSlots
      dsimp only
      rw [putDataChannel_of_free (liveDataChannel_of_installed attached)]
      rfl
    · refine leadsTo_of_listener (listener_of_later ?_ stays) alive
      rw [reached.reports]

/-- Two data channels are made and the first is attached. It is attached again, and so is the second
    one, which is refused until the first is gone. -/
def crowded : List Operation :=
  [.newDataChannel false, .newDataChannel true, .transport 0 (.installDataChannel 0),
    .transport 0 (.installDataChannel 0), .transport 0 (.installDataChannel 1),
    .dropDataChannel 0, .transport 0 (.installDataChannel 1)]

theorem attachment_all_or_nothing_crowded :
    let now := twoTransports.run (crowded.take 3)
    (now.installDataChannel 0 0).mapError Misuse.message =
        .error "Re-setting the same data channel" ∧
      (now.installDataChannel 0 1).mapError Misuse.message =
        .error "Overwriting a previous data channel" ∧
      twoTransports.run [.newDataChannel false, .newDataChannel true,
        .transport 0 (.installDataChannel 0), .dropDataChannel 0,
        .transport 0 (.installDataChannel 1)] = twoTransports.run crowded := by
  intro now
  let past := twoTransports.occurrences (crowded.take 3)
  have moment : twoTransports.Moment crowded past now :=
    .between _ _ (List.take_append_drop 3 crowded).symm
  have attached : ∀ o ∈ past, o.Attaches 0 0 := List.forall_mem_singleton.2 rfl
  have existing : ∀ o ∈ past, ∀ e, o.Attaches 0 e → e < o.bridge.dataChannels.length := by
    refine List.forall_mem_singleton.2 fun e attaches => ?_
    have same : some (some 0) = some (some e) := attaches
    cases same
    decide
  have before : ∃ o ∈ past, o.Attaches 0 0 :=
    ⟨_, List.mem_cons_self, attached _ List.mem_cons_self⟩
  have first := attachment_all_or_nothing (d := 0) moment rfl rfl existing (by decide)
  have second := attachment_all_or_nothing (d := 1) moment rfl rfl existing (by decide)
  exact ⟨(first.1 _).2 ⟨0, before, rfl, rfl⟩, (second.1 _).2 ⟨0, before, rfl, rfl⟩,
    first.2.2.2.1⟩

end Bridge

end ControlChannel
