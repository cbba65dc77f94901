import ControlChannel.Proofs.Bridge.Bisimulation

/-!
# Dead data channels

A data channel belongs to the media connection, and may be gone while a transport still has it in
its slot. From then on nobody can tell the slot from an empty one: from the two bridges on, the same
operations give the same answers and leave the same behind, and the channel is not sent on, not
reported ready and not answered on, and not in the way of another one.
-/

namespace ControlChannel

/-- The transport with the slot for its data channel empty. -/
def Transport.detached (tr : Transport) : Transport :=
  { tr with channels := tr.channels.detached }

namespace Bridge

open Transport

variable {b b' : Bridge} {t u : TransportId} {d : DataChannelId}

/-- The bridge with the slot for the data channel of a transport empty. -/
def detach (b : Bridge) (t : TransportId) : Bridge :=
  b.updateTransport t Transport.detached

/-- A data channel that was there is gone. -/
def IsGone (b : Bridge) (d : DataChannelId) : Prop :=
  ∃ state, b.dataChannels[d]? = some state ∧ state.live = false

/-- The data channel in the slot of a transport is gone. -/
structure HoldsGone (t : TransportId) (d : DataChannelId) (b : Bridge) : Prop where
  attached : (b.transport t).channels.dataChannel = some d
  gone : b.IsGone d

/-! ## Gone for good -/

namespace IsGone

theorem live (gone : b.IsGone d) : (b.dataChannel d).live = false := by
  obtain ⟨state, found, dead⟩ := gone
  rw [dataChannel, List.getD_eq_getElem?_getD, found]
  exact dead

theorem addDataChannel (gone : b.IsGone d) (ready : Bool) :
    (b.addDataChannel ready).2.IsGone d := by
  obtain ⟨state, found, dead⟩ := gone
  have present : d < b.dataChannels.length := (List.getElem?_eq_some_iff.1 found).1
  exact ⟨state, (List.getElem?_append_left present).trans found, dead⟩

/-- A data channel stays gone, whatever else of it or of others changes. -/
theorem setDataChannel (gone : b.IsGone d) {e : DataChannelId} {state : DataChannel}
    (stays : state.live = true → (b.dataChannel e).live = true) :
    (b.setDataChannel e state).IsGone d := by
  have dropped := gone.live
  obtain ⟨before, found, dead⟩ := gone
  have present : d < b.dataChannels.length := (List.getElem?_eq_some_iff.1 found).1
  by_cases same : e = d
  · subst same
    refine ⟨state, List.getElem?_set_self present, Bool.eq_false_iff.2 fun alive => ?_⟩
    rw [stays alive] at dropped
    cases dropped
  · exact ⟨before, (List.getElem?_set_ne same).trans found, dead⟩

/-- A data channel that is there is gone if it is not alive. -/
theorem of_dead (present : d < b.dataChannels.length) (dead : (b.dataChannel d).live = false) :
    b.IsGone d := by
  refine ⟨_, List.getElem?_eq_getElem present, ?_⟩
  unfold dataChannel at dead
  rwa [List.getD_eq_getElem?_getD, List.getElem?_eq_getElem present] at dead

/-- A data channel that is gone is in no slot as far as anybody can tell. -/
theorem liveDataChannel_ne (gone : b.IsGone d) (t : TransportId) :
    b.liveDataChannel t ≠ some d := by
  intro found
  have alive : (b.dataChannel d).live = true := (Option.filter_eq_some_iff.1 found).2
  rw [gone.live] at alive
  cases alive

end IsGone

/-! ## One slot apart -/

theorem HoldsGone.present (holds : HoldsGone t d b) : t < b.transports.length := by
  by_contra absent
  have attached := holds.attached
  unfold transport at attached
  rw [List.getD_eq_getElem?_getD, List.getElem?_eq_none (Nat.le_of_not_lt absent)] at attached
  cases attached

theorem HoldsGone.liveDataChannel (holds : HoldsGone t d b) : b.liveDataChannel t = none := by
  unfold Bridge.liveDataChannel
  rw [holds.attached, Option.filter_some, holds.gone.live]
  rfl

/-- Two bridges are the same, or the same but for a slot with a data channel that is gone, which is
    empty in the second one. -/
def SameBut (t : TransportId) (d : DataChannelId) (b b' : Bridge) : Prop :=
  b' = b ∨ HoldsGone t d b ∧ b' = b.detach t

namespace SameBut

/-- What is done in both bridges keeps them the same but for the slot, if it leaves the slot and the
    data channel alone. -/
theorem map {F : Bridge → Bridge} (apart : F (b.detach t) = (F b).detach t)
    (keeps : HoldsGone t d b → HoldsGone t d (F b)) (same : SameBut t d b b') :
    SameBut t d (F b) (F b') := by
  rcases same with rfl | ⟨holds, rfl⟩
  · exact .inl rfl
  · exact .inr ⟨keeps holds, apart⟩

/-- What does not touch the transports keeps the slot. -/
theorem of_transports {F : Bridge → Bridge} (apart : F (b.detach t) = (F b).detach t)
    (transports : (F b).transports = b.transports) (gone : b.IsGone d → (F b).IsGone d)
    (same : SameBut t d b b') : SameBut t d (F b) (F b') := by
  refine same.map apart fun holds => ⟨?_, gone holds.gone⟩
  unfold transport
  rw [transports]
  exact holds.attached

/-- A change of a transport in which the slot has no part. -/
theorem updateTransport {f : Transport → Transport} (u : TransportId)
    (apart : ∀ tr : Transport, f tr.detached = (f tr).detached)
    (keeps : ∀ tr, (f tr).channels.dataChannel = tr.channels.dataChannel)
    (same : SameBut t d b b') : SameBut t d (b.updateTransport u f) (b'.updateTransport u f) := by
  refine same.map (F := (·.updateTransport u f)) (updateTransport_comm b fun _ => apart) ?_
  intro holds
  refine ⟨?_, holds.gone⟩
  rw [transport_updateTransport_keeps (·.channels.dataChannel) keeps]
  exact holds.attached

/-- A change of a transport that overwrites the slot, if it is the one with the slot. -/
theorem overwrite {f : Transport → Transport} (u : TransportId)
    (covers : ∀ tr : Transport, f tr.detached = f tr)
    (same : SameBut t d b b') : SameBut t d (b.updateTransport u f) (b'.updateTransport u f) := by
  by_cases here : t = u
  · subst here
    rcases same with rfl | ⟨-, rfl⟩
    · exact .inl rfl
    · refine .inl ?_
      unfold detach Bridge.updateTransport
      dsimp only
      rw [List.modify_modify_eq]
      congr 2
      exact funext covers
  · refine same.map (F := (·.updateTransport u f))
      (updateTransport_comm b fun same => absurd same here) ?_
    intro holds
    refine ⟨?_, holds.gone⟩
    rw [transport_updateTransport_eq holds.present, if_neg (Ne.symm here)]
    exact holds.attached

/-- A part of a transport in which the slot has no part is the same. -/
theorem read {α : Type} (part : Transport → α)
    (only : ∀ tr : Transport, part tr.detached = part tr) (same : SameBut t d b b')
    (u : TransportId) : part (b'.transport u) = part (b.transport u) := by
  rcases same with rfl | ⟨-, rfl⟩
  · rfl
  · exact transport_updateTransport_keeps part only b t u

theorem sockets (same : SameBut t d b b') : b'.sockets = b.sockets := by
  rcases same with rfl | ⟨-, rfl⟩ <;> rfl

theorem dataChannels (same : SameBut t d b b') : b'.dataChannels = b.dataChannels := by
  rcases same with rfl | ⟨-, rfl⟩ <;> rfl

theorem conferences (same : SameBut t d b b') : b'.conferences = b.conferences := by
  rcases same with rfl | ⟨-, rfl⟩ <;> rfl

theorem statistics (same : SameBut t d b b') : b'.statistics = b.statistics := by
  rcases same with rfl | ⟨-, rfl⟩ <;> rfl

theorem trace (same : SameBut t d b b') : b'.trace = b.trace := by
  rcases same with rfl | ⟨-, rfl⟩ <;> rfl

theorem emit (e : Event) (same : SameBut t d b b') : SameBut t d (b.emit e) (b'.emit e) :=
  same.of_transports (F := (·.emit e)) rfl rfl id

/-- A data channel that is gone is in the slot of nobody, whether the slot is empty or not. -/
theorem liveDataChannel (same : SameBut t d b b') (u : TransportId) :
    b'.liveDataChannel u = b.liveDataChannel u := by
  rcases same with rfl | ⟨holds, rfl⟩
  · rfl
  · by_cases here : t = u
    · subst here
      rw [holds.liveDataChannel]
      unfold Bridge.liveDataChannel detach
      rw [transport_updateTransport_eq holds.present, if_pos rfl]
      rfl
    · unfold Bridge.liveDataChannel detach
      rw [transport_updateTransport_ne here]
      rfl

/-- Work for a transport comes to the same. -/
theorem lockstep (t : TransportId) (d : DataChannelId) (u : TransportId) :
    Lockstep u (SameBut t d) where
  toHandles := .of_endpoint (fun _ same => same.emit _) (fun _ _ same => same.emit _)
    (fun same => same.read inner (fun _ => rfl) u) (fun same => same.read (·.endpoint) (fun _ => rfl) u)
    conferences fun inner same => same.updateTransport u (inner.comm ChannelPair.detached id)
      fun tr => by rw [(inner.keeps tr).1]
  sockets := sockets
  dataChannels := dataChannels
  channels same := same.read (·.channels.detached) (fun _ => rfl) u
  liveDataChannel same := same.liveDataChannel u
  script same := congrArg (fun endpoint : Option Endpoint => (endpoint.map Endpoint.script).getD [])
    (same.read (·.endpoint) (fun _ => rfl) u)
  setSocket s state same := same.of_transports (F := (Bridge.setSocket · s state)) rfl rfl id
  updateStatistics f same := by
    refine same.of_transports (F := (Bridge.updateStatistics · u f)) ?_ rfl id
    unfold Bridge.updateStatistics detach
    rw [transport_updateTransport_keeps (f := Transport.detached) (·.statistics) fun _ => rfl]
    rfl
  move g apart same := by
    refine same.updateTransport u (fun tr => ?_) fun tr => ?_
    · have moved := apart tr.channels none
      unfold Transport.detached ChannelPair.detached
      dsimp only
      rw [moved]
    · have kept := congrArg ChannelPair.dataChannel (apart tr.channels tr.channels.dataChannel)
      exact kept
  advance same := same.updateTransport u (fun _ => rfl) fun _ => rfl

/-- Whatever happens to a transport comes to the same. -/
theorem operates (t : TransportId) (d : DataChannelId) (u : TransportId) :
    Operates u (fun _ => True) (SameBut t d) where
  toLockstep := lockstep t d u
  tell _ same := same.emit _
  addSocket state same :=
    same.of_transports (F := fun b => { b with sockets := b.sockets ++ [state] }) rfl rfl id
  setDataChannel e _ stays same :=
    same.of_transports (F := (Bridge.setDataChannel · e _)) rfl rfl (·.setDataChannel stays)
  putDataChannel e _ same := by
    rw [setChannels_eq _ u (·.putDataChannel e), setChannels_eq _ u (·.putDataChannel e)]
    exact same.overwrite u fun _ => rfl
  change := by
    intro b b' operation f changes _ same
    cases operation with
    | dropEndpoint =>
      cases changes
      exact same.updateTransport u (fun _ => rfl) fun _ => rfl
    | dropTransport =>
      cases changes
      exact same.overwrite u fun _ => rfl
    | joinConference c =>
      cases changes
      exact same.updateTransport u (fun _ => rfl) fun _ => rfl
    | rehearse script =>
      cases changes
      exact same.updateTransport u (fun _ => rfl) fun _ => rfl
    | _ => cases changes

/-- Nobody can tell which of the two bridges it is. -/
theorem bisimulation (t : TransportId) (d : DataChannelId) :
    Bisimulation (fun _ => True) (SameBut t d) where
  operates := operates t d
  isHeld s same := by
    rcases same with rfl | ⟨-, rfl⟩
    · rfl
    · exact isHeld_updateTransport (f := Transport.detached) (fun _ => rfl) _ t s
  addDataChannel ready same :=
    same.of_transports (F := fun b => (b.addDataChannel ready).2) rfl rfl (·.addDataChannel ready)
  expire c same := same.of_transports (F := (Bridge.expire · c)) rfl rfl id

end SameBut

/-! ## Gone at every moment -/

/-- A data channel that is gone stays so by whatever happens to a transport. -/
theorem IsGone.stays (d : DataChannelId) (t : TransportId) :
    Stays t (fun _ => True) fun b => b.IsGone d where
  toKept := ⟨fun _ => id, fun _ _ => id, fun _ _ => id, fun _ => id, fun _ _ => id⟩
  tell _ := id
  addSocket _ := id
  setDataChannel _ _ stays gone := gone.setDataChannel stays
  setChannels _ := id
  change _ _ := id

/-- It stays so from one moment of a run to the next, also inside of calls of an endpoint. -/
theorem tracked_isGone (d : DataChannelId) : Tracked fun b _ b' => b.IsGone d → b'.IsGone d :=
  Stays.tracked (IsGone.stays d) (fun ready gone => gone.addDataChannel ready) (fun _ => id)
    fun _ => Iff.rfl

/-! ## As if it had never been attached -/

theorem IsGone.activeChannel_ne (gone : b.IsGone d) (t : TransportId) :
    b.activeChannel t ≠ some (.dataChannel d) := by
  intro selected
  unfold activeChannel at selected
  dsimp only at selected
  split at selected
  · obtain ⟨s, -, same⟩ := Option.map_eq_some_iff.1 selected
    cases same
  · obtain ⟨e, live, same⟩ := Option.map_eq_some_iff.1 selected
    cases same
    exact gone.liveDataChannel_ne t live
  · cases selected

theorem IsGone.dataChannelReady (gone : b.IsGone d)
    (attached : (b.transport t).channels.dataChannel = some d) : b.dataChannelReady t = false := by
  unfold Bridge.dataChannelReady
  rw [HoldsGone.liveDataChannel ⟨attached, gone⟩]
  rfl

/-- Nothing is answered on a data channel that is gone. -/
theorem IsGone.hear_ne (gone : b.IsGone d) {source : Source} {heard : Bridge}
    {channel : Option Channel} (hears : b.hear t source = some (heard, channel)) :
    channel ≠ some (.dataChannel d) := by
  rintro rfl
  cases source with
  | socket s =>
    obtain ⟨_, -, same⟩ := Option.map_eq_some_iff.1 hears
    cases same
  | dataChannel =>
    have same := congrArg Prod.snd (Option.some.inj hears)
    obtain ⟨e, live, same⟩ := Option.map_eq_some_iff.1 same
    cases same
    have marked : (b.markDataChannel t).IsGone d := gone
    exact marked.liveDataChannel_ne t live

/-- A data channel that is gone is as good as one that was never attached. From a bridge in which it
    is in the slot of a transport, and from the one in which the slot is empty, the same operations
    give the same answers, and leave behind the same trace, the same channels, conferences and
    statistics, and the same transports, but perhaps for that slot. Another data channel can be put
    into the slot. And at no moment of the run, calls of an endpoint included, is the one that is
    gone selected, reported ready or answered on. -/
theorem detach_unnoticed (attached : (b.transport t).channels.dataChannel = some d)
    (gone : b.IsGone d) (later : List Operation) :
    let kept := b.run later
    let other := (b.detach t).run later
    (b.detach t).transcript later = b.transcript later ∧
      (other.trace = kept.trace ∧ other.sockets = kept.sockets ∧
        other.dataChannels = kept.dataChannels ∧ other.conferences = kept.conferences ∧
        other.statistics = kept.statistics) ∧
      (∀ u, (other.transport u).detached = (kept.transport u).detached ∧
        other.snapshot u = kept.snapshot u ∧ other.activeChannel u = kept.activeChannel u) ∧
      (∀ before after e, later = before ++ after →
        ((b.run before).transport t).channels.dataChannel = some d →
          ((b.run before).step (.transport t (.installDataChannel e))).1 = .done) ∧
      ∀ past now, b.Moment later past now → ∀ u,
        now.activeChannel u ≠ some (.dataChannel d) ∧
          ((now.transport u).channels.dataChannel = some d → now.dataChannelReady u = false) ∧
          ∀ source heard channel, now.hear u source = some (heard, channel) →
            channel ≠ some (.dataChannel d) := by
  intro kept other
  have apart : SameBut t d b (b.detach t) := .inr ⟨⟨attached, gone⟩, rfl⟩
  obtain ⟨answers, same⟩ := (SameBut.bisimulation t d).run (fun _ _ => trivial) apart
  refine ⟨answers, ⟨same.trace, same.sockets, same.dataChannels, same.conferences, same.statistics⟩,
    ?_, ?_, ?_⟩
  · intro u
    have work := SameBut.lockstep t d u
    exact ⟨same.read Transport.detached (fun _ => rfl) u, work.snapshot same, work.activeChannel same⟩
  · intro before after e split slot
    have gone : (b.run before).IsGone d := (tracked_isGone d).run before b gone
    have empty : (b.run before).liveDataChannel t = none := HoldsGone.liveDataChannel ⟨slot, gone⟩
    simp [Bridge.step, Bridge.stepTransport, Bridge.installDataChannel, Bridge.putDataChannel, empty,
      Bridge.attempt]
  · intro past now moment u
    have gone : now.IsGone d := (tracked_isGone d).at_moment moment gone
    exact ⟨gone.activeChannel_ne u, gone.dataChannelReady, fun _ _ _ => gone.hear_ne⟩

/-- A transport whose data channel went away with its media connection. -/
def abandoned : Bridge where
  dataChannels := [{ live := false, ready := true, listener := some 0 }]
  statistics := [{}]
  transports := [{ Transport.create "e" {} none 0 with channels := { dataChannel := some 0 } }]

/-- The media connection is made again, with a new data channel. -/
def reconnection : List Operation :=
  [.transport 0 (.send .hello), .newDataChannel false, .transport 0 (.installDataChannel 1),
    .setReady 1 true, .transport 0 (.send .hello)]

theorem detach_unnoticed_reconnection :
    let other := (abandoned.detach 0).run reconnection
    abandoned.IsGone 0 ∧ (abandoned.transport 0).channels.dataChannel = some 0 ∧
      other.metrics = [.dropped .outbound .noChannel, .sent .dataChannel .serverHello] ∧
      other.activeChannel 0 = some (.dataChannel 1) := by
  intro other
  have gone : abandoned.IsGone 0 := ⟨_, rfl, rfl⟩
  have attached : (abandoned.transport 0).channels.dataChannel = some 0 := rfl
  obtain ⟨-, ⟨trace, -⟩, transports, -⟩ := detach_unnoticed attached gone reconnection
  obtain ⟨-, -, active⟩ := transports 0
  have metrics : (abandoned.run reconnection).metrics =
      [.dropped .outbound .noChannel, .sent .dataChannel .serverHello] := by
    decide +kernel
  have selected : (abandoned.run reconnection).activeChannel 0 = some (.dataChannel 1) := by
    decide +kernel
  exact ⟨gone, attached, (congrArg (·.filterMap Event.metric?) trace).trans metrics,
    active.trans selected⟩

end Bridge

end ControlChannel
