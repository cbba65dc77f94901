import ControlChannel.Proofs.Bridge.Arbitration
import ControlChannel.Proofs.Bridge.Bisimulation
import Mathlib.Data.List.Induction

/-!
# Who is told of a channel

A transport tells that a channel is there once for each socket that comes, once for each data channel
that is ready when it is attached, and once for each time that a data channel becomes ready which was
attached to this transport last. Nothing is told twice or left out, in whatever order readiness comes
and goes and data channels move between transports; and nothing else is told.
-/

namespace ControlChannel

/-- The id by which the event tells of a channel of this transport. -/
def Event.connected? (t : TransportId) : Event → Option String
  | connected u id => if u = t then some id else none
  | _ => none

theorem Event.connected?_of_isOf {t u : TransportId} {e : Event} (own : e.isOf u = true) :
    e.connected? t = none := by
  cases e <;> first | rfl | cases own

/-- A socket is put into use for this transport. -/
def Operation.installsSocket (t : TransportId) : Operation → Bool
  | .transport u (.installSocket _) => u == t
  | _ => false

/-- The operation neither tells of a channel nor changes a data channel. -/
def Operation.isSilent : Operation → Bool
  | .transport _ (.installSocket _) | .transport _ (.installDataChannel _) | .newDataChannel _
  | .setReady _ _ | .failSends _ | .dropDataChannel _ => false
  | _ => true

namespace Bridge

variable {b b' : Bridge} {t u : TransportId} {d : DataChannelId}

/-- The ids by which a transport told of its channels. -/
def connections (b : Bridge) (t : TransportId) : List String :=
  b.trace.filterMap (·.connected? t)

/-! ## The history -/

/-- An operation, and the bridge in which it begins. -/
abbrev Step := Bridge × Operation

/-- The steps of a run. -/
def steps (b : Bridge) : List Operation → List Step
  | [] => []
  | operation :: rest => (b, operation) :: (b.step operation).2.steps rest

/-- The data channel that an operation attaches to a transport, if it is no misuse. -/
def attaches? (b : Bridge) : Operation → Option (DataChannelId × TransportId)
  | .transport t (.installDataChannel d) => (b.installDataChannel t d).toOption.map fun _ => (d, t)
  | _ => none

namespace Step

/-- The transport that a step attaches this data channel to. -/
def home? (d : DataChannelId) (now : Step) : Option TransportId :=
  (now.1.attaches? now.2).bind fun (e, t) => if e = d then some t else none

/-- A data channel that is ready is attached to this transport. -/
def attachesReady (t : TransportId) (now : Step) : Bool :=
  (now.1.attaches? now.2).any fun (d, u) => u == t && (now.1.dataChannel d).ready

/-- If a data channel is to be attached, there is one. -/
def attachesPresent (now : Step) : Bool :=
  match now.2 with
  | .transport _ (.installDataChannel d) => d < now.1.dataChannels.length
  | _ => true

/-- The data channel that becomes ready, having been not ready before. -/
def wakes? (now : Step) : Option DataChannelId :=
  match now.2 with
  | .setReady d true => if (now.1.dataChannel d).ready then none else some d
  | _ => none

end Step

/-- The transport that a data channel was attached to last. -/
def homeOf (d : DataChannelId) (past : List Step) : Option TransportId :=
  (past.filterMap (·.home? d)).getLast?

/-- How often a data channel becomes ready that was attached to this transport last, in steps that
    come after others. -/
def wakings (t : TransportId) : List Step → List Step → Nat
  | _, [] => 0
  | past, now :: rest =>
      (now.wakes?.any fun d => homeOf d past == some t).toNat + wakings t (past ++ [now]) rest

theorem steps_append (b : Bridge) (operations more : List Operation) :
    b.steps (operations ++ more) = b.steps operations ++ (b.run operations).steps more := by
  induction operations generalizing b with
  | nil => rfl
  | cons operation rest ih => exact congrArg ((b, operation) :: ·) (ih _)

theorem countP_single {α : Type} (p : α → Bool) (a : α) : [a].countP p = (p a).toNat := by
  rw [List.countP_singleton]
  cases p a <;> rfl

theorem wakings_append (t : TransportId) (past first second : List Step) :
    wakings t past (first ++ second) =
      wakings t past first + wakings t (past ++ first) second := by
  induction first generalizing past with
  | nil => simp [wakings]
  | cons now rest ih =>
    rw [List.cons_append, wakings, wakings, ih, List.append_assoc, List.singleton_append]
    omega

theorem homeOf_concat (d : DataChannelId) (past : List Step) (now : Step) :
    homeOf d (past ++ [now]) = (now.home? d).or (homeOf d past) := by
  rw [homeOf, List.filterMap_append, List.getLast?_append]
  cases home : now.home? d with
  | none => rw [List.filterMap_cons_none home]; rfl
  | some t => rw [List.filterMap_cons_some home]; rfl

/-! ## What is not told of -/

/-- Nothing was told of a channel of this transport, and the data channels are what they were. -/
structure Silent (t : TransportId) (b b' : Bridge) : Prop where
  dataChannels : b'.dataChannels = b.dataChannels
  connections : b'.connections t = b.connections t
  endpointId : (b'.transport t).endpointId = (b.transport t).endpointId

theorem connections_emit (b : Bridge) (e : Event) (t : TransportId) :
    (b.emit e).connections t = b.connections t ++ (e.connected? t).toList := by
  rw [connections, emit, List.filterMap_append, List.filterMap_cons, List.filterMap_nil]
  cases e.connected? t <;> rfl

namespace Silent

theorem refl (t : TransportId) (b : Bridge) : Silent t b b := ⟨rfl, rfl, rfl⟩

theorem emit {e : Event} (silent : Silent t b b') (none : e.connected? t = none) :
    Silent t b (b'.emit e) := by
  refine ⟨silent.dataChannels, ?_, silent.endpointId⟩
  rw [connections_emit, none, silent.connections]
  exact List.append_nil _

theorem setSocket (silent : Silent t b b') (s : SocketId) (state : Socket) :
    Silent t b (b'.setSocket s state) :=
  ⟨silent.dataChannels, silent.connections, silent.endpointId⟩

theorem updateTransport {f : Transport → Transport} (silent : Silent t b b')
    (keeps : ∀ tr, (f tr).endpointId = tr.endpointId) : Silent t b (b'.updateTransport u f) :=
  ⟨silent.dataChannels, silent.connections,
    (transport_updateTransport_keeps (·.endpointId) keeps b' u t).trans silent.endpointId⟩

/-- Work for a transport is silent. -/
theorem kept (t u : TransportId) (b : Bridge) : Kept u (Silent t b) where
  emit plain silent := silent.emit (Event.connected?_of_isOf (Event.isOf_of_isPlain plain u))
  hand _ own silent := silent.emit (Event.connected?_of_isOf own)
  setSocket s state silent := silent.setSocket s state
  updateStatistics _ silent := ⟨silent.dataChannels, silent.connections, silent.endpointId⟩
  update keeps _ silent := silent.updateTransport keeps

theorem openSocket (t : TransportId) (b : Bridge) (buffer : Nat) :
    Silent t b (b.openSocket buffer).2 := by
  unfold Bridge.openSocket addSocket
  cases Socket.create buffer with
  | error misuse => exact refl t b
  | ok state => exact ⟨rfl, rfl, rfl⟩

theorem putDataChannel {c : Bridge} (put : b.putDataChannel u d = .ok c) (t : TransportId) :
    Silent t b c := by
  unfold Bridge.putDataChannel at put
  split at put
  · cases put
  · cases put
    exact (refl t b).updateTransport fun _ => rfl

theorem deliver {receive : TransportId → Bridge} (d : DataChannelId)
    (receives : ∀ u, Silent t b (receive u)) :
    Silent t b (b.attempt (b.deliver d receive)).2 := by
  unfold Bridge.deliver
  cases (b.dataChannel d).listener with
  | none => exact refl t b
  | some u =>
    dsimp only [attempt]
    split
    · exact receives u
    · exact refl t b

theorem stepTransport {operation : TransportOperation} (t : TransportId)
    (silent : (Operation.transport u operation).isSilent = true) (b : Bridge) :
    Silent t b (b.stepTransport u operation).2 := by
  cases work : operation.isWork with
  | true => exact (kept t u b).stepTransport work (refl t b)
  | false =>
    cases operation with
    | newSocket => exact openSocket t b _
    | dropEndpoint => exact (refl t b).updateTransport fun _ => rfl
    | dropTransport => exact (refl t b).updateTransport fun _ => rfl
    | joinConference c => exact (refl t b).updateTransport fun _ => rfl
    | rehearse script => exact (refl t b).updateTransport fun _ => rfl
    | slots operation =>
      cases operation with
      | putDataChannel d =>
        unfold Bridge.stepTransport Bridge.stepSlots
        dsimp only
        cases put : b.putDataChannel u d with
        | error misuse => exact refl t b
        | ok c => exact putDataChannel put t
      | _ => cases work
    | installSocket s => cases silent
    | installDataChannel d => cases silent
    | _ => cases work

theorem step {operation : Operation} (t : TransportId) (silent : operation.isSilent = true)
    (b : Bridge) : Silent t b (b.step operation).2 := by
  have work (u : TransportId) := (kept t u b).lockstep
  have start : b = b ∧ Silent t b b := ⟨rfl, refl t b⟩
  cases operation with
  | newSocket buffer => exact openSocket t b buffer
  | cloneHandle s => exact (refl t b).setSocket s _
  | dropHandle s => exact (refl t b).setSocket s _
  | dropReceiver s => exact (refl t b).setSocket s _
  | sendText s text =>
    unfold Bridge.step
    dsimp only
    rcases (work 0).sendOn (.socket s) text start with ⟨e, sent, -⟩ | ⟨c, c', sent, -, -, taken⟩
    · rw [sent]
      exact refl t b
    · rw [sent]
      exact taken
  | closeSession s status reason => exact ((work 0).closeSession s status reason start).2
  | takeFrame s => exact (refl t b).setSocket s _
  | poll s => exact (refl t b).setSocket s _
  | deliverText d text => exact deliver d fun u => ((work u).receive .dataChannel text start).2
  | deliverBinary d length => exact deliver d fun u => ((work u).receiveBinary length start).2
  | expire c => exact ⟨rfl, rfl, rfl⟩
  | transport u operation => exact stepTransport t silent b
  | newDataChannel ready => cases silent
  | setReady d ready => cases silent
  | failSends d => cases silent
  | dropDataChannel d => cases silent

/-- A socket is put into use in silence before it is told of. -/
theorem installSocket (t u : TransportId) (b : Bridge) (s : SocketId) :
    ∃ c, Silent t b c ∧ b.installSocket u s = c.notifyConnected u := by
  have work := (kept t u b).lockstep
  have put := work.putSocket s (work.sendVia (.socket s) .hello) ⟨rfl, refl t b⟩
  exact ⟨_, put.2.emit rfl, rfl⟩

/-- So is a data channel, which is told of only if it is ready. -/
theorem installDataChannel (t u : TransportId) (b : Bridge) (d : DataChannelId) :
    (∃ misuse, b.installDataChannel u d = .error misuse) ∨
      ∃ c, Silent t b c ∧
        let hooked := c.setDataChannel d { b.dataChannel d with listener := some u }
        b.installDataChannel u d =
          .ok (if (b.dataChannel d).ready then hooked.notifyConnected u else hooked) := by
  unfold Bridge.installDataChannel
  cases put : b.putDataChannel u d with
  | error misuse => exact .inl ⟨misuse, rfl⟩
  | ok c =>
    have silent := putDataChannel put t
    have same : b.dataChannel d = c.dataChannel d := by
      rw [dataChannel, dataChannel, silent.dataChannels]
    refine .inr ⟨c, silent, ?_⟩
    rw [same]
    rfl

end Silent

/-! ## Where a data channel reports -/

theorem dataChannel_setDataChannel (b : Bridge) (d e : DataChannelId) (state : DataChannel) :
    (b.setDataChannel d state).dataChannel e =
      if d = e ∧ e < b.dataChannels.length then state else b.dataChannel e := by
  unfold setDataChannel dataChannel
  dsimp only
  rw [List.getD_eq_getElem?_getD, List.getD_eq_getElem?_getD, List.getElem?_set]
  by_cases here : d = e
  · subst here
    by_cases present : d < b.dataChannels.length
    · simp [present]
    · simp [present]
  · simp [here]

/-- A data channel reports where it reported, if a change leaves that alone. -/
theorem listener_setDataChannel {state : DataChannel} (e : DataChannelId)
    (kept : state.listener = (b.dataChannel d).listener) :
    ((b.setDataChannel d state).dataChannel e).listener = (b.dataChannel e).listener := by
  rw [dataChannel_setDataChannel]
  split
  · rename_i here
    rw [kept, here.1]
  · rfl

/-- A data channel that becomes ready is told of by the transport that it reports to. -/
theorem setReady_eq (b : Bridge) (d : DataChannelId) (ready : Bool) :
    let set := b.setDataChannel d { b.dataChannel d with ready := ready }
    b.setReady d ready = ((Step.wakes? (b, .setReady d ready)).bind b.listener).elim set
      set.notifyConnected := by
  intro set
  have kept : (set.dataChannel d).listener = (b.dataChannel d).listener :=
    listener_setDataChannel d rfl
  have reports : set.listener d = b.listener d :=
    congrArg (Option.filter b.isLive) kept
  cases ready with
  | false => rfl
  | true =>
    cases was : (b.dataChannel d).ready with
    | true => simp [setReady, Step.wakes?, was, set]
    | false => simp [setReady, Step.wakes?, was, ← reports, set]

/-- A data channel reports where it was attached last: to the transport that a step attaches it to, or
    where it reported before. -/
theorem listener_step {operation : Operation}
    (present : Step.attachesPresent (b, operation) = true) (d : DataChannelId) :
    ((b.step operation).2.dataChannel d).listener =
      (Step.home? d (b, operation)).or (b.dataChannel d).listener := by
  have same {c : Bridge} (dataChannels : c.dataChannels = b.dataChannels) :
      (c.dataChannel d).listener = (b.dataChannel d).listener := by
    rw [dataChannel, dataChannels, dataChannel]
  cases silent : operation.isSilent with
  | true =>
    have nowhere : Step.home? d (b, operation) = none := by
      cases operation with
      | transport u operation => cases operation <;> first | rfl | cases silent
      | _ => rfl
    rw [nowhere, Option.none_or]
    exact same (Silent.step 0 silent b).dataChannels
  | false =>
    cases operation with
    | newDataChannel ready =>
      refine Eq.trans ?_ (Option.none_or ..).symm
      unfold Bridge.step addDataChannel dataChannel
      dsimp only
      rw [List.getD_eq_getElem?_getD, List.getD_eq_getElem?_getD]
      by_cases early : d < b.dataChannels.length
      · rw [List.getElem?_append_left early]
      · rw [List.getElem?_append_right (Nat.le_of_not_lt early),
          List.getElem?_eq_none (Nat.le_of_not_lt early)]
        cases d - b.dataChannels.length <;> rfl
    | setReady e ready =>
      refine Eq.trans ?_ (Option.none_or ..).symm
      unfold Bridge.step
      dsimp only
      rw [setReady_eq]
      cases (Step.wakes? (b, .setReady e ready)).bind b.listener with
      | none => exact listener_setDataChannel d rfl
      | some u => exact listener_setDataChannel d rfl
    | failSends e => exact listener_setDataChannel d rfl
    | dropDataChannel e => exact listener_setDataChannel d rfl
    | transport u operation =>
      cases operation with
      | installSocket s =>
        refine Eq.trans ?_ (Option.none_or ..).symm
        obtain ⟨c, silent, installed⟩ := Silent.installSocket 0 u b s
        unfold Bridge.step Bridge.stepTransport
        dsimp only
        rw [installed]
        exact same silent.dataChannels
      | installDataChannel e =>
        have there : e < b.dataChannels.length := of_decide_eq_true present
        unfold Bridge.step Bridge.stepTransport
        dsimp only
        rcases Silent.installDataChannel 0 u b e with ⟨misuse, refused⟩ | ⟨c, silent, hooked⟩
        · rw [refused]
          unfold Step.home? attaches?
          dsimp only
          rw [refused]
          exact (Option.none_or ..).symm
        · have listens : ((c.setDataChannel e { b.dataChannel e with listener := some u }).dataChannel
              d).listener = if e = d then some u else (b.dataChannel d).listener := by
            rw [dataChannel_setDataChannel, silent.dataChannels]
            by_cases here : e = d
            · subst here
              simp [there]
            · simp [here, same silent.dataChannels]
          have homed : (Step.home? d (b, .transport u (.installDataChannel e))).or
              (b.dataChannel d).listener = if e = d then some u else (b.dataChannel d).listener := by
            unfold Step.home? attaches?
            dsimp only
            rw [hooked]
            by_cases here : e = d <;> simp [Except.toOption, here]
          rw [homed, ← listens, hooked]
          dsimp only [attempt]
          split <;> rfl
      | _ => cases silent
    | _ => cases silent

/-! ## What is told of -/

/-- A transport told of a channel so many times. -/
structure Told (t : TransportId) (b b' : Bridge) (times : Nat) : Prop where
  connections : b'.connections t =
    b.connections t ++ List.replicate times (b.transport t).endpointId
  endpointId : (b'.transport t).endpointId = (b.transport t).endpointId

theorem Silent.told (silent : Silent t b b') : Told t b b' 0 :=
  ⟨silent.connections.trans (List.append_nil _).symm, silent.endpointId⟩

theorem Told.trans {b'' : Bridge} {times more : Nat} (first : Told t b b' times)
    (second : Told t b' b'' more) : Told t b b'' (times + more) := by
  refine ⟨?_, second.endpointId.trans first.endpointId⟩
  rw [second.connections, first.connections, first.endpointId, List.append_assoc,
    List.replicate_append_replicate]

theorem Told.notifyConnected (told : Told t b b' 0) (u : TransportId) :
    Told t b (b'.notifyConnected u) (u == t).toNat := by
  refine ⟨?_, told.endpointId⟩
  have before : b'.connections t = b.connections t := told.connections.trans (List.append_nil _)
  unfold Bridge.notifyConnected
  dsimp only
  rw [connections_emit, log, connections_emit, before]
  by_cases here : u = t
  · subst here
    simp [Event.connected?, told.endpointId]
  · simp [Event.connected?, here]

/-- A transport that is there tells of a data channel that becomes ready if that reports to it. -/
theorem told_setReady (live : b.isLive t = true) (e : DataChannelId) (ready : Bool) :
    Told t b (b.setReady e ready) ((Step.wakes? (b, .setReady e ready)).any fun d =>
      (b.dataChannel d).listener == some t).toNat := by
  have set : Told t b (b.setDataChannel e { b.dataChannel e with ready := ready }) 0 :=
    ⟨(List.append_nil _).symm, rfl⟩
  rw [setReady_eq]
  cases Step.wakes? (b, .setReady e ready) with
  | none => exact set
  | some d =>
    rw [Option.bind_some, Option.any_some]
    cases heard : b.listener d with
    | some u =>
      have listens : (b.dataChannel d).listener = some u := (Option.filter_eq_some_iff.1 heard).1
      rw [listens]
      exact set.notifyConnected u
    | none =>
      have deaf : (b.dataChannel d).listener ≠ some t := by
        intro listens
        rw [listener, listens, Option.filter_some, live] at heard
        cases heard
      rw [beq_eq_false_iff_ne.2 deaf]
      exact set

/-- A transport tells of a data channel that is attached to it and ready. -/
theorem told_installDataChannel (t u : TransportId) (b : Bridge) (e : DataChannelId) :
    Told t b (b.attempt (b.installDataChannel u e)).2
      (Step.attachesReady t (b, .transport u (.installDataChannel e))).toNat := by
  unfold Step.attachesReady attaches?
  dsimp only
  rcases Silent.installDataChannel t u b e with ⟨misuse, refused⟩ | ⟨c, silent, hooked⟩
  · rw [refused]
    exact (Silent.refl t b).told
  · have hooks : Told t b (c.setDataChannel e { b.dataChannel e with listener := some u }) 0 :=
      ⟨silent.told.connections, silent.endpointId⟩
    rw [hooked]
    dsimp only [attempt, Except.toOption, Option.map_some, Option.any_some]
    by_cases ready : (b.dataChannel e).ready = true
    · have times : (u == t && (b.dataChannel e).ready) = (u == t) := by rw [ready, Bool.and_true]
      rw [if_pos ready, times]
      exact hooks.notifyConnected u
    · have times : (u == t && (b.dataChannel e).ready) = false := by
        rw [Bool.eq_false_iff.2 ready, Bool.and_false]
      rw [if_neg ready, times]
      exact hooks

/-- How often a transport tells of a channel by a step, by where the data channels report. -/
def Step.tellings (t : TransportId) (now : Step) : Nat :=
  (now.2.installsSocket t).toNat + (now.attachesReady t).toNat +
    (now.wakes?.any fun d => (now.1.dataChannel d).listener == some t).toNat

/-- A transport that is there tells of a channel once for each socket that comes, for each data
    channel that is attached and ready, and for each that reports to it and becomes ready. -/
theorem told_step (live : b.isLive t = true) (operation : Operation) :
    Told t b (b.step operation).2 (Step.tellings t (b, operation)) := by
  cases silent : operation.isSilent with
  | true =>
    have none : Step.tellings t (b, operation) = 0 := by
      cases operation with
      | transport u operation => cases operation <;> first | rfl | cases silent
      | setReady d ready => cases silent
      | _ => rfl
    rw [none]
    exact (Silent.step t silent b).told
  | false =>
    cases operation with
    | newDataChannel ready => exact ⟨(List.append_nil _).symm, rfl⟩
    | failSends e => exact ⟨(List.append_nil _).symm, rfl⟩
    | dropDataChannel e => exact ⟨(List.append_nil _).symm, rfl⟩
    | setReady e ready =>
      have tellings := told_setReady live e ready
      rwa [← Nat.zero_add (Bool.toNat _)] at tellings
    | transport u operation =>
      cases operation with
      | installSocket s =>
        obtain ⟨c, silent, installed⟩ := Silent.installSocket t u b s
        unfold Bridge.step Bridge.stepTransport
        dsimp only
        rw [installed]
        exact silent.told.notifyConnected u
      | installDataChannel e =>
        have tellings := told_installDataChannel t u b e
        rwa [← Nat.zero_add (Bool.toNat _)] at tellings
      | _ => cases silent
    | _ => cases silent

/-! ## Whole runs -/

/-- A transport that is there after a step was there before it. -/
theorem isLive_of_step {operation : Operation} (live : (b.step operation).2.isLive t = true) :
    b.isLive t = true := by
  have stands := view_standing_of_mark Standing.live rfl live
  obtain ⟨before, stood, alive, -⟩ := tracked_channels.step operation b t _ stands live
  have shown : (b.transport t).standing = before := standing_view b t stood
  exact (congrArg Standing.live shown).trans alive

theorem run_concat (b : Bridge) (operations : List Operation) (operation : Operation) :
    b.run (operations ++ [operation]) = ((b.run operations).step operation).2 := by
  rw [run, List.foldl_append]
  rfl

/-- At every point of a run, a data channel reports to the transport that it was attached to last. -/
theorem listener_run {operations : List Operation}
    (new : ∀ state ∈ b.dataChannels, state.listener = none)
    (present : ∀ now ∈ b.steps operations, now.attachesPresent = true) (d : DataChannelId) :
    ((b.run operations).dataChannel d).listener = homeOf d (b.steps operations) := by
  induction operations using List.reverseRecOn with
  | nil =>
    unfold run dataChannel
    rw [List.foldl_nil, List.getD_eq_getElem?_getD]
    cases found : b.dataChannels[d]? with
    | none => rfl
    | some state => exact new state (List.mem_of_getElem? found)
  | append_singleton operations operation ih =>
    rw [steps_append] at present ⊢
    obtain ⟨before, now⟩ := List.forall_mem_append.1 present
    rw [run_concat, listener_step (now _ List.mem_cons_self), ih before]
    exact (homeOf_concat d _ _).symm

/-- A transport tells of its channels neither too often nor too rarely. From a bridge in which nothing
    was told of yet and no data channel was attached, and as long as the transport is there, it tells
    its endpoint's id once for each socket that is put into use, once for each data channel that is
    attached and is ready then, and once for each time that a data channel becomes ready which was
    attached to it last. -/
theorem connections_of_history {operations : List Operation} (untouched : b.trace = [])
    (new : ∀ state ∈ b.dataChannels, state.listener = none)
    (present : ∀ now ∈ b.steps operations, now.attachesPresent = true)
    (live : (b.run operations).isLive t = true) :
    (b.run operations).connections t =
      List.replicate (operations.countP (·.installsSocket t) +
        (b.steps operations).countP (·.attachesReady t) + wakings t [] (b.steps operations))
        (b.transport t).endpointId := by
  have told : Told t b (b.run operations) (operations.countP (·.installsSocket t) +
      (b.steps operations).countP (·.attachesReady t) + wakings t [] (b.steps operations)) := by
    induction operations using List.reverseRecOn with
    | nil => exact (Silent.refl t b).told
    | append_singleton operations operation ih =>
      rw [run_concat] at live ⊢
      have split : b.steps (operations ++ [operation]) =
          b.steps operations ++ [(b.run operations, operation)] := steps_append b operations _
      rw [split] at present ⊢
      have before := (List.forall_mem_append.1 present).1
      have earlier := ih before (isLive_of_step live)
      have now := told_step (isLive_of_step live) operation
      have last : Step.tellings t (b.run operations, operation) =
          (operation.installsSocket t).toNat +
            (Step.attachesReady t (b.run operations, operation)).toNat +
            wakings t (b.steps operations) [(b.run operations, operation)] := by
        simp only [Step.tellings, wakings, listener_run new before, Nat.add_zero]
      have total : operations.countP (·.installsSocket t) +
          (b.steps operations).countP (·.attachesReady t) + wakings t [] (b.steps operations) +
            Step.tellings t (b.run operations, operation) =
          (operations ++ [operation]).countP (·.installsSocket t) +
            (b.steps operations ++ [(b.run operations, operation)]).countP (·.attachesReady t) +
            wakings t [] (b.steps operations ++ [(b.run operations, operation)]) := by
        rw [last, List.countP_append, List.countP_append, wakings_append, List.nil_append,
          countP_single, countP_single]
        omega
      rw [← total]
      exact earlier.trans now
  rw [told.connections, connections, untouched]
  rfl

/-- Two transports, with a socket for the first one. -/
def twoTransports : Bridge where
  sockets := [{ capacity := 4 }]
  statistics := [{}]
  transports := [.create "a" {} none 0, .create "b" {} none 0]

/-- A data channel becomes ready on the first transport, is told to be ready again, moves to the second
    transport, where it is attached twice, and becomes ready once more. -/
def movingChannel : List Operation :=
  [.newDataChannel false, .transport 0 (.installSocket 0), .transport 0 (.installDataChannel 0),
    .setReady 0 true, .setReady 0 true, .transport 1 (.installDataChannel 0),
    .transport 1 (.installDataChannel 0), .setReady 0 false, .setReady 0 true,
    .transport 0 .close]

theorem connections_of_history_movingChannel :
    (twoTransports.run movingChannel).connections 0 = ["a", "a"] ∧
      (twoTransports.run movingChannel).connections 1 = ["b", "b"] := by
  have new : ∀ state ∈ twoTransports.dataChannels, state.listener = none := nofun
  have present : ∀ now ∈ twoTransports.steps movingChannel, now.attachesPresent = true := by
    rw [← List.all_eq_true]
    decide +kernel
  have first := connections_of_history (t := 0) rfl new present rfl
  have second := connections_of_history (t := 1) rfl new present rfl
  have counts : movingChannel.countP (·.installsSocket 0) = 1 ∧
      (twoTransports.steps movingChannel).countP (·.attachesReady 0) = 0 ∧
      wakings 0 [] (twoTransports.steps movingChannel) = 1 := by
    decide +kernel
  have counts' : movingChannel.countP (·.installsSocket 1) = 0 ∧
      (twoTransports.steps movingChannel).countP (·.attachesReady 1) = 1 ∧
      wakings 1 [] (twoTransports.steps movingChannel) = 1 := by
    decide +kernel
  rw [counts.1, counts.2.1, counts.2.2] at first
  rw [counts'.1, counts'.2.1, counts'.2.2] at second
  exact ⟨first, second⟩

end Bridge

end ControlChannel
