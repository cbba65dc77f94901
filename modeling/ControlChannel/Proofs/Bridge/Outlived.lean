import ControlChannel.Proofs.Bridge.Attachment
import ControlChannel.Proofs.Bridge.Confinement

/-!
# Data channels that outlive a transport

A data channel goes on to report to the transport that it was attached to last, also when that
transport was dropped. Then its reports come to nothing: no answer, no count, no input, and nobody
is told of anything. All that is left of them is how ready the data channel is, and that is its own.
Once it is attached to another transport, its reports lead there, and what comes of them stays there.
-/

namespace ControlChannel

namespace Operation

/-- The data channel that the operation is a report of: it becomes ready or stops being ready, or it
    delivers a message. -/
def reporter? : Operation → Option DataChannelId
  | setReady d _ | deliverText d _ | deliverBinary d _ => some d
  | _ => none

/-- How ready this data channel is, if the operation tells. -/
def readiness? (d : DataChannelId) : Operation → Option Bool
  | setReady e ready => if e = d then some ready else none
  | _ => none

end Operation

namespace Bridge

variable {b b' now : Bridge} {t u : TransportId} {d : DataChannelId} {operation : Operation}
  {reports : List Operation}

/-- The operation is a report of a data channel, and this transport is the one that it is for. -/
def reportsTo (b : Bridge) (t : TransportId) (operation : Operation) : Bool :=
  operation.reporter?.any fun d => (b.dataChannel d).listener == some t

/-- The bridge with each data channel as ready as the operations tell last of it. -/
def readied (b : Bridge) (operations : List Operation) : Bridge :=
  { b with dataChannels := b.dataChannels.mapIdx fun d state =>
      { state with ready := latest (·.readiness? d) state.ready operations } }

/-! ## How ready the data channels are -/

theorem readied_append (b : Bridge) (operations more : List Operation) :
    b.readied (operations ++ more) = (b.readied operations).readied more := by
  unfold readied
  simp only [List.mapIdx_mapIdx, latest_append]
  rfl

/-- Operations that tell nothing of readiness leave it. -/
theorem readied_of_silent {operations : List Operation}
    (silent : ∀ operation ∈ operations, ∀ d, operation.readiness? d = none) :
    b.readied operations = b := by
  have same : b.dataChannels.mapIdx (fun d state =>
      { state with ready := latest (·.readiness? d) state.ready operations }) = b.dataChannels := by
    refine List.ext_getElem? fun d => ?_
    have told : operations.filterMap (·.readiness? d) = [] :=
      List.filterMap_eq_nil_iff.2 fun operation mem => silent operation mem d
    rw [List.getElem?_mapIdx]
    cases b.dataChannels[d]? <;> simp [latest, told]
  unfold readied
  rw [same]

theorem readied_setReady (b : Bridge) (d : DataChannelId) (ready : Bool) :
    b.readied [.setReady d ready] = b.setDataChannel d { b.dataChannel d with ready := ready } := by
  unfold readied setDataChannel dataChannel
  congr 1
  refine List.ext_getElem? fun e => ?_
  rw [List.getElem?_mapIdx, List.getElem?_set, List.getD_eq_getElem?_getD]
  by_cases here : d = e
  · subst here
    cases found : b.dataChannels[d]? with
    | none => simpa using found
    | some state =>
      have present : d < b.dataChannels.length := (List.getElem?_eq_some_iff.1 found).1
      simp [Operation.readiness?, present]
  · cases b.dataChannels[e]? <;> simp [Operation.readiness?, here]

/-- All of a data channel but how ready it is stays. -/
theorem dataChannel_readied {α : Type} (part : DataChannel → α)
    (apart : ∀ (state : DataChannel) ready, part { state with ready := ready } = part state)
    (b : Bridge) (operations : List Operation) (d : DataChannelId) :
    part ((b.readied operations).dataChannel d) = part (b.dataChannel d) := by
  unfold readied dataChannel
  dsimp only
  rw [List.getD_eq_getElem?_getD, List.getD_eq_getElem?_getD, List.getElem?_mapIdx]
  cases b.dataChannels[d]? with
  | none => rfl
  | some state => exact apart state _

theorem listener_readied (b : Bridge) (operations : List Operation) (d : DataChannelId) :
    ((b.readied operations).dataChannel d).listener = (b.dataChannel d).listener :=
  dataChannel_readied (·.listener) (fun _ _ => rfl) b operations d

theorem reportsTo_readied (b : Bridge) (operations : List Operation) :
    (b.readied operations).reportsTo = b.reportsTo := by
  funext t operation
  unfold reportsTo
  simp only [listener_readied]

theorem liveDataChannel_readied (b : Bridge) (operations : List Operation) (u : TransportId) :
    (b.readied operations).liveDataChannel u = b.liveDataChannel u := by
  unfold liveDataChannel
  simp only [dataChannel_readied (·.live) fun _ _ => rfl]
  rfl

/-- A transport shows the same if nothing is told of how ready its data channel is. -/
theorem snapshot_readied {operations : List Operation}
    (silent : ∀ d, b.liveDataChannel u = some d →
      ∀ operation ∈ operations, operation.readiness? d = none) :
    (b.readied operations).snapshot u = b.snapshot u := by
  have ready : (b.readied operations).dataChannelReady u = b.dataChannelReady u := by
    unfold dataChannelReady
    rw [liveDataChannel_readied]
    cases live : b.liveDataChannel u with
    | none => rfl
    | some d =>
      have told : operations.filterMap (·.readiness? d) = [] :=
        List.filterMap_eq_nil_iff.2 (silent d live)
      unfold readied dataChannel
      dsimp only [Option.any_some]
      rw [List.getD_eq_getElem?_getD, List.getD_eq_getElem?_getD, List.getElem?_mapIdx]
      cases b.dataChannels[d]? with
      | none => rfl
      | some state => simp [latest, told]
  have active : (b.readied operations).activeChannel u = b.activeChannel u := by
    unfold activeChannel
    dsimp only
    rw [ready, liveDataChannel_readied]
    rfl
  unfold snapshot isConnected
  dsimp only
  rw [ready, active]
  rfl

/-! ## Reports -/

theorem reportsTo_eq_true : b.reportsTo t operation = true ↔
    ∃ d, operation.reporter? = some d ∧ (b.dataChannel d).listener = some t := by
  unfold reportsTo
  rw [Option.any_eq_true]
  simp

theorem wakes?_setReady (b : Bridge) (d : DataChannelId) (ready : Bool) :
    Step.wakes? (b, .setReady d ready) =
      if ready ∧ ¬ (b.dataChannel d).ready then some d else none := by
  cases ready with
  | false => rfl
  | true => cases was : (b.dataChannel d).ready <;> simp [Step.wakes?, was]

/-- A report to a transport that was dropped is taken in silence. -/
theorem step_of_dropped (dropped : b.isLive t = false) (reports : b.reportsTo t operation = true) :
    b.step operation = (.done, b.readied [operation]) := by
  obtain ⟨d, reporter, listens⟩ := reportsTo_eq_true.1 reports
  cases operation with
  | setReady e ready =>
    cases reporter
    have deaf : b.listener d = none := by rw [listener, listens, Option.filter_some, dropped]; rfl
    unfold step
    dsimp only
    rw [setReady_eq, wakes?_setReady, readied_setReady]
    split
    · rw [Option.bind_some, deaf]
      rfl
    · rfl
  | deliverText e text =>
    cases reporter
    rw [readied_of_silent (List.forall_mem_singleton.2 fun _ => rfl)]
    simp [step, deliver, listens, dropped, attempt]
  | deliverBinary e length =>
    cases reporter
    rw [readied_of_silent (List.forall_mem_singleton.2 fun _ => rfl)]
    simp [step, deliver, listens, dropped, attempt]
  | _ => cases reporter

/-- What comes of a report stays with the transport that it is for. -/
theorem confined_step (reports : b.reportsTo t operation = true) :
    (b.step operation).1 = .done ∧ Confined t (b.readied [operation]) (b.step operation).2 := by
  cases live : b.isLive t with
  | false =>
    rw [step_of_dropped live reports]
    exact ⟨rfl, .refl t _⟩
  | true =>
    obtain ⟨d, reporter, listens⟩ := reportsTo_eq_true.1 reports
    have leads := leadsTo_of_listener listens live
    cases operation with
    | setReady e ready =>
      cases reporter
      have heard : b.listener d = some t := Option.filter_eq_some_iff.2 ⟨listens, live⟩
      refine ⟨rfl, ?_⟩
      unfold step
      dsimp only
      rw [setReady_eq, wakes?_setReady, readied_setReady]
      split
      · rw [Option.bind_some, heard]
        exact .notifyConnected t _
      · exact .refl t _
    | deliverText e text =>
      cases reporter
      rw [readied_of_silent (List.forall_mem_singleton.2 fun _ => rfl), leads.text]
      exact ⟨rfl, .receive t b .dataChannel text⟩
    | deliverBinary e length =>
      cases reporter
      rw [readied_of_silent (List.forall_mem_singleton.2 fun _ => rfl), leads.binary]
      exact ⟨rfl, .receiveBinary t b length⟩
    | _ => cases reporter

/-! ## Sequences of reports -/

/-- All reports to a transport that was dropped are taken in silence. The induction is on the
    reports. -/
theorem run_of_dropped (dropped : b.isLive t = false)
    (reported : ∀ report ∈ reports, b.reportsTo t report = true) :
    b.run reports = b.readied reports ∧
      b.transcript reports = reports.map fun report => (report, .done) := by
  induction reports generalizing b with
  | nil => exact ⟨(readied_of_silent (List.forall_mem_nil _)).symm, rfl⟩
  | cons report rest ih =>
    obtain ⟨first, others⟩ := List.forall_mem_cons.1 reported
    have taken := step_of_dropped dropped first
    obtain ⟨final, answers⟩ := ih (b := b.readied [report]) dropped
      (by rwa [reportsTo_readied])
    have whole : b.run (report :: rest) = (b.step report).2.run rest := rfl
    unfold transcript
    rw [whole, taken, final, answers]
    exact ⟨(readied_append b [report] rest).symm, rfl⟩

/-- What is confined stays so if data channels become ready or stop being ready. -/
theorem Confined.readied (h : Confined t b b') (operations : List Operation) :
    Confined t (b.readied operations) (b'.readied operations) := by
  refine { h with dataChannels := ?_, trace := ?_ }
  · unfold Bridge.readied
    dsimp only
    rw [h.dataChannels]
  · obtain ⟨events, written, within⟩ := h.trace
    refine ⟨events, written, fun e mem => ?_⟩
    have was := within e mem
    cases e with
    | accepted channel frame =>
      cases channel with
      | socket s => exact was
      | dataChannel d => exact (liveDataChannel_readied b operations t).trans was
    | _ => exact was

/-- What comes of reports stays with the transport that they are for. The induction is on the
    reports. -/
theorem confined_run (reported : ∀ report ∈ reports, b.reportsTo t report = true) :
    Confined t (b.readied reports) (b.run reports) ∧
      b.transcript reports = reports.map fun report => (report, .done) := by
  induction reports generalizing b with
  | nil =>
    rw [readied_of_silent (List.forall_mem_nil _)]
    exact ⟨.refl t b, rfl⟩
  | cons report rest ih =>
    obtain ⟨first, others⟩ := List.forall_mem_cons.1 reported
    obtain ⟨answer, confined⟩ := confined_step first
    have same : (b.step report).2.reportsTo = b.reportsTo := by
      rw [← reportsTo_readied b [report]]
      unfold reportsTo dataChannel
      rw [confined.dataChannels]
    obtain ⟨later, answers⟩ := ih (b := (b.step report).2) (by rwa [same])
    have whole : b.readied (report :: rest) = (b.readied [report]).readied rest :=
      readied_append b [report] rest
    unfold transcript
    rw [whole, answer, answers]
    exact ⟨(confined.readied rest).trans later, rfl⟩

/-! ## Where reports lead -/

theorem isLive_dropTransport (b : Bridge) (t : TransportId) :
    (b.dropTransport t).isLive t = false := by
  unfold isLive dropTransport
  rcases transport_updateTransport_cases b t fun tr => { tr with live := false, channels := {} } with
    moved | ⟨-, absent⟩
  · rw [moved]
  · rw [absent]
    rfl

/-- A transport that was dropped does not come back. -/
theorem isLive_run_of_dropped (dropped : b.isLive t = false) (operations : List Operation) :
    (b.run operations).isLive t = false := by
  induction operations generalizing b with
  | nil => exact dropped
  | cons operation rest ih =>
    refine ih (Bool.eq_false_iff.2 fun live => ?_)
    rw [isLive_of_step live] at dropped
    cases dropped

/-- To attach one data channel leaves where the others report. -/
theorem listener_installDataChannel_ne {e : DataChannelId} (other : e ≠ d) (b : Bridge)
    (u : TransportId) : ((b.step (.transport u (.installDataChannel e))).2.dataChannel d).listener =
      (b.dataChannel d).listener := by
  unfold Bridge.step Bridge.stepTransport
  dsimp only
  rcases Silent.installDataChannel 0 u b e with ⟨misuse, refused⟩ | ⟨c, silent, hooked⟩
  · rw [refused]
    rfl
  · have kept (state : DataChannel) :
        ((c.setDataChannel e state).dataChannel d).listener = (b.dataChannel d).listener := by
      rw [dataChannel_setDataChannel, if_neg fun here => other here.1, dataChannel,
        silent.dataChannels, dataChannel]
    rw [hooked]
    dsimp only [attempt]
    split
    · exact kept _
    · exact kept _

/-- A data channel that is there reports where it was attached last, also if others are to be attached
    that are not there. -/
theorem listener_step_of_present (present : d < b.dataChannels.length) (operation : Operation) :
    ((b.step operation).2.dataChannel d).listener =
      (Step.home? d (b, operation)).or (b.dataChannel d).listener := by
  cases attaches : Step.attachesPresent (b, operation) with
  | true => exact listener_step attaches d
  | false =>
    cases operation with
    | transport u operation =>
      cases operation with
      | installDataChannel e =>
        have other : e ≠ d := by
          rintro rfl
          exact of_decide_eq_false attaches present
        have homeless : Step.home? d (b, .transport u (.installDataChannel e)) = none := by
          unfold Step.home? attaches?
          dsimp only
          cases b.installDataChannel u e <;> simp [Except.toOption, other]
        rw [homeless, Option.none_or]
        exact listener_installDataChannel_ne other b u
      | _ => cases attaches
    | _ => cases attaches

/-- Until it is attached to another transport, a data channel reports to the same one. -/
theorem listener_run_of_home {later : List Operation} (present : d < b.dataChannels.length)
    (listens : (b.dataChannel d).listener = some t)
    (stays : ∀ step ∈ b.steps later, ∀ u, step.home? d = some u → u = t) :
    ((b.run later).dataChannel d).listener = some t := by
  induction later generalizing b with
  | nil => exact listens
  | cons operation rest ih =>
    obtain ⟨home, remain⟩ := List.forall_mem_cons.1 stays
    refine ih ((tracked_present d).step operation b present) ?_ remain
    rw [listener_step_of_present present]
    cases moved : Step.home? d (b, operation) with
    | none => exact listens
    | some u => exact congrArg some (home u moved)

/-- A data channel that reports to a transport is there. -/
theorem lt_of_listener (listens : (b.dataChannel d).listener = some t) :
    d < b.dataChannels.length := by
  refine Nat.lt_of_not_le fun missing => ?_
  rw [dataChannel, List.getD_eq_getElem?_getD, List.getElem?_eq_none missing] at listens
  cases listens

/-- What a data channel reports to a transport that was dropped comes to nothing. Let the transport
    be dropped after any run, and let anything happen after that. Then any sequence of reports of
    data channels that were attached to it last, messages of any text and of any length and changes
    of readiness, is taken without a misuse, and leaves nothing behind but how ready these data
    channels are: no event in the trace, so that nobody is told of a channel, given constraints, a
    number of senders or a message, no frame is sent and nothing is counted, and no change of a
    transport, a socket, a conference or of statistics. Every transport shows the same as before,
    unless one of these data channels is in its own slot and told how ready it is. If such a data
    channel is attached to a transport that is there, then from that time on, until it is attached to
    yet another one, its reports lead to that transport, and all that comes of them stays with it. -/
theorem outlived_reports_inert (b : Bridge) (t : TransportId) (before between : List Operation) :
    let now := b.run (before ++ .transport t .dropTransport :: between)
    (∀ reports : List Operation, (∀ report ∈ reports, now.reportsTo t report = true) →
      now.transcript reports = reports.map (fun report => (report, .done)) ∧
      now.run reports = now.readied reports ∧
      ∀ u, (∀ d, now.liveDataChannel u = some d → ∀ report ∈ reports, report.readiness? d = none) →
        (now.run reports).snapshot u = now.snapshot u) ∧
    ∀ d u adopted, (now.dataChannel d).listener = some t → now.isLive u = true →
      now.installDataChannel u d = .ok adopted →
      ∀ later, (∀ step ∈ adopted.steps later, ∀ v, step.home? d = some v → v = u) →
        let here := adopted.run later
        (here.isLive u = true → LeadsTo d u here) ∧
        ∀ reports : List Operation, (∀ report ∈ reports, report.reporter? = some d) →
          here.transcript reports = reports.map (fun report => (report, .done)) ∧
          Confined u (here.readied reports) (here.run reports) := by
  intro now
  have dropped : now.isLive t = false := by
    have whole : now = ((b.run before).dropTransport t).run between := List.foldl_append ..
    rw [whole]
    exact isLive_run_of_dropped (isLive_dropTransport _ t) between
  refine ⟨fun reports reported => ?_, fun d u adopted listens live attached later stays => ?_⟩
  · obtain ⟨final, answers⟩ := run_of_dropped dropped reported
    refine ⟨answers, final, fun u silent => ?_⟩
    rw [final]
    exact snapshot_readied silent
  · intro here
    have present := lt_of_listener listens
    have reached := attachedTo_of_ok (transport_lt_of_live live) present attached
    have leads : (here.dataChannel d).listener = some u := by
      refine listener_run_of_home (reached.lengths.2 ▸ present) ?_ stays
      rw [reached.reports]
    refine ⟨leadsTo_of_listener leads, fun reports own => ?_⟩
    obtain ⟨confined, answers⟩ := confined_run (b := here) (t := u) fun report mem =>
      reportsTo_eq_true.2 ⟨d, own report mem, leads⟩
    exact ⟨answers, confined⟩

/-- A data channel becomes ready, says hello, names an endpoint to be pinned, has a message for
    everyone, sends five bytes, and stops being ready. -/
def busyReports : List Operation :=
  [.setReady 0 true, .deliverText 0 "\x7b\"colibriClass\":\"ClientHello\"\x7d",
    .deliverText 0
      "\x7b\"colibriClass\":\"PinnedEndpointChangedEvent\",\"pinnedEndpoint\":\"c\"\x7d",
    .deliverText 0 "\x7b\"colibriClass\":\"EndpointMessage\",\"to\":\"\"\x7d",
    .deliverBinary 0 5, .setReady 0 false]

/-- The first transport is dropped. Its data channel is attached to the second one, which then tells
    that it has got a channel, and takes the pin. -/
theorem outlived_reports_inert_busyReports :
    let now := twoTransports.run
      [.newDataChannel false, .transport 0 (.installDataChannel 0), .transport 0 .dropTransport]
    let moved := now.run [.transport 1 (.installDataChannel 0)]
    now.run busyReports = now ∧
      LeadsTo 0 1 moved ∧
      (moved.run busyReports).transport 0 = now.transport 0 ∧
      (moved.run busyReports).connections 0 = [] ∧
      (moved.run busyReports).connections 1 = ["b"] ∧
      ((moved.run busyReports).transport 1).inputs ≠ (now.transport 1).inputs := by
  intro now moved
  obtain ⟨inert, adopted⟩ := outlived_reports_inert twoTransports 0
    [.newDataChannel false, .transport 0 (.installDataChannel 0)] []
  have reported : ∀ report ∈ busyReports, now.reportsTo 0 report = true := by
    rw [← List.all_eq_true]
    decide +kernel
  obtain ⟨leads, acts⟩ := adopted 0 1 moved rfl rfl rfl [] (List.forall_mem_nil _)
  have own : ∀ report ∈ busyReports, report.reporter? = some 0 := by
    decide +kernel
  have confined := (acts busyReports own).2
  refine ⟨(inert busyReports reported).2.1, leads rfl, confined.others 0 (by decide), ?_⟩
  decide +kernel

end Bridge

end ControlChannel
