import ControlChannel.Proofs.Bridge.Outbound
import ControlChannel.Proofs.Bridge.PushOrder

/-!
# The outbound books

Four books are kept of the messages that transports send: the metrics, the statistics that the
transports share, and for each transport its attempts by kind and its messages without a channel.
They balance over every run. Each message that is sent, each greeting and each answer is counted once
as sent or as dropped; the statistics, the metrics and the texts that channels took agree for each
kind of channel; and the attempts and the drops of a transport are its own sends and the answers that
had no channel to go to.
-/

namespace ControlChannel

/-- Pairs are counted alike by their first and by their second members. -/
theorem sum_countP_comm {α β : Type} (r : α → β → Bool) (l : List α) (m : List β) :
    (l.map fun a => m.countP (r a)).sum = (m.map fun b => l.countP (r · b)).sum := by
  induction m with
  | nil => simp
  | cons b rest ih =>
    simp only [List.countP_cons, List.map_cons, List.sum_cons]
    rw [List.sum_map_add, ih, ← sum_map_toNat l, Nat.add_comm]
    congr 2
    exact List.map_congr_left fun a _ => by cases r a b <;> rfl

namespace Outbox

theorem sum_sentCounts (o : Outbox) : (o.sentCounts.map (·.2)).sum = (Kind.all.map o.sent).sum := by
  have positive (l : List (Kind × Nat)) :
      ((l.filter (0 < ·.2)).map (·.2)).sum = (l.map (·.2)).sum := by
    induction l with
    | nil => rfl
    | cons entry rest ih =>
      by_cases some : 0 < entry.2
      · rw [List.filter_cons_of_pos (by simpa using some), List.map_cons, List.map_cons,
          List.sum_cons, List.sum_cons, ih]
      · rw [List.filter_cons_of_neg (by simpa using some), List.map_cons, List.sum_cons, ih]
        omega
  rw [sentCounts, positive, List.map_map]
  rfl

/-- The kinds that an outbox shows make up its total. -/
theorem sentTotal_eq (o : Outbox) : o.sentTotal = (o.sentCounts.map (·.2)).sum := by
  rw [sum_sentCounts, sentTotal, List.sum, List.foldr_map]

end Outbox

/-- A socket may be given texts directly, and not by its transport. -/
def Operation.isDirect : Operation → Bool
  | sendText _ _ | transport _ (.slots _) => true
  | _ => false

namespace Bridge

variable {b : Bridge} {t : TransportId} {σ : StatisticsId} {operations : List Operation}

/-- The frames that channels take in a run, while no socket is given texts directly. -/
def framesTaken (b : Bridge) : List Operation → List (Channel × Frame)
  | [] => []
  | operation :: rest =>
      (if operation.isDirect then [] else (b.step operation).2.frames.drop b.frames.length) ++
        (b.step operation).2.framesTaken rest

theorem ne_slots_of_mem {operation : Operation} {o : Occurrence} (sends : operation.isDirect = false)
    (mem : o ∈ b.stepOccurrences operation) (slots : SlotOperation) :
    o.operation ≠ .slots slots := by
  intro found
  obtain ⟨asked, occasion, rfl | ⟨reaction, asks⟩⟩ := of_mem_stepOccurrences mem
  · rw [found] at occasion
    rcases occasion_cases occasion with rfl | ⟨-, d, -, ⟨text, -, other⟩ | ⟨length, -, other⟩⟩
    · cases sends
    · cases other
    · cases other
  · rw [found] at asks
    rcases Reaction.operation?_cases asks with ⟨_, _, other⟩ | ⟨_, other⟩ | ⟨_, _, other⟩ | other
    all_goals cases other

theorem countP_slots (b : Bridge) (t : TransportId) (slots : SlotOperation) (kind : ChannelKind) :
    (Occurrence.postings ⟨b, t, .slots slots⟩).countP (·.isCounted (·.isSentOn kind)) = 0 := by
  have none := (outbound ⟨b, t, .slots slots⟩).countP_outgoing
  rw [← countP_outbound Posting.isOutbound_of_outgoing] at none
  have none : (Occurrence.postings ⟨b, t, .slots slots⟩).countP
    (·.isCounted fun m => m.isSent || m.isOutboundDrop) = 0 := none
  rw [← Nat.le_zero, ← none]
  exact List.countP_mono_left fun p _ => Posting.isOutgoing_of_sentOn p

/-- Channels take as many texts as are counted in the metrics. -/
theorem countP_framesTaken (b : Bridge) (operations : List Operation) (kind : ChannelKind) :
    (b.framesTaken operations).countP (isTextOn kind) =
      (postings (b.occurrences operations)).countP (·.isCounted (·.isSentOn kind)) := by
  induction operations generalizing b with
  | nil => rfl
  | cons operation rest ih =>
    rw [framesTaken, occurrences, postings_append, List.countP_append, List.countP_append, ih]
    congr 1
    cases direct : operation.isDirect with
    | true =>
      rw [if_pos rfl, List.countP_nil]
      cases operation with
      | sendText s text => rfl
      | transport t asked =>
        cases asked with
        | slots slots =>
          have single : postings (b.stepOccurrences (.transport t (.slots slots))) =
            Occurrence.postings ⟨b, t, .slots slots⟩ := List.append_nil _
          rw [single, countP_slots]
        | _ => cases direct
      | _ => cases direct
    | false =>
      have taken := (booked_step b operation).frames
      have closing : (b.directPostings operation).countP (·.isAccepted (isTextOn kind)) = 0 := by
        refine List.countP_eq_zero.2 fun p mem => ?_
        cases operation with
        | sendText s text => cases direct
        | closeSession s status reason =>
          rw [mem_closePostings mem]
          exact Bool.false_ne_true
        | _ => cases mem
      rw [if_neg Bool.false_ne_true, taken, List.drop_left, ← countP_isAccepted, stepPostings,
        List.countP_append, closing, Nat.zero_add]
      refine countP_postings_congr fun o mem => ?_
      rw [countP_outbound Posting.isOutbound_of_text, countP_outbound Posting.isOutbound_of_sentOn]
      exact (outbound o).countP_isText (ne_slots_of_mem direct mem) kind

/-! ## The balance -/

theorem transport_mem (present : t < b.transports.length) : b.transport t ∈ b.transports := by
  rw [transport, List.getD_eq_getElem?_getD, List.getElem?_eq_getElem present]
  exact List.getElem_mem present

/-- Every message that is to be sent is counted once. -/
theorem outgoing_run (untouched : b.trace = []) (operations : List Operation) :
    let past := b.occurrences operations
    let now := b.run operations
    past.countP (·.isSend) + past.countP (·.isGreeting) + past.countP (·.isDirected) +
        past.countP (·.isHello) =
      now.metrics.countP (·.isSent) + now.metrics.countP (·.isOutboundDrop) := by
  intro past now
  have apart : now.metrics.countP (·.isSent) + now.metrics.countP (·.isOutboundDrop) =
      now.metrics.countP fun m => m.isSent || m.isOutboundDrop := by
    rw [← sum_map_toNat, ← sum_map_toNat, ← sum_map_toNat, ← List.sum_map_add]
    refine congrArg List.sum (List.map_congr_left fun m _ => ?_)
    cases m with
    | dropped direction reason => cases direction <;> rfl
    | _ => rfl
  rw [apart, countP_metrics_run untouched, countP_postings, ← sum_map_toNat, ← sum_map_toNat,
    ← sum_map_toNat, ← sum_map_toNat, ← List.sum_map_add, ← List.sum_map_add, ← List.sum_map_add]
  refine congrArg List.sum (List.map_congr_left fun o _ => ?_)
  rw [countP_outbound Posting.isOutbound_of_outgoing, (outbound o).countP_outgoing,
    Occurrence.others]
  omega

/-- A new transport has sent nothing. -/
theorem Fresh.outbox (fresh : b.Fresh) (present : t < b.transports.length) :
    (b.transport t).outbox = {} := by
  obtain ⟨own, config, conference, σ, created⟩ := fresh.transports _ (transport_mem present)
  rw [created]
  rfl

/-- The attempts of a transport are its sends that had a channel. -/
theorem attempts_run (fresh : b.Fresh) (operations : List Operation)
    (present : t < b.transports.length) (kind : Kind) :
    ((b.run operations).transport t).outbox.sent kind =
      (b.occurrences operations).countP (·.isAttempt t kind) := by
  have start : (b.transport t).outbox.sent kind = 0 := by
    rw [fresh.outbox present]
    cases kind <;> rfl
  rw [(booked_run b operations).attempted t present, start, Nat.zero_add, List.count,
    countP_runPostings fun _ _ => rfl]
  refine countP_postings_eq fun o _ => ?_
  rw [countP_outbound (Posting.isOutbound_of_beq rfl)]
  exact (outbound o).count_attempted t kind

/-- What a transport dropped are its sends that had no channel and the hellos that it could not
    answer. -/
theorem drops_run (fresh : b.Fresh) (operations : List Operation)
    (present : t < b.transports.length) :
    ((b.run operations).transport t).outbox.dropped =
      (b.occurrences operations).countP (·.isLost t) +
        (b.occurrences operations).countP fun o => o.transport == t && o.isUnanswered := by
  rw [(booked_run b operations).dropped t present, fresh.outbox present, Nat.zero_add, List.count,
    countP_runPostings fun _ _ => rfl, countP_postings, ← sum_map_toNat, ← sum_map_toNat,
    ← List.sum_map_add]
  refine congrArg List.sum (List.map_congr_left fun o _ => ?_)
  rw [countP_outbound (Posting.isOutbound_of_beq rfl)]
  exact (outbound o).count_dropped t

/-- A transport counts each of its sends as an attempt of one kind, or as dropped. -/
theorem countP_isAttempt (o : Occurrence) (t : TransportId) :
    Kind.all.countP (o.isAttempt t) + (o.isLost t).toNat =
      (o.transport == t && o.isSend).toNat := by
  have one (kind : Kind) : Kind.all.countP (kind == ·) = 1 := by
    cases kind <;> rfl
  unfold Occurrence.isAttempt Occurrence.isLost Occurrence.isSend
  cases o.transport == t with
  | false => rfl
  | true =>
    cases o.selection? with
    | none => rfl
    | some selected =>
      obtain ⟨channel, message⟩ := selected
      cases channel with
      | none => rfl
      | some channel => exact congrArg (· + 0) (one message.kind)

/-- The messages without a channel are counted in the metrics, whichever transport dropped them. -/
theorem sum_drops_run (fresh : b.Fresh)
    (addressed : ∀ t operation, .transport t operation ∈ operations → t < b.transports.length) :
    ((b.run operations).transports.map (·.outbox.dropped)).sum =
      (b.run operations).counted (.dropped .outbound .noChannel) := by
  have booked := booked_run b operations
  have listed : (b.run operations).transports.map (·.outbox.dropped) =
      (List.range b.transports.length).map fun t =>
        (postings (b.occurrences operations)).countP (· == .dropped t) := by
    refine List.ext_getElem (by simp [booked.length_transports]) fun t here there => ?_
    have present : t < b.transports.length := by simpa using there
    have dropped := booked.dropped t present
    rw [fresh.outbox present, Nat.zero_add, List.count, countP_runPostings fun _ _ => rfl] at dropped
    simp only [List.getElem_map, List.getElem_range]
    rw [← dropped, transport, List.getD_eq_getElem?_getD, List.getElem?_eq_getElem]
    rfl
  have owner {p : Posting} (mem : p ∈ postings (b.occurrences operations)) :
      (List.range b.transports.length).countP (fun t => p == .dropped t) = p.isDropped.toNat := by
    obtain ⟨o, happened, posted⟩ := List.mem_flatMap.1 mem
    cases p with
    | dropped u =>
      have counted := (outbound o).count_dropped u
      rw [List.count, ← countP_outbound (Posting.isOutbound_of_beq rfl)] at counted
      obtain rfl : o.transport = u := by
        refine Decidable.of_not_not fun other => ?_
        rw [Occurrence.isLost, beq_false_of_ne other] at counted
        exact List.count_eq_zero.1 counted posted
      have present := transport_lt_of_mem_occurrences addressed happened
      simp only [Posting.dropped_beq]
      have once := List.count_eq_one_of_mem (List.nodup_range (n := b.transports.length))
        (List.mem_range.2 present)
      have same : (fun u => o.transport == u) = (· == o.transport) := by
        funext u
        exact Bool.beq_comm
      rw [same]
      exact once
    | _ => exact List.countP_eq_zero.2 fun _ _ => Bool.false_ne_true
  have swap := sum_countP_comm (fun (t : TransportId) (p : Posting) => p == .dropped t)
    (List.range b.transports.length) (postings (b.occurrences operations))
  rw [listed, swap, List.map_congr_left fun p mem => owner mem, sum_map_toNat, counted,
    List.count, countP_metrics_run fresh.trace]
  refine countP_postings_congr fun o _ => ?_
  rw [countP_outbound Posting.isOutbound_of_isDropped,
    countP_outbound Posting.isOutbound_of_noChannel]
  exact (outbound o).countP_isDropped

/-- Over every run of transports that share their statistics, the books balance. Each message that
    is sent, each greeting, and each answer to a hello is counted as sent or as dropped. For each
    kind of channel the statistics, the metrics and the texts that channels took agree. The attempts
    of a transport are its sends that had a channel, by kind; what it dropped are the others, and the
    hellos that it could not answer; and the drops of all transports are the metric's. -/
theorem outbound_books (fresh : b.Fresh) (shares : ∀ tr ∈ b.transports, tr.statistics = σ)
    (new : b.statistics[σ]? = some {})
    (addressed : ∀ t operation, .transport t operation ∈ operations → t < b.transports.length) :
    let past := b.occurrences operations
    let now := b.run operations
    let counts := now.statistics.getD σ {}
    past.countP (·.isSend) + past.countP (·.isGreeting) + past.countP (·.isDirected) +
        past.countP (·.isHello) =
      now.metrics.countP (·.isSent) + now.metrics.countP (·.isOutboundDrop) ∧
    (∀ kind, counts.sent kind = now.metrics.countP (·.isSentOn kind) ∧
      counts.sent kind = (b.framesTaken operations).countP (isTextOn kind)) ∧
    (∀ t < b.transports.length,
      let outbox := (now.transport t).outbox
      (∀ kind, outbox.sent kind = past.countP (·.isAttempt t kind)) ∧
      outbox.dropped = past.countP (·.isLost t) +
        past.countP (fun o => o.transport == t && o.isUnanswered) ∧
      (outbox.sentCounts.map (·.2)).sum + outbox.dropped =
        past.countP (fun o => o.transport == t && o.isSend) +
          past.countP (fun o => o.transport == t && o.isUnanswered)) ∧
    (now.transports.map (·.outbox.dropped)).sum =
      now.counted (.dropped .outbound .noChannel) := by
  intro past now counts
  refine ⟨outgoing_run fresh.trace operations, ?_, ?_, sum_drops_run fresh addressed⟩
  · intro kind
    have owned (o : Occurrence) (mem : o ∈ past) : b.countsIn σ o.transport = true :=
      beq_iff_eq.2 (shares _ (transport_mem (transport_lt_of_mem_occurrences addressed mem)))
    have counted : counts.sent kind = now.metrics.countP (·.isSentOn kind) := by
      rw [sent_run new, countP_metrics_run fresh.trace]
      refine countP_postings_congr fun o mem => ?_
      rw [countP_outbound Posting.isOutbound_of_isSent,
        countP_outbound Posting.isOutbound_of_sentOn]
      exact (outbound o).countP_isSent (owned o mem) kind
    refine ⟨counted, ?_⟩
    rw [countP_framesTaken, counted, countP_metrics_run fresh.trace]
  · intro t present outbox
    have attempts (kind : Kind) : outbox.sent kind = past.countP (·.isAttempt t kind) :=
      attempts_run fresh operations present kind
    have drops : outbox.dropped = past.countP (·.isLost t) +
        past.countP (fun o => o.transport == t && o.isUnanswered) :=
      drops_run fresh operations present
    have sends : (Kind.all.map outbox.sent).sum + past.countP (·.isLost t) =
        past.countP fun o => o.transport == t && o.isSend := by
      have swap := sum_countP_comm (fun kind (o : Occurrence) => o.isAttempt t kind) Kind.all past
      rw [List.map_congr_left fun kind _ => attempts kind, swap, ← sum_map_toNat, ← sum_map_toNat,
        ← List.sum_map_add]
      exact congrArg List.sum (List.map_congr_left fun o _ => countP_isAttempt o t)
    refine ⟨attempts, drops, ?_⟩
    rw [Outbox.sum_sentCounts, drops, ← sends, Nat.add_assoc]

/-- Two endpoints that share their statistics, and a socket with room for two frames. -/
def sharedBooks : Bridge where
  sockets := [{ capacity := 2 }]
  statistics := [{}]
  transports := [.create "a" {} none 0, .create "b" {} none 0]

/-- The first endpoint has a socket, which takes its greeting and an answer, but no more. The second
    one has no channel at all. -/
def mixedSends : List Operation :=
  [.transport 0 (.installSocket 0),
    .transport 0 (.receive (.socket 0) Message.clientHello.encode),
    .transport 0 (.send .hello), .transport 1 (.send .hello),
    .transport 1 (.receive .dataChannel Message.clientHello.encode)]

theorem outbound_books_sharedBooks :
    let past := sharedBooks.occurrences mixedSends
    let now := sharedBooks.run mixedSends
    past.countP (·.isSend) + past.countP (·.isGreeting) + past.countP (·.isDirected) +
        past.countP (·.isHello) = 2 + 3 ∧
      (now.statistics.getD 0 {}).sent .socket = 2 ∧
      (sharedBooks.framesTaken mixedSends).countP (isTextOn .socket) = 2 ∧
      (now.transport 0).outbox.sent .serverHello = 1 ∧
      ((now.transport 1).outbox.sentCounts.map (·.2)).sum + (now.transport 1).outbox.dropped =
        1 + 1 ∧
      (now.transports.map (·.outbox.dropped)).sum = 2 := by
  intro past now
  have fresh : sharedBooks.Fresh := by
    refine ⟨rfl, fun tr mem => ?_⟩
    rcases List.mem_cons.1 mem with rfl | mem
    · exact ⟨_, _, _, _, rfl⟩
    · exact ⟨_, _, _, _, List.mem_singleton.1 mem⟩
  have shares : ∀ tr ∈ sharedBooks.transports, tr.statistics = 0 := by
    intro tr mem
    rcases List.mem_cons.1 mem with rfl | mem
    · rfl
    · rw [List.mem_singleton.1 mem]
      rfl
  have addressed : ∀ t operation, .transport t operation ∈ mixedSends →
      t < sharedBooks.transports.length := by
    intro t operation mem
    simp only [mixedSends, List.mem_cons, List.not_mem_nil, Operation.transport.injEq,
      or_false] at mem
    rcases mem with ⟨rfl, -⟩ | ⟨rfl, -⟩ | ⟨rfl, -⟩ | ⟨rfl, -⟩ | ⟨rfl, -⟩ <;> decide
  obtain ⟨outgoing, sent, outboxes, drops⟩ := outbound_books fresh shares rfl addressed
  obtain ⟨-, -, second⟩ := outboxes 1 (by decide)
  have sentSeries : now.metrics.countP (·.isSent) = 2 := by decide +kernel
  have droppedSeries : now.metrics.countP (·.isOutboundDrop) = 3 := by decide +kernel
  have onSockets : now.metrics.countP (·.isSentOn .socket) = 2 := by decide +kernel
  have noChannel : now.counted (.dropped .outbound .noChannel) = 2 := by decide +kernel
  refine ⟨?_, ?_, ?_, ?_, ?_, ?_⟩
  · rw [sentSeries, droppedSeries] at outgoing
    exact outgoing
  · exact (sent .socket).1.trans onSockets
  · exact (sent .socket).2.symm.trans ((sent .socket).1.trans onSockets)
  · decide +kernel
  · have own : past.countP (fun o => o.transport == 1 && o.isSend) = 1 := by decide +kernel
    have hellos : past.countP (fun o => o.transport == 1 && o.isUnanswered) = 1 := by
      decide +kernel
    rw [own, hellos] at second
    exact second
  · exact drops.trans noChannel

end Bridge

end ControlChannel
