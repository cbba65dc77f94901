import ControlChannel.Proofs.Bridge.Work
import Mathlib.Algebra.GroupWithZero.Nat

/-!
# The books

The books of a bridge are the frames that channels took, the metrics that were counted, the
statistics, and the counts of each transport's messages. Each of them grows by exactly what is
posted to it, across each part of a bridge's work and so across whole runs.
-/

namespace ControlChannel

theorem sum_map_toNat {α : Type} (l : List α) (q : α → Bool) :
    (l.map fun a => (q a).toNat).sum = l.countP q := by
  induction l with
  | nil => rfl
  | cons a rest ih =>
    rw [List.map_cons, List.sum_cons, ih, List.countP_cons]
    cases q a
    · exact Nat.zero_add _
    · exact Nat.add_comm _ _

namespace Kind

theorem index_inj {kind other : Kind} (same : kind.index = other.index) : kind = other := by
  have found := all_index kind
  rw [same, all_index] at found
  exact (Option.some.inj found).symm

end Kind

namespace Outbox

theorem sent_eq_getElem (o : Outbox) (kind : Kind) :
    o.sent kind = getElem o.attempts kind.index.val kind.index.isLt := rfl

theorem sent_countAttempt (o : Outbox) (kind other : Kind) :
    (o.countAttempt kind).sent other = o.sent other + if kind = other then 1 else 0 := by
  rw [sent_eq_getElem, sent_eq_getElem o other, countAttempt]
  by_cases same : kind = other
  · subst same
    rw [Vector.getElem_set_self, if_pos rfl, sent_eq_getElem]
  · have apart : kind.index ≠ other.index := fun equal => same (Kind.index_inj equal)
    rw [Vector.getElem_set_ne _ _ (Fin.val_ne_of_ne apart), if_neg same, Nat.add_zero]

end Outbox

namespace Statistics

theorem sent_countSent (s : Statistics) (kind other : ChannelKind) :
    (s.countSent kind).sent other = s.sent other + if kind = other then 1 else 0 := by
  cases kind <;> cases other <;> rfl

theorem received_countReceived (s : Statistics) (kind other : ChannelKind) :
    (s.countReceived kind).received other = s.received other + if kind = other then 1 else 0 := by
  cases kind <;> cases other <;> rfl

theorem received_countSent (s : Statistics) (kind other : ChannelKind) :
    (s.countSent kind).received other = s.received other := by
  cases kind <;> rfl

theorem sent_countReceived (s : Statistics) (kind other : ChannelKind) :
    (s.countReceived kind).sent other = s.sent other := by
  cases kind <;> rfl

end Statistics

namespace Posting

/-- One of the owners sent a message on this kind of channel. -/
def isSent (owners : TransportId → Bool) (kind : ChannelKind) : Posting → Bool
  | sent t channel => owners t && channel == kind
  | _ => false

/-- One of the owners received a message on this kind of channel. -/
def isReceived (owners : TransportId → Bool) (kind : ChannelKind) : Posting → Bool
  | received t channel => owners t && channel == kind
  | _ => false

/-- A metric with this mark was counted. -/
def isCounted (mark : Metric → Bool) : Posting → Bool
  | counted metric => mark metric
  | _ => false

/-- A channel took a frame with this mark. -/
def isAccepted (mark : Channel × Frame → Bool) : Posting → Bool
  | accepted channel frame => mark (channel, frame)
  | _ => false

/-- The posting is written to the trace. -/
def isTraced : Posting → Bool
  | accepted _ _ | counted _ => true
  | _ => false

end Posting

namespace Bridge

/-- The frames that channels took, in order. -/
def frames (b : Bridge) : List (Channel × Frame) :=
  b.trace.filterMap (·.frame?)

/-- The metrics that were counted, in order. -/
def metrics (b : Bridge) : List Metric :=
  b.trace.filterMap (·.metric?)

/-- How often a metric was counted. -/
def counted (b : Bridge) (metric : Metric) : Nat :=
  b.metrics.count metric

/-- A transport counts in these statistics. -/
def countsIn (b : Bridge) (σ : StatisticsId) (t : TransportId) : Bool :=
  (b.transport t).statistics == σ

/-- From one state of a bridge to another, the books grow by these postings. -/
structure Booked (b : Bridge) (posts : List Posting) (b' : Bridge) : Prop where
  owners : ∀ t, (b'.transport t).statistics = (b.transport t).statistics
  length_transports : b'.transports.length = b.transports.length
  length_statistics : b'.statistics.length = b.statistics.length
  frames : b'.frames = b.frames ++ posts.filterMap (·.frame?)
  metrics : b'.metrics.Perm (b.metrics ++ posts.filterMap (·.metric?))
  sent : ∀ σ < b.statistics.length, ∀ kind, (b'.statistics.getD σ {}).sent kind =
    (b.statistics.getD σ {}).sent kind + posts.countP (·.isSent (b.countsIn σ) kind)
  received : ∀ σ < b.statistics.length, ∀ kind, (b'.statistics.getD σ {}).received kind =
    (b.statistics.getD σ {}).received kind + posts.countP (·.isReceived (b.countsIn σ) kind)
  attempted : ∀ t < b.transports.length, ∀ kind, (b'.transport t).outbox.sent kind =
    (b.transport t).outbox.sent kind + posts.count (.attempted t kind)
  dropped : ∀ t < b.transports.length, (b'.transport t).outbox.dropped =
    (b.transport t).outbox.dropped + posts.count (.dropped t)

variable {b b' b'' : Bridge} {t : TransportId} {posts more : List Posting}

/-! ## Parts of the books -/

/-- What a change of one transport keeps of it is kept of every one. -/
theorem transport_updateTransport_keeps {α : Type} (part : Transport → α)
    {f : Transport → Transport} (keeps : ∀ tr, part (f tr) = part tr) (b : Bridge)
    (t u : TransportId) : part ((b.updateTransport t f).transport u) = part (b.transport u) := by
  unfold updateTransport transport
  dsimp only
  rw [List.getD_eq_getElem?_getD, List.getD_eq_getElem?_getD, List.getElem?_modify]
  cases b.transports[u]? with
  | none => rfl
  | some tr =>
    by_cases here : t = u
    · simp [here, keeps]
    · simp [here]

theorem transport_updateTransport_eq {u : TransportId} (present : u < b.transports.length)
    (t : TransportId) (f : Transport → Transport) : (b.updateTransport t f).transport u =
      if t = u then f (b.transport u) else b.transport u := by
  unfold updateTransport transport
  dsimp only
  rw [List.getD_eq_getElem?_getD, List.getD_eq_getElem?_getD, List.getElem?_modify,
    List.getElem?_eq_getElem present]
  split <;> rfl

theorem statistics_updateStatistics {σ : StatisticsId} (present : σ < b.statistics.length)
    (t : TransportId) (f : Statistics → Statistics) :
    (b.updateStatistics t f).statistics.getD σ {} =
      if b.countsIn σ t then f (b.statistics.getD σ {}) else b.statistics.getD σ {} := by
  unfold updateStatistics countsIn
  dsimp only
  rw [List.getD_eq_getElem?_getD, List.getD_eq_getElem?_getD, List.getElem?_modify,
    List.getElem?_eq_getElem present]
  by_cases owner : (b.transport t).statistics = σ
  · simp [owner]
  · simp [owner]

theorem frames_emit (b : Bridge) (e : Event) : (b.emit e).frames = b.frames ++ e.frame?.toList := by
  rw [frames, emit, List.filterMap_append, frames]
  cases found : e.frame? <;> simp [found]

theorem metrics_emit (b : Bridge) (e : Event) :
    (b.emit e).metrics = b.metrics ++ e.metric?.toList := by
  rw [metrics, emit, List.filterMap_append, metrics]
  cases found : e.metric? <;> simp [found]

namespace Booked

theorem trans (first : Booked b posts b') (second : Booked b' more b'') :
    Booked b (posts ++ more) b'' where
  owners t := (second.owners t).trans (first.owners t)
  length_transports := second.length_transports.trans first.length_transports
  length_statistics := second.length_statistics.trans first.length_statistics
  frames := by rw [second.frames, first.frames, List.filterMap_append, List.append_assoc]
  metrics := by
    rw [List.filterMap_append, ← List.append_assoc]
    exact second.metrics.trans (first.metrics.append_right _)
  sent σ present kind := by
    have owners : b'.countsIn σ = b.countsIn σ := by
      funext t
      rw [countsIn, first.owners, countsIn]
    rw [second.sent σ (first.length_statistics ▸ present), first.sent σ present, owners,
      List.countP_append, Nat.add_assoc]
  received σ present kind := by
    have owners : b'.countsIn σ = b.countsIn σ := by
      funext t
      rw [countsIn, first.owners, countsIn]
    rw [second.received σ (first.length_statistics ▸ present), first.received σ present, owners,
      List.countP_append, Nat.add_assoc]
  attempted t present kind := by
    rw [second.attempted t (first.length_transports ▸ present), first.attempted t present,
      List.count_append, Nat.add_assoc]
  dropped t present := by
    rw [second.dropped t (first.length_transports ▸ present), first.dropped t present,
      List.count_append, Nat.add_assoc]

/-- The order of the postings does not matter, that of the frames apart. -/
theorem of_perm (booked : Booked b posts b') (order : posts.Perm more)
    (frames : posts.filterMap (·.frame?) = more.filterMap (·.frame?)) : Booked b more b' where
  owners := booked.owners
  length_transports := booked.length_transports
  length_statistics := booked.length_statistics
  frames := frames ▸ booked.frames
  metrics := booked.metrics.trans ((order.filterMap _).append_left _)
  sent σ present kind := order.countP_eq _ ▸ booked.sent σ present kind
  received σ present kind := order.countP_eq _ ▸ booked.received σ present kind
  attempted t present kind := order.count_eq _ ▸ booked.attempted t present kind
  dropped t present := order.count_eq _ ▸ booked.dropped t present

/-- What is posted is only what is written to the trace. -/
theorem of_traced (traced : ∀ p ∈ posts, p.isTraced = true)
    (owners : ∀ t, (b'.transport t).statistics = (b.transport t).statistics)
    (outboxes : ∀ t, (b'.transport t).outbox = (b.transport t).outbox)
    (transports : b'.transports.length = b.transports.length)
    (statistics : b'.statistics = b.statistics)
    (frames : b'.frames = b.frames ++ posts.filterMap (·.frame?))
    (metrics : b'.metrics = b.metrics ++ posts.filterMap (·.metric?)) : Booked b posts b' := by
  have none {p : Posting → Bool} (apart : ∀ post, post.isTraced = true → p post = false) :
      posts.countP p = 0 :=
    List.countP_eq_zero.2 fun post mem => by simp [apart post (traced post mem)]
  have absent {post : Posting} (untraced : post.isTraced = false) : posts.count post = 0 :=
    List.count_eq_zero.2 fun mem => by simp [traced post mem] at untraced
  refine ⟨owners, transports, by rw [statistics], frames, metrics ▸ .refl _, ?_, ?_, ?_, ?_⟩
  · intro σ _ kind
    rw [statistics, none (by rintro (_ | _ | _ | _ | _ | _) <;> simp [Posting.isTraced, Posting.isSent])]
    rfl
  · intro σ _ kind
    rw [statistics, none (by rintro (_ | _ | _ | _ | _ | _) <;> simp [Posting.isTraced, Posting.isReceived])]
    rfl
  · intro t _ kind
    rw [outboxes, absent rfl, Nat.add_zero]
  · intro t _
    rw [outboxes, absent rfl, Nat.add_zero]

/-- The transports and the statistics stay as they are. -/
theorem of_elsewhere (traced : ∀ p ∈ posts, p.isTraced = true)
    (transports : b'.transports = b.transports) (statistics : b'.statistics = b.statistics)
    (frames : b'.frames = b.frames ++ posts.filterMap (·.frame?))
    (metrics : b'.metrics = b.metrics ++ posts.filterMap (·.metric?)) : Booked b posts b' := by
  have same (t : TransportId) : b'.transport t = b.transport t := by
    rw [transport, transports, transport]
  refine of_traced traced ?_ ?_ (congrArg List.length transports) statistics frames metrics
  · intro t
    rw [same]
  · intro t
    rw [same]

/-- One event is written, and posted if it has to be. -/
theorem emit (b : Bridge) {e : Event} (traced : ∀ p ∈ posts, p.isTraced = true)
    (frame : e.frame?.toList = posts.filterMap (·.frame?))
    (metric : e.metric?.toList = posts.filterMap (·.metric?)) : Booked b posts (b.emit e) :=
  of_elsewhere traced rfl rfl (frame ▸ frames_emit b e) (metric ▸ metrics_emit b e)

/-- Nothing is posted, and nothing is written to the books. -/
theorem of_quiet (transports : b'.transports = b.transports)
    (statistics : b'.statistics = b.statistics) (trace : b'.trace = b.trace) : Booked b [] b' := by
  refine of_elsewhere (List.forall_mem_nil _) transports statistics ?_ ?_
  · rw [Bridge.frames, trace]
    exact (List.append_nil _).symm
  · rw [Bridge.metrics, trace]
    exact (List.append_nil _).symm

theorem setSocket (b : Bridge) (s : SocketId) (state : Socket) : Booked b [] (b.setSocket s state) :=
  of_quiet rfl rfl rfl

/-- One transport changes, but nothing of it that is in the books. -/
theorem update {f : Transport → Transport} (b : Bridge) (t : TransportId)
    (outbox : ∀ tr, (f tr).outbox = tr.outbox) (owner : ∀ tr, (f tr).statistics = tr.statistics) :
    Booked b [] (b.updateTransport t f) :=
  of_traced (List.forall_mem_nil _)
    (transport_updateTransport_keeps (·.statistics) owner b t)
    (transport_updateTransport_keeps (·.outbox) outbox b t) (List.length_modify ..) rfl
    (List.append_nil _).symm (List.append_nil _).symm

/-- The statistics of a transport change. -/
theorem updateStatistics {f : Statistics → Statistics} {p : Posting} (b : Bridge)
    (t : TransportId) (frame : p.frame? = none) (metric : p.metric? = none)
    (attempted : ∀ u kind, p ≠ .attempted u kind) (dropped : ∀ u, p ≠ .dropped u)
    (sent : ∀ s owners kind, (if owners t then f s else s).sent kind =
      s.sent kind + if p.isSent owners kind then 1 else 0)
    (received : ∀ s owners kind, (if owners t then f s else s).received kind =
      s.received kind + if p.isReceived owners kind then 1 else 0) :
    Booked b [p] (b.updateStatistics t f) where
  owners _ := rfl
  length_transports := rfl
  length_statistics := List.length_modify ..
  frames := by
    rw [List.filterMap_cons_none frame]
    exact (List.append_nil _).symm
  metrics := by
    rw [List.filterMap_cons_none metric, List.filterMap_nil, List.append_nil]
    exact .refl _
  sent σ present kind := by
    rw [statistics_updateStatistics present, sent, List.countP_singleton]
  received σ present kind := by
    rw [statistics_updateStatistics present, received, List.countP_singleton]
  attempted u _ kind := by
    rw [List.count_singleton, if_neg (by simpa using attempted u kind)]
    rfl
  dropped u _ := by
    rw [List.count_singleton, if_neg (by simpa using dropped u)]
    rfl

theorem countSent (b : Bridge) (t : TransportId) (channel : ChannelKind) :
    Booked b [.sent t channel] (b.updateStatistics t (·.countSent channel)) := by
  refine updateStatistics b t rfl rfl (fun _ _ => nofun) (fun _ => nofun) ?_ ?_
  · intro s owners kind
    cases owner : owners t <;> simp [Posting.isSent, owner, Statistics.sent_countSent]
  · intro s owners kind
    cases owner : owners t <;> simp [Posting.isReceived, Statistics.received_countSent]

theorem countReceived (b : Bridge) (t : TransportId) (channel : ChannelKind) :
    Booked b [.received t channel] (b.updateStatistics t (·.countReceived channel)) := by
  refine updateStatistics b t rfl rfl (fun _ _ => nofun) (fun _ => nofun) ?_ ?_
  · intro s owners kind
    cases owner : owners t <;> simp [Posting.isSent, Statistics.sent_countReceived]
  · intro s owners kind
    cases owner : owners t <;>
      simp [Posting.isReceived, owner, Statistics.received_countReceived]

/-- The outbox of a transport changes. -/
theorem updateOutbox {f : Outbox → Outbox} {p : Posting} (b : Bridge) (t : TransportId)
    (frame : p.frame? = none) (metric : p.metric? = none)
    (sent : ∀ owners kind, p.isSent owners kind = false)
    (received : ∀ owners kind, p.isReceived owners kind = false)
    (attempted : ∀ o u kind, (if t = u then f o else o).sent kind =
      o.sent kind + if p = .attempted u kind then 1 else 0)
    (dropped : ∀ o u, (if t = u then f o else o).dropped =
      o.dropped + if p = .dropped u then 1 else 0) :
    Booked b [p] (b.updateTransport t fun tr => { tr with outbox := f tr.outbox }) where
  owners := transport_updateTransport_keeps (f := fun tr => { tr with outbox := f tr.outbox })
    (·.statistics) (fun _ => rfl) b t
  length_transports := List.length_modify ..
  length_statistics := rfl
  frames := by
    rw [List.filterMap_cons_none frame]
    exact (List.append_nil _).symm
  metrics := by
    rw [List.filterMap_cons_none metric, List.filterMap_nil, List.append_nil]
    exact .refl _
  sent σ present kind := by
    rw [List.countP_singleton, sent]
    rfl
  received σ present kind := by
    rw [List.countP_singleton, received]
    rfl
  attempted u present kind := by
    have after := attempted (b.transport u).outbox u kind
    rw [transport_updateTransport_eq present, List.count_singleton]
    simp only [beq_iff_eq]
    rw [← after]
    split <;> rfl
  dropped u present := by
    have after := dropped (b.transport u).outbox u
    rw [transport_updateTransport_eq present, List.count_singleton]
    simp only [beq_iff_eq]
    rw [← after]
    split <;> rfl

theorem countAttempt (b : Bridge) (t : TransportId) (kind : Kind) :
    Booked b [.attempted t kind]
      (b.updateTransport t fun tr => { tr with outbox := tr.outbox.countAttempt kind }) := by
  refine updateOutbox (f := (·.countAttempt kind)) b t rfl rfl (fun _ _ => rfl) (fun _ _ => rfl)
    ?_ ?_
  · intro o u other
    by_cases here : t = u <;> simp [here, Outbox.sent_countAttempt]
  · intro o u
    split <;> simp [Outbox.countAttempt]

theorem countDropped (b : Bridge) (t : TransportId) :
    Booked b [.dropped t]
      (b.updateTransport t fun tr => { tr with outbox := tr.outbox.countDropped }) := by
  refine updateOutbox (f := (·.countDropped)) b t rfl rfl (fun _ _ => rfl) (fun _ _ => rfl) ?_ ?_
  · intro o u kind
    split <;> simp [Outbox.countDropped, Outbox.sent]
  · intro o u
    by_cases here : t = u <;> simp [here, Outbox.countDropped]

theorem closeSession (b : Bridge) (s : SocketId) (status : UInt16) (reason : String) :
    Booked b (b.closePostings s status reason) (b.closeSession s status reason) := by
  unfold closePostings Bridge.closeSession
  cases closed : (b.socket s).close status reason with
  | mk state closing =>
    have put := setSocket b s state
    cases closing with
    | already => exact put
    | queued => exact put.trans (emit _ (by simp [Posting.isTraced]) rfl rfl)
    | unqueued e => exact put.trans (emit _ (List.forall_mem_nil _) rfl rfl)

end Booked

/-- Work grows the books by what it posts. -/
theorem Work.booked (done : Work t b posts b') : Booked b posts b' := by
  induction done with
  | refl b => exact .of_quiet rfl rfl rfl
  | trans _ _ first second => exact first.trans second
  | note b unbooked =>
    refine .emit b (List.forall_mem_nil _) ?_ ?_
    · cases ‹Event› <;> first | rfl | cases unbooked
    · cases ‹Event› <;> first | rfl | cases unbooked
  | count b metric => exact .emit b (by simp [Posting.isTraced]) rfl rfl
  | update b outbox owner => exact .update b t outbox owner
  | attach b d state => exact .of_quiet rfl rfl rfl
  | make b created => exact .of_quiet rfl rfl rfl
  | countSent b channel => exact .countSent b t channel
  | countReceived b channel => exact .countReceived b t channel
  | countAttempt b kind => exact .countAttempt b t kind
  | countDropped b => exact .countDropped b t
  | @queue b s text state sent =>
    exact (Booked.setSocket b s state).trans (.emit _ (by simp [Posting.isTraced]) rfl rfl)
  | pass b text accepted => exact .emit b (by simp [Posting.isTraced]) rfl rfl
  | shut b s status reason => exact .closeSession b s status reason

/-! ## Whole runs -/

/-- What is posted by one step. -/
def stepPostings (b : Bridge) (operation : Operation) : List Posting :=
  b.directPostings operation ++ postings (b.stepOccurrences operation)

/-- What is posted by a run. -/
def runPostings (b : Bridge) : List Operation → List Posting
  | [] => []
  | operation :: rest => b.stepPostings operation ++ (b.step operation).2.runPostings rest

/-- What is done to no transport. -/
theorem booked_of_no_occasion {operation : Operation} (outside : b.occasion? operation = none) :
    Booked b (b.directPostings operation) (b.step operation).2 := by
  rcases step_of_no_occasion outside with done | ⟨none, s, state, -, moved⟩ |
    ⟨none, channels, conferences, moved⟩
  · exact done.booked
  · rw [none, moved]
    exact .setSocket b s state
  · rw [none, moved]
    exact .of_quiet rfl rfl rfl

theorem booked_step (b : Bridge) (operation : Operation) :
    Booked b (b.stepPostings operation) (b.step operation).2 := by
  unfold stepPostings
  cases occasion : b.occasion? operation with
  | some found =>
    obtain ⟨t, asked⟩ := found
    obtain ⟨posts, done, order, frames⟩ := worked_of_occasion occasion
    rw [directPostings_of_occasion occasion]
    exact done.booked.of_perm order frames
  | none =>
    have nothing : b.stepOccurrences operation = [] := by rw [stepOccurrences, occasion]
    have moved : Booked b (b.directPostings operation) (b.step operation).2 :=
      booked_of_no_occasion occasion
    rw [nothing]
    exact moved.trans (.of_quiet rfl rfl rfl)

theorem booked_run (b : Bridge) (operations : List Operation) :
    Booked b (b.runPostings operations) (b.run operations) := by
  induction operations generalizing b with
  | nil => exact .of_quiet rfl rfl rfl
  | cons operation rest ih => exact (booked_step b operation).trans (ih _)

/-! ## Counting postings -/

theorem postings_append (past more : List Occurrence) :
    postings (past ++ more) = postings past ++ postings more :=
  List.flatMap_append

theorem mem_closePostings {s : SocketId} {status : UInt16} {reason : String} {p : Posting}
    (mem : p ∈ b.closePostings s status reason) :
    p = .accepted (.socket s) (.close status reason) := by
  unfold closePostings at mem
  cases closed : ((b.socket s).close status reason).2 with
  | queued =>
    rw [closed] at mem
    exact List.mem_singleton.1 mem
  | _ =>
    rw [closed] at mem
    cases mem

theorem mem_displacePostings {s : SocketId} {p : Posting} (mem : p ∈ b.displacePostings t s) :
    ∃ old, b.currentSocket t = some old ∧ old ≠ s ∧
      p = .accepted (.socket old) (.close replacedStatus.1 replacedStatus.2) := by
  unfold displacePostings at mem
  cases current : b.currentSocket t with
  | none =>
    rw [current] at mem
    cases mem
  | some old =>
    rw [current] at mem
    dsimp only at mem
    split at mem
    · cases mem
    · rename_i other
      exact ⟨old, rfl, other, mem_closePostings mem⟩

theorem mem_giveUpPostings {p : Posting} (mem : p ∈ b.giveUpPostings t) :
    ∃ s, b.currentSocket t = some s ∧
      p = .accepted (.socket s) (.close goneStatus.1 goneStatus.2) := by
  unfold giveUpPostings at mem
  cases current : b.currentSocket t with
  | none =>
    rw [current] at mem
    cases mem
  | some s =>
    rw [current] at mem
    exact ⟨s, rfl, mem_closePostings mem⟩

theorem mem_greetPostings {s : SocketId} {greeting : Option String} {p : Posting}
    (mem : p ∈ b.greetPostings s greeting) : ∃ text, p = .accepted (.socket s) (.text text) := by
  unfold greetPostings at mem
  split at mem
  · split at mem
    · exact ⟨_, List.mem_singleton.1 mem⟩
    · cases mem
  · cases mem

section

variable {p : Posting → Bool} (apart : ∀ channel frame, p (.accepted channel frame) = false)

include apart

/-- What is done to a socket directly is posted only where the frames are. -/
theorem countP_directPostings (b : Bridge) (operation : Operation) :
    (b.directPostings operation).countP p = 0 := by
  refine List.countP_eq_zero.2 fun post mem => ?_
  cases operation with
  | sendText s text =>
    simp only [directPostings, greetPostings] at mem
    split at mem
    · rw [List.mem_singleton.1 mem, apart]
      exact Bool.false_ne_true
    · cases mem
  | closeSession s status reason =>
    rw [mem_closePostings mem, apart]
    exact Bool.false_ne_true
  | _ => cases mem

theorem countP_runPostings (b : Bridge) (operations : List Operation) :
    (b.runPostings operations).countP p = (postings (b.occurrences operations)).countP p := by
  induction operations generalizing b with
  | nil => rfl
  | cons operation rest ih =>
    rw [runPostings, stepPostings, occurrences, postings_append, List.countP_append,
      List.countP_append, List.countP_append, countP_directPostings apart, ih, Nat.zero_add]

end

/-- What has a mark is counted among what is kept if all of it is kept. -/
theorem countP_of_kept {p keep : Posting → Bool}
    (kept : ∀ post, p post = true → keep post = true) (posts : List Posting) :
    posts.countP p = (posts.filter keep).countP p := by
  rw [List.countP_filter]
  congr 1
  funext post
  cases marked : p post with
  | false => rfl
  | true => rw [kept post marked, Bool.and_true]

theorem countP_postings (past : List Occurrence) (p : Posting → Bool) :
    (postings past).countP p = (past.map fun o => o.postings.countP p).sum :=
  List.countP_flatMap ..

theorem countP_postings_eq {p : Posting → Bool} {q : Occurrence → Bool} {past : List Occurrence}
    (each : ∀ o ∈ past, o.postings.countP p = (q o).toNat) :
    (postings past).countP p = past.countP q := by
  rw [countP_postings, ← sum_map_toNat, List.map_congr_left each]

theorem countP_postings_congr {p q : Posting → Bool} {past : List Occurrence}
    (each : ∀ o ∈ past, o.postings.countP p = o.postings.countP q) :
    (postings past).countP p = (postings past).countP q := by
  rw [countP_postings, countP_postings, List.map_congr_left each]

theorem countP_isCounted (posts : List Posting) (mark : Metric → Bool) :
    posts.countP (·.isCounted mark) = (posts.filterMap (·.metric?)).countP mark := by
  rw [List.countP_filterMap]
  congr 1
  funext p
  cases p <;> rfl

theorem countP_isAccepted (posts : List Posting) (mark : Channel × Frame → Bool) :
    posts.countP (·.isAccepted mark) = (posts.filterMap (·.frame?)).countP mark := by
  rw [List.countP_filterMap]
  congr 1
  funext p
  cases p <;> rfl

/-! ## The books after a run -/

/-- A transport that was not dropped is there. -/
theorem transport_lt_of_live (live : b.isLive t = true) : t < b.transports.length := by
  refine Nat.lt_of_not_le fun missing => ?_
  rw [isLive, transport, List.getD_eq_getElem?_getD, List.getElem?_eq_none missing] at live
  cases live

/-- Every transport that something happens to is there. -/
theorem transport_lt_of_mem_occurrences {operations : List Operation} {o : Occurrence}
    (addressed : ∀ t operation, .transport t operation ∈ operations → t < b.transports.length)
    (mem : o ∈ b.occurrences operations) : o.transport < b.transports.length := by
  induction operations generalizing b with
  | nil => cases mem
  | cons operation rest ih =>
    rcases List.mem_append.1 mem with now | later
    · obtain ⟨asked, occasion, -⟩ := of_mem_stepOccurrences now
      rcases occasion_cases occasion with rfl | ⟨live, -⟩
      · exact addressed _ _ List.mem_cons_self
      · exact transport_lt_of_live live
    · have kept := (booked_step b operation).length_transports
      rw [← kept]
      refine ih (fun t operation listed => ?_) later
      rw [kept]
      exact addressed t operation (List.mem_cons_of_mem _ listed)

theorem countP_metrics_run (untouched : b.trace = []) (operations : List Operation)
    (mark : Metric → Bool) : (b.run operations).metrics.countP mark =
      (postings (b.occurrences operations)).countP (·.isCounted mark) := by
  have booked := (booked_run b operations).metrics
  have none : b.metrics = [] := by rw [Bridge.metrics, untouched, List.filterMap_nil]
  rw [none, List.nil_append] at booked
  rw [booked.countP_eq, ← countP_isCounted, countP_runPostings fun _ _ => rfl]

section

variable {σ : StatisticsId} (new : b.statistics[σ]? = some {}) (operations : List Operation)
  (kind : ChannelKind)

include new

theorem sent_run : ((b.run operations).statistics.getD σ {}).sent kind =
    (postings (b.occurrences operations)).countP (·.isSent (b.countsIn σ) kind) := by
  obtain ⟨present, -⟩ := List.getElem?_eq_some_iff.1 new
  rw [(booked_run b operations).sent σ present, List.getD_eq_getElem?_getD, new,
    countP_runPostings fun _ _ => rfl]
  cases kind <;> exact Nat.zero_add _

theorem received_run : ((b.run operations).statistics.getD σ {}).received kind =
    (postings (b.occurrences operations)).countP (·.isReceived (b.countsIn σ) kind) := by
  obtain ⟨present, -⟩ := List.getElem?_eq_some_iff.1 new
  rw [(booked_run b operations).received σ present, List.getD_eq_getElem?_getD, new,
    countP_runPostings fun _ _ => rfl]
  cases kind <;> exact Nat.zero_add _

end

/-! ## The postings of a text -/

/-- What is posted for the answer that a message is owed, if it is owed one. -/
def answerPostings (b : Bridge) (t : TransportId) (channel : Option Channel) (message : Message) :
    List Posting :=
  match message.reply? with
  | some answer => b.replyPostings t channel answer
  | none => []

/-- What is posted for a text: it is from a socket that is not the current one; or it cannot be read;
    or it is a message, which is handled, and answered if it is a hello. -/
theorem postings_receive (b : Bridge) (t : TransportId) (source : Source) (text : String) :
    let o : Occurrence := ⟨b, t, .receive source text⟩
    let received : List Posting := [.received t source.kind, .counted (.received source.kind)]
    (b.hears t source = false ∧ o.message? = none ∧
      o.postings = [.counted (.dropped .inbound .staleSocket)]) ∨
    ∃ heard channel, b.hear t source = some (heard, channel) ∧ b.hears t source = true ∧
      ((∃ e, readText (heard.transport t).config.maxInboundBytes text = .error e ∧
        o.message? = none ∧
          o.postings = received ++ [.counted (.dropped .inbound (.failed e.label))]) ∨
      ∃ message, o.message? = some message ∧
        o.postings = received ++ (heard.handlePostings t message ++
          .counted (.handled message.kind) :: heard.answerPostings t channel message)) := by
  intro o received
  have posted : o.postings = b.receivePostings t source text := rfl
  unfold receivePostings at posted
  cases hear : b.hear t source with
  | none =>
    rw [hear] at posted
    obtain ⟨s, rfl, other⟩ := hear_eq_none hear
    have unheard : b.hears t (.socket s) = false := beq_false_of_ne other
    exact .inl ⟨unheard, by simp [o, Occurrence.message?, unheard], posted⟩
  | some found =>
    obtain ⟨heard, channel⟩ := found
    rw [hear] at posted
    obtain ⟨hears, -, kept, moved⟩ := hear_eq_some text hear
    have limit : (heard.transport t).config = (b.transport t).config := by rw [moved]
    have taken : o.message? =
        (readText (heard.transport t).config.maxInboundBytes text).toOption := by
      simp [o, Occurrence.message?, hears, limit]
    refine .inr ⟨heard, channel, rfl, hears, ?_⟩
    unfold textPostings at posted
    dsimp only at posted
    cases read : readText (heard.transport t).config.maxInboundBytes text with
    | error e =>
      rw [read] at posted taken
      exact .inl ⟨e, rfl, taken, posted⟩
    | ok message =>
      rw [read] at posted taken
      exact .inr ⟨message, taken, posted⟩

end Bridge

end ControlChannel
