import ControlChannel.Proofs.Bridge.OutboundBooks

/-!
# The inbound books

Whatever a transport is presented with ends up in one place of the books. A text from a socket that
is not the current one is counted as stale; everything else is counted as received, in the metrics
and in the statistics, and then once more: as not text, as too large, as unreadable, or as handled.
What is handled is counted by its kind, and beside that by its route if it is a message for other
endpoints, and as unhandled if the bridge does nothing with messages of its kind. The books balance
over every run.
-/

namespace ControlChannel

/-- The bridge does nothing with messages of this kind. -/
def Kind.isUnhandled : Kind → Bool
  | serverHello | dominantSpeaker | connectivityStatus | lastNEndpoints | senderVideoConstraints
  | unknown => true
  | _ => false

namespace Metric

/-- A message was received. -/
def isReceived : Metric → Bool
  | received _ => true
  | _ => false

/-- A message was handled. -/
def isHandled : Metric → Bool
  | handled _ => true
  | _ => false

/-- A message for other endpoints was routed. -/
def isRouted : Metric → Bool
  | routed _ => true
  | _ => false

/-- The metric is not about outbound messages. -/
def isInbound : Metric → Bool
  | sent _ _ | dropped .outbound _ => false
  | _ => true

theorem isInbound_of_beq {x : Metric} (inbound : x.isInbound = true) (m : Metric)
    (same : (m == x) = true) : m.isInbound = true :=
  eq_of_beq same ▸ inbound

theorem isInbound_of_isReceived (m : Metric) (marked : m.isReceived = true) :
    m.isInbound = true := by
  cases m <;> first | rfl | cases marked

theorem isInbound_of_isHandled (m : Metric) (marked : m.isHandled = true) : m.isInbound = true := by
  cases m <;> first | rfl | cases marked

theorem isInbound_of_isRouted (m : Metric) (marked : m.isRouted = true) : m.isInbound = true := by
  cases m <;> first | rfl | cases marked

end Metric

namespace Posting

/-- The posting is about what a transport is presented with. -/
def isInbound : Posting → Bool
  | received _ _ => true
  | counted metric => metric.isInbound
  | _ => false

theorem isInbound_of_isCounted {mark : Metric → Bool}
    (only : ∀ m, mark m = true → m.isInbound = true) (p : Posting)
    (marked : p.isCounted mark = true) : p.isInbound = true := by
  cases p with
  | counted metric => exact only metric marked
  | _ => cases marked

theorem isInbound_of_isReceived {owners : TransportId → Bool} {kind : ChannelKind} (p : Posting)
    (marked : p.isReceived owners kind = true) : p.isInbound = true := by
  cases p <;> first | rfl | cases marked

end Posting

namespace Occurrence

/-- Where something comes from that a transport is presented with. -/
def source? (o : Occurrence) : Option Source :=
  match o.operation with
  | .receive source _ => some source
  | .receiveBinary _ => some .dataChannel
  | _ => none

/-- A transport is presented with something from this kind of channel. -/
def presents (o : Occurrence) (kind : ChannelKind) : Bool :=
  o.source?.any (·.kind == kind)

/-- A transport is presented with a text from a socket that is not the current one. -/
def isStale (o : Occurrence) : Bool :=
  o.source?.any fun source => !o.bridge.hears o.transport source

/-- A transport is presented with something from its data channel that is not a text. -/
def isBinary (o : Occurrence) : Bool :=
  match o.operation with
  | .receiveBinary _ => true
  | _ => false

/-- A message on this kind of channel is counted in the statistics, with nothing received. -/
def recounts (o : Occurrence) (kind : ChannelKind) : Bool :=
  match o.operation with
  | .countReceived channel => channel == kind
  | _ => false

end Occurrence

/-- What is posted at the end of a text that was received. -/
inductive Ending : List Posting → Prop where
  | unread {label : TransportError.Label} : label = .tooLarge ∨ label = .decode →
      Ending [.counted (.dropped .inbound (.failed label))]
  | routed (route : Route.Label) :
      Ending [.counted (.routed route), .counted (.handled .endpointMessage)]
  | unhandled {kind : Kind} : kind.isUnhandled = true →
      Ending [.counted (.unhandled kind), .counted (.handled kind)]
  | handled {kind : Kind} : kind ≠ .endpointMessage → kind.isUnhandled = false →
      Ending [.counted (.handled kind)]

/-- What is posted about what a transport is presented with when something happens. -/
inductive Inbound (o : Occurrence) : List Posting → Prop where
  | nothing : o.source? = none → o.isBinary = false → (∀ kind, o.recounts kind = false) →
      Inbound o []
  | recount {kind : ChannelKind} : o.source? = none → o.isBinary = false →
      o.operation = .countReceived kind → Inbound o [.received o.transport kind]
  | binary {length : Nat} : o.operation = .receiveBinary length →
      Inbound o [.received o.transport .dataChannel, .counted (.received .dataChannel)]
  | stale {s : SocketId} {text : String} : o.operation = .receive (.socket s) text →
      o.bridge.hears o.transport (.socket s) = false →
      Inbound o [.counted (.dropped .inbound .staleSocket)]
  | text {source : Source} {text : String} {posts : List Posting} :
      o.operation = .receive source text → o.bridge.hears o.transport source = true →
      Ending posts →
      Inbound o (.received o.transport source.kind :: .counted (.received source.kind) :: posts)

namespace Bridge

variable {b : Bridge} {t : TransportId}

/-! ## What is received -/

theorem filter_isInbound_of_frames {posts : List Posting}
    (frames : ∀ p ∈ posts, ∃ channel frame, p = .accepted channel frame) :
    posts.filter (·.isInbound) = [] := by
  refine List.filter_eq_nil_iff.2 fun p mem => ?_
  obtain ⟨channel, frame, rfl⟩ := frames p mem
  exact Bool.false_ne_true

theorem filter_isInbound_displacePostings (b : Bridge) (t : TransportId) (s : SocketId) :
    (b.displacePostings t s).filter (·.isInbound) = [] := by
  refine filter_isInbound_of_frames fun p mem => ?_
  obtain ⟨old, -, -, rfl⟩ := mem_displacePostings mem
  exact ⟨_, _, rfl⟩

theorem filter_isInbound_giveUpPostings (b : Bridge) (t : TransportId) :
    (b.giveUpPostings t).filter (·.isInbound) = [] := by
  refine filter_isInbound_of_frames fun p mem => ?_
  obtain ⟨s, -, rfl⟩ := mem_giveUpPostings mem
  exact ⟨_, _, rfl⟩

theorem filter_isInbound_sending {posts : List Posting} (sends : Sending t posts) :
    posts.filter (·.isInbound) = [] := by
  cases sends <;> rfl

theorem filter_isInbound_sendPostings (b : Bridge) (t : TransportId) (channel : Channel)
    (message : Message) : (b.sendPostings t channel message).filter (·.isInbound) = [] :=
  filter_isInbound_sending (sending b t channel message)

theorem filter_isInbound_dispatchPostings (b : Bridge) (t : TransportId)
    (channel : Option Channel) (message : Message) :
    (b.dispatchPostings t channel message).filter (·.isInbound) = [] := by
  cases channel with
  | none => rfl
  | some channel => exact filter_isInbound_sendPostings b t channel message

theorem filter_isInbound_replyPostings (b : Bridge) (t : TransportId) (channel : Option Channel)
    (message : Message) : (b.replyPostings t channel message).filter (·.isInbound) = [] := by
  cases channel with
  | none => rfl
  | some channel => exact filter_isInbound_sendPostings b t channel message

theorem label_of_readText {limit : Nat} {text : String} {e : TransportError}
    (unread : readText limit text = .error e) : e.label = .tooLarge ∨ e.label = .decode := by
  unfold readText at unread
  split at unread
  · cases unread
    exact .inl rfl
  · cases decoded : Message.decode text with
    | ok message =>
      rw [decoded] at unread
      cases unread
    | error detail =>
      rw [decoded] at unread
      cases unread
      exact .inr rfl

/-- A message is handled in one of three ways. -/
theorem ending_of_message (b : Bridge) (t : TransportId) (message : Message) :
    Ending (b.handlePostings t message ++ [.counted (.handled message.kind)]) := by
  cases message with
  | endpointMessage m => exact .routed _
  | serverHello version => exact .unhandled rfl
  | dominantSpeaker id => exact .unhandled rfl
  | connectivityStatus id active => exact .unhandled rfl
  | lastNEndpoints ids => exact .unhandled rfl
  | senderVideoConstraints constraints => exact .unhandled rfl
  | unknown => exact .unhandled rfl
  | _ => exact .handled nofun rfl

theorem filter_ending {posts : List Posting} (ends : Ending posts) :
    posts.filter (·.isInbound) = posts := by
  cases ends <;> rfl

/-- A text is stale, or it is received and comes to an end. -/
theorem inbound_receive (b : Bridge) (t : TransportId) (source : Source) (text : String) :
    let o : Occurrence := ⟨b, t, .receive source text⟩
    Inbound o (o.postings.filter (·.isInbound)) := by
  intro o
  rcases postings_receive b t source text with ⟨unheard, -, posted⟩ |
    ⟨heard, channel, -, hears, ⟨e, unread, -, posted⟩ | ⟨message, -, posted⟩⟩
  · cases source with
    | socket s =>
      rw [posted]
      exact .stale rfl unheard
    | dataChannel => cases unheard
  · rw [posted]
    exact .text rfl hears (.unread (label_of_readText unread))
  · have ends := ending_of_message heard t message
    have answered : (heard.answerPostings t channel message).filter (·.isInbound) = [] := by
      unfold answerPostings
      cases message.reply? with
      | none => rfl
      | some answer => exact filter_isInbound_replyPostings heard t channel answer
    have split : o.postings = [.received t source.kind, .counted (.received source.kind)] ++
        (heard.handlePostings t message ++ [.counted (.handled message.kind)] ++
          heard.answerPostings t channel message) := by
      rw [posted, List.append_assoc]
      rfl
    rw [split, List.filter_append, List.filter_append, filter_ending ends, answered,
      List.append_nil]
    exact .text rfl hears ends

/-- What something that happens posts about what a transport is presented with. -/
theorem inbound (o : Occurrence) : Inbound o (o.postings.filter (·.isInbound)) := by
  obtain ⟨b, t, operation⟩ := o
  cases operation with
  | installSocket s =>
    have posted : Occurrence.postings ⟨b, t, .installSocket s⟩ =
      b.displacePostings t s ++ (b.displaceSocket t s).sendPostings t (.socket s) .hello := rfl
    rw [posted, List.filter_append, filter_isInbound_displacePostings,
      filter_isInbound_sendPostings]
    exact .nothing rfl rfl fun _ => rfl
  | close => exact filter_isInbound_giveUpPostings b t ▸ .nothing rfl rfl fun _ => rfl
  | receive source text => exact inbound_receive b t source text
  | receiveBinary length => exact .binary rfl
  | send message => exact filter_isInbound_dispatchPostings b t _ message ▸ .nothing rfl rfl fun _ => rfl
  | slots operation =>
    cases operation with
    | putSocket s greeting =>
      have posted : Occurrence.postings ⟨b, t, .slots (.putSocket s greeting)⟩ =
        b.displacePostings t s ++ (b.displaceSocket t s).greetPostings s greeting := rfl
      have greeted : ((b.displaceSocket t s).greetPostings s greeting).filter (·.isInbound) = [] := by
        refine filter_isInbound_of_frames fun p mem => ?_
        obtain ⟨text, rfl⟩ := mem_greetPostings mem
        exact ⟨_, _, rfl⟩
      rw [posted, List.filter_append, filter_isInbound_displacePostings, greeted]
      exact .nothing rfl rfl fun _ => rfl
    | giveUpSocket => exact filter_isInbound_giveUpPostings b t ▸ .nothing rfl rfl fun _ => rfl
    | _ => exact .nothing rfl rfl fun _ => rfl
  | dispatch channel message =>
    exact filter_isInbound_dispatchPostings b t channel message ▸ .nothing rfl rfl fun _ => rfl
  | sendVia channel message =>
    exact filter_isInbound_sendPostings b t channel message ▸ .nothing rfl rfl fun _ => rfl
  | countReceived channel => exact .recount rfl rfl rfl
  | _ => exact .nothing rfl rfl fun _ => rfl

end Bridge

namespace Inbound

variable {o : Occurrence} {posts : List Posting}

theorem source?_of_receive {source : Source} {text : String}
    (operation : o.operation = .receive source text) :
    o.source? = some source ∧ o.isBinary = false := by
  unfold Occurrence.source? Occurrence.isBinary
  rw [operation]
  exact ⟨rfl, rfl⟩

theorem source?_of_receiveBinary {length : Nat} (operation : o.operation = .receiveBinary length) :
    o.source? = some .dataChannel ∧ o.isBinary = true := by
  unfold Occurrence.source? Occurrence.isBinary
  rw [operation]
  exact ⟨rfl, rfl⟩

/-- What is received is counted once, unless it is stale. -/
theorem countP_received (h : Inbound o posts) (kind : ChannelKind) :
    posts.countP (·.isCounted (· == .received kind)) = (o.presents kind && !o.isStale).toNat := by
  have none {posts : List Posting} (ends : Ending posts) :
      posts.countP (·.isCounted (· == .received kind)) = 0 := by
    cases ends <;> rfl
  unfold Occurrence.presents Occurrence.isStale
  cases h with
  | nothing nowhere _ _ =>
    rw [nowhere]
    rfl
  | recount nowhere _ _ =>
    rw [nowhere]
    rfl
  | binary operation =>
    rw [(source?_of_receiveBinary operation).1]
    cases kind <;> rfl
  | stale operation unheard =>
    rw [(source?_of_receive operation).1, Option.any_some, Option.any_some, unheard]
    cases kind <;> rfl
  | @text source text posts operation hears ends =>
    rw [(source?_of_receive operation).1, Option.any_some, Option.any_some, hears,
      List.countP_cons, List.countP_cons, none ends]
    cases source <;> cases kind <;> rfl

/-- What is stale is counted once, too. -/
theorem countP_stale (h : Inbound o posts) :
    posts.countP (·.isCounted (· == .dropped .inbound .staleSocket)) = o.isStale.toNat := by
  have none {posts : List Posting} (ends : Ending posts) :
      posts.countP (·.isCounted (· == .dropped .inbound .staleSocket)) = 0 := by
    cases ends <;> rfl
  unfold Occurrence.isStale
  cases h with
  | nothing nowhere _ _ =>
    rw [nowhere]
    rfl
  | recount nowhere _ _ =>
    rw [nowhere]
    rfl
  | binary operation =>
    rw [(source?_of_receiveBinary operation).1]
    rfl
  | stale operation unheard =>
    rw [(source?_of_receive operation).1, Option.any_some, unheard]
    rfl
  | text operation hears ends =>
    rw [(source?_of_receive operation).1, Option.any_some, hears, List.countP_cons,
      List.countP_cons, none ends]
    rfl

/-- The statistics count what the metrics count, and what is counted in them alone. -/
theorem countP_isReceived (h : Inbound o posts) {owners : TransportId → Bool}
    (owned : owners o.transport = true) (kind : ChannelKind) :
    posts.countP (·.isReceived owners kind) =
      posts.countP (·.isCounted (· == .received kind)) + (o.recounts kind).toNat := by
  have one (channel : ChannelKind) (rest : List Posting) :
      (Posting.received o.transport channel :: rest).countP (·.isReceived owners kind) =
        rest.countP (·.isReceived owners kind) + (channel == kind).toNat := by
    rw [List.countP_cons, Posting.isReceived, owned, Bool.true_and]
    cases channel == kind <;> rfl
  have none {posts : List Posting} (ends : Ending posts) :
      posts.countP (·.isReceived owners kind) = 0 ∧
        posts.countP (·.isCounted (· == .received kind)) = 0 := by
    cases ends <;> exact ⟨rfl, rfl⟩
  cases h with
  | nothing _ _ noRecount =>
    rw [noRecount]
    rfl
  | recount _ _ operation =>
    rw [Occurrence.recounts, operation, one]
    rfl
  | binary operation =>
    rw [Occurrence.recounts, operation, one]
    cases kind <;> rfl
  | stale operation _ =>
    rw [Occurrence.recounts, operation]
    rfl
  | @text source text posts operation _ ends =>
    rw [Occurrence.recounts, operation, one, List.countP_cons, List.countP_cons,
      List.countP_cons, (none ends).1, (none ends).2]
    cases source <;> cases kind <;> rfl

/-- What is received comes to one end. -/
theorem countP_ends (h : Inbound o posts) :
    posts.countP (·.isCounted (·.isReceived)) =
      o.isBinary.toNat + posts.countP (·.isCounted (· == .dropped .inbound (.failed .tooLarge))) +
        posts.countP (·.isCounted (· == .dropped .inbound (.failed .decode))) + posts.countP (·.isCounted (·.isHandled)) := by
  cases h with
  | nothing _ noBinary _ =>
    rw [noBinary]
    rfl
  | recount _ noBinary _ =>
    rw [noBinary]
    rfl
  | binary operation =>
    rw [(source?_of_receiveBinary operation).2]
    rfl
  | stale operation _ =>
    rw [(source?_of_receive operation).2]
    rfl
  | text operation _ ends =>
    rw [(source?_of_receive operation).2]
    cases ends with
    | unread reason => rcases reason with rfl | rfl <;> rfl
    | routed route => rfl
    | unhandled idle => rfl
    | handled _ _ => rfl

/-- A message for other endpoints is routed when it is handled. -/
theorem countP_routed (h : Inbound o posts) :
    posts.countP (·.isCounted (· == .handled .endpointMessage)) =
      posts.countP (·.isCounted (·.isRouted)) := by
  cases h with
  | nothing _ _ _ => rfl
  | recount _ _ _ => rfl
  | binary _ => rfl
  | stale _ _ => rfl
  | text operation _ ends =>
    cases ends with
    | unread reason => rcases reason with rfl | rfl <;> rfl
    | routed route => rfl
    | @unhandled kind idle => cases kind <;> first | rfl | cases idle
    | @handled kind other _ => cases kind <;> first | rfl | exact absurd rfl other

/-- A message that the bridge does nothing with is counted as such when it is handled. -/
theorem countP_unhandled (h : Inbound o posts) (kind : Kind) :
    posts.countP (·.isCounted (· == .unhandled kind)) =
      if kind.isUnhandled then posts.countP (·.isCounted (· == .handled kind)) else 0 := by
  cases h with
  | text operation _ ends =>
    cases ends with
    | unread reason => cases kind <;> rfl
    | routed route => cases kind <;> rfl
    | @unhandled other idle =>
      by_cases same : other = kind
      · subst same
        rw [if_pos idle]
        cases other <;> rfl
      · simp [Posting.isCounted, same]
    | @handled other _ busy =>
      by_cases same : other = kind
      · subst same
        rw [if_neg (by simp [busy])]
        rfl
      · simp [Posting.isCounted, same]
  | _ => cases kind <;> rfl

end Inbound

namespace Occurrence

/-- A text from a socket is taken or stale; whatever comes from a data channel is taken. -/
theorem presents_eq (o : Occurrence) :
    (o.presents .socket).toNat = (o.presents .socket && !o.isStale).toNat + o.isStale.toNat ∧
      (o.presents .dataChannel).toNat = (o.presents .dataChannel && !o.isStale).toNat := by
  unfold presents isStale
  cases o.source? with
  | none => exact ⟨rfl, rfl⟩
  | some source =>
    cases source with
    | socket s => cases hears : o.bridge.hears o.transport (.socket s) <;> simp [hears, Source.kind]
    | dataChannel => exact ⟨rfl, rfl⟩

end Occurrence

namespace Bridge

variable {b : Bridge} {σ : StatisticsId} {operations : List Operation}

/-- A metric that is not about outbound messages is counted as often as it is posted. -/
theorem countP_metrics_inbound (untouched : b.trace = []) (operations : List Operation)
    {mark : Metric → Bool} (only : ∀ m, mark m = true → m.isInbound = true) :
    (b.run operations).metrics.countP mark = ((b.occurrences operations).map fun o =>
      (o.postings.filter (·.isInbound)).countP (·.isCounted mark)).sum := by
  rw [countP_metrics_run untouched, countP_postings]
  refine congrArg List.sum (List.map_congr_left fun o _ => ?_)
  exact countP_of_kept (Posting.isInbound_of_isCounted only) o.postings

/-- Over every run of transports that share their statistics, the books balance. A text from a socket
    is counted as received if the socket is the current one, and otherwise as stale; what comes from
    a data channel is counted as received. The statistics agree with that. What is received is not
    text, or too large, or unreadable, or handled. Handled messages for other endpoints are those
    that are routed, and of the kinds with which the bridge does nothing each handled message is
    counted as unhandled, and no other one is. -/
theorem inbound_books (untouched : b.trace = []) (shares : ∀ tr ∈ b.transports, tr.statistics = σ)
    (new : b.statistics[σ]? = some {})
    (addressed : ∀ t operation, .transport t operation ∈ operations → t < b.transports.length) :
    let past := b.occurrences operations
    let now := b.run operations
    let counts := now.statistics.getD σ {}
    (past.countP (·.presents .socket) =
        now.counted (.received .socket) + now.counted (.dropped .inbound .staleSocket) ∧
      now.counted (.dropped .inbound .staleSocket) = past.countP (·.isStale) ∧
      past.countP (·.presents .dataChannel) = now.counted (.received .dataChannel)) ∧
    (∀ kind, counts.received kind = now.counted (.received kind) + past.countP (·.recounts kind)) ∧
    (now.metrics.countP (·.isReceived) =
        now.counted (.received .socket) + now.counted (.received .dataChannel) ∧
      now.metrics.countP (·.isReceived) = past.countP (·.isBinary) +
        now.counted (.dropped .inbound (.failed .tooLarge)) +
        now.counted (.dropped .inbound (.failed .decode)) + now.metrics.countP (·.isHandled)) ∧
    now.counted (.handled .endpointMessage) = now.metrics.countP (·.isRouted) ∧
    ∀ kind : Kind,
      now.counted (.unhandled kind) = if kind.isUnhandled then now.counted (.handled kind) else 0 := by
  intro past now counts
  have posted {x : Metric} (only : x.isInbound = true) : now.counted x =
      (past.map fun o => (o.postings.filter (·.isInbound)).countP (·.isCounted (· == x))).sum :=
    countP_metrics_inbound untouched operations (Metric.isInbound_of_beq only)
  have received (kind : ChannelKind) : now.counted (.received kind) =
      past.countP fun o => o.presents kind && !o.isStale := by
    rw [posted rfl, ← sum_map_toNat]
    exact congrArg List.sum (List.map_congr_left fun o _ => (inbound o).countP_received kind)
  have stale : now.counted (.dropped .inbound .staleSocket) = past.countP (·.isStale) := by
    rw [posted rfl, ← sum_map_toNat]
    exact congrArg List.sum (List.map_congr_left fun o _ => (inbound o).countP_stale)
  refine ⟨⟨?_, stale, ?_⟩, ?_, ⟨?_, ?_⟩, ?_, ?_⟩
  · rw [received, stale, ← sum_map_toNat, ← sum_map_toNat, ← sum_map_toNat, ← List.sum_map_add]
    exact congrArg List.sum (List.map_congr_left fun o _ => o.presents_eq.1)
  · rw [received, ← sum_map_toNat, ← sum_map_toNat]
    exact congrArg List.sum (List.map_congr_left fun o _ => o.presents_eq.2)
  · intro kind
    have owned (o : Occurrence) (mem : o ∈ past) : b.countsIn σ o.transport = true :=
      beq_iff_eq.2 (shares _ (transport_mem (transport_lt_of_mem_occurrences addressed mem)))
    rw [received_run new, countP_postings, posted rfl, ← sum_map_toNat, ← List.sum_map_add]
    refine congrArg List.sum (List.map_congr_left fun o mem => ?_)
    rw [countP_of_kept Posting.isInbound_of_isReceived]
    exact (inbound o).countP_isReceived (owned o mem) kind
  · have kinds : now.metrics.countP (·.isReceived) =
        now.metrics.countP (· == .received .socket) +
          now.metrics.countP (· == .received .dataChannel) := by
      rw [← sum_map_toNat, ← sum_map_toNat, ← sum_map_toNat, ← List.sum_map_add]
      refine congrArg List.sum (List.map_congr_left fun m _ => ?_)
      cases m with
      | received channel => cases channel <;> rfl
      | _ => rfl
    exact kinds
  · rw [countP_metrics_inbound untouched operations Metric.isInbound_of_isReceived,
      countP_metrics_inbound untouched operations Metric.isInbound_of_isHandled, posted rfl,
      posted rfl, ← sum_map_toNat, ← List.sum_map_add, ← List.sum_map_add, ← List.sum_map_add]
    exact congrArg List.sum (List.map_congr_left fun o _ => (inbound o).countP_ends)
  · rw [posted rfl, countP_metrics_inbound untouched operations Metric.isInbound_of_isRouted]
    exact congrArg List.sum (List.map_congr_left fun o _ => (inbound o).countP_routed)
  · intro kind
    rw [posted rfl, posted rfl]
    cases idle : kind.isUnhandled with
    | false =>
      have none (o : Occurrence) := (inbound o).countP_unhandled kind
      simp only [idle] at none
      simp [none]
    | true =>
      have each (o : Occurrence) := (inbound o).countP_unhandled kind
      simp only [idle] at each
      exact congrArg List.sum (List.map_congr_left fun o _ => each o)

/-- An endpoint that may send short texts only. -/
def shortTexts : Bridge where
  sockets := [{ capacity := 4 }, { capacity := 4 }]
  statistics := [{}]
  transports := [.create "a" { maxInboundBytes := 48 } none 0]

/-- Its first socket sends a hello, a greeting, a message for others, something unreadable and
    something too long. The second socket is not the current one, and the data channel sends
    something that is not a text. -/
def mixedTexts : List Operation :=
  [.transport 0 (.installSocket 0),
    .transport 0 (.receive (.socket 0) Message.clientHello.encode),
    .transport 0 (.receive (.socket 0) Message.hello.encode),
    .transport 0 (.receive (.socket 0) "\x7b\"colibriClass\":\"EndpointMessage\"\x7d"),
    .transport 0 (.receive (.socket 0) "?"),
    .transport 0 (.receive (.socket 0) "\"a text that is longer than any that is allowed here\""),
    .transport 0 (.receive (.socket 1) Message.clientHello.encode),
    .transport 0 (.receiveBinary 3)]

theorem inbound_books_shortTexts :
    let past := shortTexts.occurrences mixedTexts
    let now := shortTexts.run mixedTexts
    past.countP (·.presents .socket) = 5 + 1 ∧
      (now.statistics.getD 0 {}).received .socket = 5 ∧
      now.metrics.countP (·.isReceived) = 1 + 1 + 1 + 3 ∧
      now.counted (.handled .endpointMessage) = 1 ∧
      now.counted (.unhandled .serverHello) = 1 ∧
      now.counted (.unhandled .clientHello) = 0 := by
  intro past now
  have shares : ∀ tr ∈ shortTexts.transports, tr.statistics = 0 := by
    intro tr mem
    rw [List.mem_singleton.1 mem]
    rfl
  have addressed : ∀ t operation, .transport t operation ∈ mixedTexts →
      t < shortTexts.transports.length := by
    intro t operation mem
    simp only [mixedTexts, List.mem_cons, List.not_mem_nil, Operation.transport.injEq,
      or_false] at mem
    rcases mem with ⟨rfl, -⟩ | ⟨rfl, -⟩ | ⟨rfl, -⟩ | ⟨rfl, -⟩ | ⟨rfl, -⟩ | ⟨rfl, -⟩ | ⟨rfl, -⟩ |
      ⟨rfl, -⟩ <;> decide
  obtain ⟨⟨presented, -, -⟩, statistics, ⟨-, ends⟩, routed, unhandled⟩ :=
    inbound_books rfl shares rfl addressed
  have metrics : now.counted (.received .socket) = 5 ∧
      now.counted (.dropped .inbound .staleSocket) = 1 ∧
      now.counted (.dropped .inbound (.failed .tooLarge)) = 1 ∧
      now.counted (.dropped .inbound (.failed .decode)) = 1 ∧
      now.metrics.countP (·.isHandled) = 3 ∧ now.metrics.countP (·.isRouted) = 1 ∧
      now.counted (.handled .serverHello) = 1 := by
    decide +kernel
  have happened : past.countP (·.recounts .socket) = 0 ∧ past.countP (·.isBinary) = 1 := by
    decide +kernel
  obtain ⟨received, stale, tooLarge, unread, handled, routes, greetings⟩ := metrics
  obtain ⟨recounted, binary⟩ := happened
  have counts := statistics .socket
  rw [received, recounted] at counts
  rw [received, stale] at presented
  rw [binary, tooLarge, unread, handled] at ends
  exact ⟨presented, counts, ends, routed.trans routes, (unhandled .serverHello).trans greetings,
    unhandled .clientHello⟩

end Bridge

end ControlChannel
