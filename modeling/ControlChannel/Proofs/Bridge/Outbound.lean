import ControlChannel.Proofs.Bridge.Books

/-!
# What is posted about outbound messages

A transport sends a message on the channel that it selects, on a certain channel, as the greeting of
a socket, or as the answer to a hello. What is posted about it has one of a few shapes, and each
book can be counted off from them: the metrics, the statistics, the texts that channels took, the
attempts by kind, and the messages without a channel.
-/

namespace ControlChannel

namespace Metric

/-- A channel took a message. -/
def isSent : Metric → Bool
  | sent _ _ => true
  | _ => false

/-- A channel of this kind took a message. -/
def isSentOn (channel : ChannelKind) : Metric → Bool
  | sent kind _ => kind == channel
  | _ => false

/-- An outbound message was dropped. -/
def isOutboundDrop : Metric → Bool
  | dropped .outbound _ => true
  | _ => false

end Metric

/-- A channel of this kind took a text. -/
def isTextOn (kind : ChannelKind) : Channel × Frame → Bool
  | (channel, .text _) => channel.kind == kind
  | _ => false

namespace Posting

/-- A message without a channel is counted. -/
def isDropped : Posting → Bool
  | dropped _ => true
  | _ => false

theorem attempted_beq (t u : TransportId) (kind other : Kind) :
    (attempted t kind == attempted u other) = (t == u && kind == other) := by
  rw [Bool.eq_iff_iff]
  simp

theorem dropped_beq (t u : TransportId) : (dropped t == dropped u) = (t == u) := by
  rw [Bool.eq_iff_iff]
  simp

/-- The posting is about an outbound message. -/
def isOutbound : Posting → Bool
  | accepted _ (.text _) | sent _ _ | attempted _ _ | dropped _ => true
  | counted metric => metric.isSent || metric.isOutboundDrop
  | _ => false

theorem isOutbound_of_beq {q : Posting} (outbound : q.isOutbound = true) (p : Posting)
    (same : (p == q) = true) : p.isOutbound = true :=
  eq_of_beq same ▸ outbound

theorem isOutbound_of_outgoing (p : Posting)
    (marked : (p.isCounted fun m => m.isSent || m.isOutboundDrop) = true) : p.isOutbound = true := by
  cases p with
  | counted metric => exact marked
  | _ => cases marked

theorem isOutgoing_of_sentOn {kind : ChannelKind} (p : Posting)
    (marked : p.isCounted (·.isSentOn kind) = true) :
    (p.isCounted fun m => m.isSent || m.isOutboundDrop) = true := by
  cases p with
  | counted metric => cases metric <;> first | rfl | cases marked
  | _ => cases marked

theorem isOutbound_of_sentOn {kind : ChannelKind} (p : Posting)
    (marked : p.isCounted (·.isSentOn kind) = true) : p.isOutbound = true :=
  isOutbound_of_outgoing p (isOutgoing_of_sentOn p marked)

theorem isOutbound_of_isSent {owners : TransportId → Bool} {kind : ChannelKind} (p : Posting)
    (marked : p.isSent owners kind = true) : p.isOutbound = true := by
  cases p <;> first | rfl | cases marked

theorem isOutbound_of_text {kind : ChannelKind} (p : Posting)
    (marked : p.isAccepted (isTextOn kind) = true) : p.isOutbound = true := by
  cases p with
  | accepted channel frame => cases frame <;> first | rfl | cases marked
  | _ => cases marked

theorem isOutbound_of_isDropped (p : Posting) (marked : p.isDropped = true) :
    p.isOutbound = true := by
  cases p <;> first | rfl | cases marked

theorem isOutbound_of_noChannel (p : Posting)
    (marked : p.isCounted (· == .dropped .outbound .noChannel) = true) : p.isOutbound = true := by
  cases p with
  | counted metric =>
    obtain rfl : metric = .dropped .outbound .noChannel := eq_of_beq marked
    rfl
  | _ => cases marked

end Posting

namespace Occurrence

/-- A message that is sent, and the channel that is selected for it. -/
def selection? (o : Occurrence) : Option (Option Channel × Message) :=
  match o.operation with
  | .send message => some (o.bridge.activeChannel o.transport, message)
  | .dispatch channel message => some (channel, message)
  | _ => none

/-- A message is sent on the channel that is selected for it, if there is one. -/
def isSend (o : Occurrence) : Bool :=
  o.selection?.isSome

/-- A socket is taken into use, and greeted. -/
def isGreeting (o : Occurrence) : Bool :=
  match o.operation with
  | .installSocket _ => true
  | _ => false

/-- A message is sent on a certain channel. -/
def isDirected (o : Occurrence) : Bool :=
  match o.operation with
  | .sendVia _ _ => true
  | _ => false

/-- A hello is taken, and is to be answered. -/
def isHello (o : Occurrence) : Bool :=
  match o.message? with
  | some .clientHello => true
  | _ => false

/-- A hello came on the data channel, and there is no data channel to answer it on. -/
def isUnanswered (o : Occurrence) : Bool :=
  match o.operation with
  | .receive .dataChannel _ => o.isHello && (o.bridge.liveDataChannel o.transport).isNone
  | _ => false

/-- A message of this kind is sent by this transport, and there is a channel for it. -/
def isAttempt (o : Occurrence) (t : TransportId) (kind : Kind) : Bool :=
  o.transport == t &&
    match o.selection? with
    | some (some _, message) => message.kind == kind
    | _ => false

/-- A message is sent by this transport, and there is no channel for it. -/
def isLost (o : Occurrence) (t : TransportId) : Bool :=
  o.transport == t &&
    match o.selection? with
    | some (none, _) => true
    | _ => false

/-- The messages that something sends without a channel being selected for them: a greeting, a message
    for a certain channel, or the answer to a hello. -/
def others (o : Occurrence) : Nat :=
  o.isGreeting.toNat + o.isDirected.toNat + o.isHello.toNat

end Occurrence

/-- What is posted when a transport sends a message on a channel: that the channel took it, or that
    it did not. -/
inductive Sending (t : TransportId) : List Posting → Prop where
  | taken (channel : Channel) (text : String) (kind : Kind) : Sending t
      [.accepted channel (.text text), .sent t channel.kind, .counted (.sent channel.kind kind)]
  | refused (label : TransportError.Label) :
      Sending t [.counted (.dropped .outbound (.failed label))]

/-- What is posted about outbound messages when something happens. -/
inductive Outbound (o : Occurrence) : List Posting → Prop where
  /-- Nothing is sent. A socket may be given texts directly. -/
  | nothing {posts : List Posting} : o.selection? = none → o.others = 0 →
      (∀ p ∈ posts, ∃ channel text operation, p = .accepted channel (.text text) ∧
        o.operation = .slots operation) → Outbound o posts
  /-- A greeting, an answer, or a message for a certain channel. -/
  | certain {posts : List Posting} :
      o.selection? = none → o.others = 1 → o.isUnanswered = false →
      Sending o.transport posts → Outbound o posts
  | selected {channel : Channel} {message : Message} {posts : List Posting} :
      o.selection? = some (some channel, message) → o.others = 0 → Sending o.transport posts →
      Outbound o (.attempted o.transport message.kind :: posts)
  | unselected {message : Message} :
      o.selection? = some (none, message) → o.others = 0 →
      Outbound o [.dropped o.transport, .counted (.dropped .outbound .noChannel)]
  | unanswered :
      o.selection? = none → o.others = 1 → o.isUnanswered = true →
      Outbound o [.dropped o.transport, .counted (.dropped .outbound .noChannel)]

namespace Bridge

variable {b b' : Bridge} {t : TransportId}

/-! ## What is sent -/

theorem sending (b : Bridge) (t : TransportId) (channel : Channel) (message : Message) :
    Sending t (b.sendPostings t channel message) := by
  unfold sendPostings
  cases b.refusal channel message.encode with
  | none => exact .taken channel _ _
  | some e => exact .refused _

theorem filter_sending {posts : List Posting} (sends : Sending t posts) :
    posts.filter (·.isOutbound) = posts := by
  cases sends <;> rfl

theorem filter_displacePostings (b : Bridge) (t : TransportId) (s : SocketId) :
    (b.displacePostings t s).filter (·.isOutbound) = [] := by
  refine List.filter_eq_nil_iff.2 fun p mem => ?_
  obtain ⟨old, -, -, rfl⟩ := mem_displacePostings mem
  exact Bool.false_ne_true

theorem filter_giveUpPostings (b : Bridge) (t : TransportId) :
    (b.giveUpPostings t).filter (·.isOutbound) = [] := by
  refine List.filter_eq_nil_iff.2 fun p mem => ?_
  obtain ⟨s, -, rfl⟩ := mem_giveUpPostings mem
  exact Bool.false_ne_true

theorem filter_handlePostings (b : Bridge) (t : TransportId) (message : Message) :
    (b.handlePostings t message).filter (·.isOutbound) = [] := by
  cases message <;> rfl

theorem liveDataChannel_markDataChannel (b : Bridge) (t : TransportId) :
    (b.markDataChannel t).liveDataChannel t = b.liveDataChannel t := by
  have slot : ((b.markDataChannel t).transport t).channels.dataChannel =
      (b.transport t).channels.dataChannel := by
    by_cases present : t < b.transports.length
    · rw [markDataChannel, setChannels, transport_updateTransport_eq present, if_pos rfl]
      rfl
    · have same : b.markDataChannel t = b := by
        rw [markDataChannel, setChannels, updateTransport,
          List.modify_eq_self (Nat.not_lt.1 present)]
      rw [same]
  unfold liveDataChannel
  rw [slot]
  rfl

/-- A message that is sent on the channel selected for it. -/
theorem outbound_dispatch {o : Occurrence} {channel : Option Channel} {message : Message}
    (selected : o.selection? = some (channel, message)) (none : o.others = 0) (b : Bridge) :
    Outbound o ((b.dispatchPostings o.transport channel message).filter (·.isOutbound)) := by
  cases channel with
  | none => exact .unselected selected none
  | some channel =>
    have sends := sending b o.transport channel message
    have posted : (b.dispatchPostings o.transport (some channel) message).filter (·.isOutbound) =
        .attempted o.transport message.kind :: (b.sendPostings o.transport channel message).filter
          (·.isOutbound) := rfl
    rw [posted, filter_sending sends]
    exact .selected selected none sends

/-- A text is answered if it is a hello, and in no other case is anything sent because of it. -/
theorem outbound_receive (b : Bridge) (t : TransportId) (source : Source) (text : String) :
    let o : Occurrence := ⟨b, t, .receive source text⟩
    Outbound o (o.postings.filter (·.isOutbound)) := by
  intro o
  have idle (quiet : o.isHello = false) : Outbound o [] :=
    .nothing rfl (by rw [Occurrence.others, quiet]; rfl) (List.forall_mem_nil _)
  rcases postings_receive b t source text with ⟨-, none, posted⟩ |
    ⟨heard, channel, hears, -, ⟨e, -, none, posted⟩ | ⟨message, some, posted⟩⟩
  · rw [posted]
    exact idle (by rw [Occurrence.isHello, none])
  · rw [posted]
    exact idle (by rw [Occurrence.isHello, none])
  · have filtered : o.postings.filter (·.isOutbound) =
        (heard.answerPostings t channel message).filter (·.isOutbound) := by
      rw [posted, List.filter_append, List.filter_append, filter_handlePostings]
      rfl
    rw [filtered, answerPostings]
    cases owed : message.reply? with
    | none =>
      refine idle ?_
      rw [Occurrence.isHello, some]
      cases message <;> first | rfl | cases owed
    | some answer =>
      have hello : o.isHello = true := by
        rw [Occurrence.isHello, some]
        cases message <;> first | rfl | cases owed
      have one : o.others = 1 := by
        rw [Occurrence.others, hello]
        rfl
      cases source with
      | socket s =>
        obtain ⟨marked, -, same⟩ := Option.map_eq_some_iff.1 hears
        cases same
        have sends := sending (marked.countReceived t .socket) t (.socket s) answer
        exact filter_sending sends ▸ .certain rfl one rfl sends
      | dataChannel =>
        cases hears
        rw [liveDataChannel_markDataChannel]
        cases live : b.liveDataChannel t with
        | none =>
          have unanswered : o.isUnanswered = true := by
            simp [o, Occurrence.isUnanswered, live] at hello ⊢
            exact hello
          exact .unanswered rfl one unanswered
        | some d =>
          have answered : o.isUnanswered = false := by
            simp [o, Occurrence.isUnanswered, live]
          have sends := sending ((b.markDataChannel t).countReceived t .dataChannel) t
            (.dataChannel d) answer
          exact filter_sending sends ▸ .certain rfl one answered sends

/-- What something that happens posts about outbound messages. -/
theorem outbound (o : Occurrence) : Outbound o (o.postings.filter (·.isOutbound)) := by
  obtain ⟨b, t, operation⟩ := o
  cases operation with
  | installSocket s =>
    have posted : Occurrence.postings ⟨b, t, .installSocket s⟩ =
      b.displacePostings t s ++ (b.displaceSocket t s).sendPostings t (.socket s) .hello := rfl
    have sends := sending (b.displaceSocket t s) t (.socket s) .hello
    rw [posted, List.filter_append, filter_displacePostings, List.nil_append, filter_sending sends]
    exact .certain rfl rfl rfl sends
  | close =>
    have closings := filter_giveUpPostings b t
    exact closings ▸ .nothing rfl rfl (List.forall_mem_nil _)
  | receive source text => exact outbound_receive b t source text
  | send message => exact outbound_dispatch rfl rfl b
  | slots operation =>
    have quiet {posts : List Posting} (direct : ∀ p ∈ posts, ∃ channel text,
        p = .accepted channel (.text text)) : Outbound ⟨b, t, .slots operation⟩ posts := by
      refine .nothing rfl rfl fun p mem => ?_
      obtain ⟨channel, text, same⟩ := direct p mem
      exact ⟨channel, text, operation, same, rfl⟩
    cases operation with
    | putSocket s greeting =>
      have posted : Occurrence.postings ⟨b, t, .slots (.putSocket s greeting)⟩ =
        b.displacePostings t s ++ (b.displaceSocket t s).greetPostings s greeting := rfl
      rw [posted, List.filter_append, filter_displacePostings, List.nil_append]
      refine quiet fun p mem => ?_
      obtain ⟨text, same⟩ := mem_greetPostings (List.mem_filter.1 mem).1
      exact ⟨_, text, same⟩
    | giveUpSocket =>
      have closings := filter_giveUpPostings b t
      exact closings ▸ quiet (List.forall_mem_nil _)
    | _ => exact quiet (List.forall_mem_nil _)
  | dispatch channel message => exact outbound_dispatch rfl rfl b
  | sendVia channel message =>
    have sends := sending b t channel message
    exact filter_sending sends ▸ .certain rfl rfl rfl sends
  | _ => exact .nothing rfl rfl (List.forall_mem_nil _)

/-! ## What is counted -/

/-- What is about outbound messages only is counted among these postings. -/
theorem countP_outbound {p : Posting → Bool} (only : ∀ post, p post = true → post.isOutbound = true)
    (o : Occurrence) : o.postings.countP p = (o.postings.filter (·.isOutbound)).countP p :=
  countP_of_kept only o.postings

end Bridge

namespace Occurrence

theorem isUnanswered_of_others {o : Occurrence} (none : o.others = 0) : o.isUnanswered = false := by
  have noHello : o.isHello = false := by
    cases hello : o.isHello with
    | false => rfl
    | true =>
      rw [others, hello, Bool.toNat_true] at none
      omega
  unfold isUnanswered
  rw [noHello]
  split <;> rfl

end Occurrence

namespace Outbound

variable {o : Occurrence} {posts : List Posting}

/-- Nothing but frames is posted where nothing is sent. -/
theorem countP_direct {p : Posting → Bool} (apart : ∀ channel frame, p (.accepted channel frame) = false)
    (direct : ∀ post ∈ posts, ∃ channel text operation, post = .accepted channel (.text text) ∧
      o.operation = .slots operation) : posts.countP p = 0 := by
  refine List.countP_eq_zero.2 fun post mem => ?_
  obtain ⟨channel, text, operation, rfl, -⟩ := direct post mem
  rw [apart]
  exact Bool.false_ne_true

/-- Each message that is to be sent is counted once, as sent or as dropped. -/
theorem countP_outgoing (h : Outbound o posts) :
    posts.countP (·.isCounted fun m => m.isSent || m.isOutboundDrop) =
      o.isSend.toNat + o.others := by
  have sent {t : TransportId} {posts : List Posting} (sends : Sending t posts) :
      posts.countP (·.isCounted fun m => m.isSent || m.isOutboundDrop) = 1 := by
    cases sends <;> rfl
  unfold Occurrence.isSend
  cases h with
  | nothing none others direct =>
    rw [countP_direct (fun _ _ => rfl) direct, none, others]
    rfl
  | certain none others _ sends =>
    rw [sent sends, none, others]
    rfl
  | selected selection others sends =>
    rw [List.countP_cons, sent sends, selection, others]
    rfl
  | unselected selection others =>
    rw [selection, others]
    rfl
  | unanswered none others _ =>
    rw [none, others]
    rfl

/-- Messages are counted in the statistics as they are in the metrics. -/
theorem countP_isSent (h : Outbound o posts) {owners : TransportId → Bool}
    (owned : owners o.transport = true) (kind : ChannelKind) :
    posts.countP (·.isSent owners kind) = posts.countP (·.isCounted (·.isSentOn kind)) := by
  have same {posts : List Posting} (sends : Sending o.transport posts) :
      posts.countP (·.isSent owners kind) = posts.countP (·.isCounted (·.isSentOn kind)) := by
    cases sends with
    | taken channel text kind =>
      simp [List.countP_cons, Posting.isSent, Posting.isCounted, Metric.isSentOn, owned]
    | refused label => rfl
  cases h with
  | nothing none others direct =>
    rw [countP_direct (fun _ _ => rfl) direct, countP_direct (fun _ _ => rfl) direct]
  | certain none others _ sends => exact same sends
  | selected selection others sends =>
    rw [List.countP_cons, List.countP_cons, same sends]
    rfl
  | unselected selection others => rfl
  | unanswered none others _ => rfl

/-- Channels take as many texts as are counted in the metrics, those apart that a socket is given
    directly. -/
theorem countP_isText (h : Outbound o posts) (kept : ∀ operation, o.operation ≠ .slots operation)
    (kind : ChannelKind) : posts.countP (·.isAccepted (isTextOn kind)) =
      posts.countP (·.isCounted (·.isSentOn kind)) := by
  have same {posts : List Posting} (sends : Sending o.transport posts) :
      posts.countP (·.isAccepted (isTextOn kind)) =
        posts.countP (·.isCounted (·.isSentOn kind)) := by
    cases sends with
    | taken channel text kind =>
      simp [List.countP_cons, Posting.isAccepted, Posting.isCounted, Metric.isSentOn, isTextOn]
    | refused label => rfl
  cases h with
  | nothing none others direct =>
    cases posts with
    | nil => rfl
    | cons post rest =>
      obtain ⟨-, -, operation, -, slots⟩ := direct post List.mem_cons_self
      exact absurd slots (kept operation)
  | certain none others _ sends => exact same sends
  | selected selection others sends =>
    rw [List.countP_cons, List.countP_cons, same sends]
    rfl
  | unselected selection others => rfl
  | unanswered none others _ => rfl

/-- An attempt is a message that is sent and has a channel. -/
theorem count_attempted (h : Outbound o posts) (t : TransportId) (kind : Kind) :
    posts.count (.attempted t kind) = (o.isAttempt t kind).toNat := by
  have none {posts : List Posting} (sends : Sending o.transport posts) :
      posts.count (.attempted t kind) = 0 := by
    cases sends <;> rfl
  unfold Occurrence.isAttempt
  cases h with
  | nothing none others direct =>
    rw [List.count, countP_direct (fun _ _ => rfl) direct, none, Bool.and_false]
    rfl
  | certain unselected others _ sends =>
    rw [none sends, unselected, Bool.and_false]
    rfl
  | @selected channel message posts selection others sends =>
    rw [List.count_cons, none sends, selection, Posting.attempted_beq]
    cases o.transport == t && message.kind == kind <;> rfl
  | unselected selection others =>
    rw [selection, Bool.and_false]
    rfl
  | unanswered none others _ =>
    rw [none, Bool.and_false]
    rfl

/-- A message without a channel is one that is sent, or a hello that is not answered. -/
theorem count_dropped (h : Outbound o posts) (t : TransportId) :
    posts.count (.dropped t) = (o.isLost t).toNat + (o.transport == t && o.isUnanswered).toNat := by
  have none {posts : List Posting} (sends : Sending o.transport posts) :
      posts.count (.dropped t) = 0 := by
    cases sends <;> rfl
  unfold Occurrence.isLost
  cases h with
  | nothing none others direct =>
    rw [List.count, countP_direct (fun _ _ => rfl) direct, none,
      Occurrence.isUnanswered_of_others others, Bool.and_false]
    rfl
  | certain unselected others answered sends =>
    rw [none sends, unselected, answered, Bool.and_false]
    rfl
  | @selected channel message posts selection others sends =>
    rw [List.count_cons, none sends, selection, Occurrence.isUnanswered_of_others others,
      Bool.and_false]
    rfl
  | unselected selection others =>
    rw [List.count_cons, selection, Occurrence.isUnanswered_of_others others, Posting.dropped_beq]
    cases o.transport == t <;> rfl
  | unanswered none others lost =>
    rw [List.count_cons, none, lost, Posting.dropped_beq]
    cases o.transport == t <;> rfl

/-- Each message without a channel is counted in the metrics. -/
theorem countP_isDropped (h : Outbound o posts) :
    posts.countP (·.isDropped) = posts.countP (·.isCounted (· == .dropped .outbound .noChannel)) := by
  have none {posts : List Posting} (sends : Sending o.transport posts) :
      posts.countP (·.isDropped) = 0 ∧
        posts.countP (·.isCounted (· == .dropped .outbound .noChannel)) = 0 := by
    cases sends with
    | taken channel text kind => exact ⟨rfl, rfl⟩
    | refused label => exact ⟨rfl, rfl⟩
  cases h with
  | nothing unselected others direct =>
    rw [countP_direct (fun _ _ => rfl) direct, countP_direct (fun _ _ => rfl) direct]
  | certain unselected others answered sends => rw [(none sends).1, (none sends).2]
  | selected selection others sends =>
    rw [List.countP_cons, List.countP_cons, (none sends).1, (none sends).2]
    rfl
  | unselected selection others => rfl
  | unanswered unselected others lost => rfl

end Outbound

end ControlChannel
