import ControlChannel.Proofs.Bridge.InboundBooks
import ControlChannel.Proofs.Constraint.Wishes

/-!
# The series that are counted

The labels of every series are words of short fixed lists, so there are sixty-six series, and a run
counts in no other one. Whatever clients send, under whatever ids and with whatever errors, none of
it becomes a label: a message of an unknown class is counted under the word for that, a message for
an unknown endpoint under its kind of route, and an error under its kind.
-/

namespace ControlChannel

theorem KeyMap.mem_keys_insert {α : Type} {m : KeyMap α} {key other : String} {value : α} :
    key ∈ (m.insert other value).keys ↔ key = other ∨ key ∈ m.keys := by
  rw [mem_keys, mem_keys, get?_insert]
  by_cases same : key = other
  · simp [same]
  · simp [same]

namespace Series

/-- The words for the channels. -/
def channels : List String :=
  ["socket", "data_channel"]

/-- The words for the kinds of messages. -/
def kinds : List String :=
  ["ClientHello", "ServerHello", "PinnedEndpointChangedEvent", "PinnedEndpointsChangedEvent",
    "SelectedEndpointChangedEvent", "SelectedEndpointsChangedEvent", "ReceiverVideoConstraint",
    "LastNChangedEvent", "EndpointMessage", "DominantSpeakerEndpointChangeEvent",
    "EndpointConnectivityStatusChangeEvent", "LastNEndpointsChangeEvent", "SenderVideoConstraints",
    "Unknown"]

/-- The words for the kinds that are not handled. -/
def idleKinds : List String :=
  ["ServerHello", "DominantSpeakerEndpointChangeEvent", "EndpointConnectivityStatusChangeEvent",
    "LastNEndpointsChangeEvent", "SenderVideoConstraints", "Unknown"]

/-- The words for why a message to an endpoint is dropped. -/
def outboundReasons : List String :=
  ["no_channel", "decode", "encode", "too_large", "backpressure", "channel_closed", "not_ready",
    "data_channel"]

/-- The words for why a message from an endpoint is dropped. -/
def inboundReasons : List String :=
  ["stale_socket", "decode", "too_large"]

/-- The words for the routes. -/
def routes : List String :=
  ["broadcast", "unicast", "remote", "unknown_target", "no_conference"]

/-- The series that may be counted, by what they count. -/
def families : List (List Series) :=
  [channels.flatMap fun channel => kinds.map (sent channel), channels.map received,
    outboundReasons.map (dropped "outbound"), inboundReasons.map (dropped "inbound"),
    idleKinds.map unhandled, routes.map routed, kinds.map handled]

/-- Every series that may be counted. -/
def fixed : List Series :=
  families.flatten

example : fixed.length = 66 := by decide

theorem mem_fixed (words : List String) (series : String → Series)
    (listed : words.map series ∈ families) {word : String} (mem : word ∈ words) :
    series word ∈ fixed :=
  List.mem_flatten.2 ⟨_, listed, List.mem_map_of_mem mem⟩

theorem mem_keys_foldl (counted : List Series) (m : KeyMap Nat) {key : String} :
    key ∈ (counted.foldl (fun m s => m.insert s.key ((m.get? s.key).getD 0 + 1)) m).keys ↔
      key ∈ m.keys ∨ key ∈ counted.map (·.key) := by
  induction counted generalizing m with
  | nil => simp
  | cons s rest ih =>
    rw [List.foldl_cons, ih, KeyMap.mem_keys_insert, List.map_cons, List.mem_cons, or_assoc,
      or_left_comm]

/-- The keys of a tally are those of the series that were counted. -/
theorem mem_keys_tally {counted : List Series} {key : String} :
    key ∈ (tally counted).keys ↔ key ∈ counted.map (·.key) := by
  rw [tally, mem_keys_foldl, KeyMap.mem_keys, KeyMap.get?_empty]
  simp

end Series

/-! ## The words for labels -/

theorem ChannelKind.name_mem (channel : ChannelKind) : channel.name ∈ Series.channels := by
  cases channel <;> decide

theorem Kind.name_mem (kind : Kind) : kind.name ∈ Series.kinds := by
  cases kind <;> decide

theorem Kind.name_mem_idleKinds {kind : Kind} (idle : kind.isUnhandled = true) :
    kind.name ∈ Series.idleKinds := by
  cases kind <;> first | decide | cases idle

theorem Route.Label.name_mem (label : Route.Label) : label.name ∈ Series.routes := by
  cases label <;> decide

theorem TransportError.Label.name_mem (label : TransportError.Label) :
    label.name ∈ Series.outboundReasons := by
  cases label <;> decide

namespace Metric

/-- A metric that may be counted. Its labels are of types without any text, and three things are
    never counted: a stale socket for an outbound message, an inbound message that no channel can
    take, and a kind as unhandled that is handled. -/
inductive Regular : Metric → Prop where
  | sent (channel : ChannelKind) (kind : Kind) : Regular (.sent channel kind)
  | received (channel : ChannelKind) : Regular (.received channel)
  | undelivered : Regular (.dropped .outbound .noChannel)
  | refused (label : TransportError.Label) : Regular (.dropped .outbound (.failed label))
  | stale : Regular (.dropped .inbound .staleSocket)
  | unread {label : TransportError.Label} : label = .tooLarge ∨ label = .decode →
      Regular (.dropped .inbound (.failed label))
  | unhandled {kind : Kind} : kind.isUnhandled = true → Regular (.unhandled kind)
  | routed (route : Route.Label) : Regular (.routed route)
  | handled (kind : Kind) : Regular (.handled kind)

/-- The series of a metric that may be counted is one of the fixed ones. -/
theorem Regular.series_mem {m : Metric} (regular : m.Regular) : m.series ∈ Series.fixed := by
  have outbound {reason : String} : reason ∈ Series.outboundReasons →
      Series.dropped "outbound" reason ∈ Series.fixed :=
    Series.mem_fixed _ (Series.dropped "outbound") (by simp [Series.families])
  have inbound {reason : String} : reason ∈ Series.inboundReasons →
      Series.dropped "inbound" reason ∈ Series.fixed :=
    Series.mem_fixed _ (Series.dropped "inbound") (by simp [Series.families])
  cases regular with
  | sent channel kind =>
    refine List.mem_flatten.2 ⟨_, List.mem_cons_self, List.mem_flatMap.2 ⟨_, channel.name_mem, ?_⟩⟩
    exact List.mem_map_of_mem kind.name_mem
  | received channel =>
    exact Series.mem_fixed _ Series.received (by simp [Series.families]) channel.name_mem
  | undelivered => exact outbound (by decide)
  | refused label => exact outbound label.name_mem
  | stale => exact inbound (by decide)
  | unread reason => rcases reason with rfl | rfl <;> exact inbound (by decide)
  | unhandled idle =>
    exact Series.mem_fixed _ Series.unhandled (by simp [Series.families])
      (Kind.name_mem_idleKinds idle)
  | routed route =>
    exact Series.mem_fixed _ Series.routed (by simp [Series.families]) route.name_mem
  | handled kind =>
    exact Series.mem_fixed _ Series.handled (by simp [Series.families]) kind.name_mem

end Metric

/-! ## What is counted -/

theorem Ending.regular {posts : List Posting} (ends : Ending posts) {m : Metric}
    (mem : .counted m ∈ posts) : m.Regular := by
  cases ends with
  | unread reason =>
    obtain rfl : m = _ := by simpa using mem
    exact .unread reason
  | routed route =>
    obtain rfl | rfl : m = _ ∨ m = _ := by simpa using mem
    · exact .routed route
    · exact .handled _
  | @unhandled kind idle =>
    obtain rfl | rfl : m = _ ∨ m = _ := by simpa using mem
    · exact .unhandled idle
    · exact .handled kind
  | @handled kind other busy =>
    obtain rfl : m = _ := by simpa using mem
    exact .handled kind

theorem Inbound.regular {o : Occurrence} {posts : List Posting} (h : Inbound o posts) {m : Metric}
    (mem : .counted m ∈ posts) : m.Regular := by
  cases h with
  | nothing _ _ _ => cases mem
  | recount _ _ _ => simp at mem
  | binary _ =>
    obtain rfl : m = _ := by simpa using mem
    exact .received _
  | stale _ _ =>
    obtain rfl : m = _ := by simpa using mem
    exact .stale
  | text _ _ ends =>
    obtain rfl | later : m = _ ∨ Posting.counted m ∈ _ := by simpa using mem
    · exact .received _
    · exact ends.regular later

theorem Sending.regular {t : TransportId} {posts : List Posting} (sends : Sending t posts)
    {m : Metric} (mem : .counted m ∈ posts) : m.Regular := by
  cases sends with
  | taken channel text kind =>
    obtain rfl : m = _ := by simpa using mem
    exact .sent _ kind
  | refused label =>
    obtain rfl : m = _ := by simpa using mem
    exact .refused label

theorem Outbound.regular {o : Occurrence} {posts : List Posting} (h : Outbound o posts) {m : Metric}
    (mem : .counted m ∈ posts) : m.Regular := by
  cases h with
  | nothing _ _ direct =>
    obtain ⟨_, _, _, same, -⟩ := direct _ mem
    cases same
  | certain _ _ _ sends => exact sends.regular mem
  | selected _ _ sends => exact sends.regular (by simpa using mem)
  | unselected _ _ =>
    obtain rfl : m = _ := by simpa using mem
    exact .undelivered
  | unanswered _ _ _ =>
    obtain rfl : m = _ := by simpa using mem
    exact .undelivered

namespace Bridge

/-- What happens to a transport counts only what may be counted. -/
theorem regular_of_mem_postings {o : Occurrence} {m : Metric} (mem : .counted m ∈ o.postings) :
    m.Regular := by
  cases side : m.isInbound with
  | true => exact (inbound o).regular (List.mem_filter.2 ⟨mem, side⟩)
  | false =>
    have outward : (Posting.counted m).isOutbound = true := by
      cases m with
      | sent channel kind => rfl
      | dropped direction reason => cases direction <;> first | rfl | cases side
      | _ => cases side
    exact (outbound o).regular (List.mem_filter.2 ⟨mem, outward⟩)

/-- A run counts only what may be counted. -/
theorem regular_of_mem_runPostings {b : Bridge} {operations : List Operation} {m : Metric}
    (mem : .counted m ∈ b.runPostings operations) : m.Regular := by
  have often : 0 < (b.runPostings operations).countP (· == .counted m) :=
    List.countP_pos_iff.2 ⟨_, mem, beq_self_eq_true _⟩
  rw [countP_runPostings fun _ _ => rfl] at often
  obtain ⟨p, posted, same⟩ := List.countP_pos_iff.1 often
  obtain rfl : p = .counted m := eq_of_beq same
  obtain ⟨o, -, counted⟩ := List.mem_flatMap.1 posted
  exact regular_of_mem_postings counted

/-- Whatever is done to a bridge, what it counts beyond what it had counted before belongs to one of
    the fixed series, and in the tally that it shows there is no other key. -/
theorem series_run (b : Bridge) (operations : List Operation) :
    ∃ counted : List Metric,
      (b.run operations).metrics.Perm (b.metrics ++ counted) ∧
      (∀ m ∈ counted, m.series ∈ Series.fixed) ∧
      ∀ key ∈ (Series.tally ((b.run operations).metrics.map (·.series))).keys,
        key ∈ (Series.tally (b.metrics.map (·.series))).keys ∨ key ∈ Series.fixed.map (·.key) := by
  have grown := (booked_run b operations).metrics
  have fixed : ∀ m ∈ (b.runPostings operations).filterMap (·.metric?),
      m.series ∈ Series.fixed := by
    intro m mem
    obtain ⟨p, posted, metric⟩ := List.mem_filterMap.1 mem
    obtain rfl : p = .counted m := by cases p <;> cases metric; rfl
    exact (regular_of_mem_runPostings posted).series_mem
  refine ⟨_, grown, fixed, ?_⟩
  intro key shown
  rw [Series.mem_keys_tally, List.map_map] at shown ⊢
  obtain ⟨m, mem, rfl⟩ := List.mem_map.1 shown
  rcases List.mem_append.1 (grown.mem_iff.1 mem) with before | since
  · left
    exact List.mem_map.2 ⟨m, before, rfl⟩
  · right
    exact List.mem_map.2 ⟨m.series, fixed m since, rfl⟩

end Bridge

end ControlChannel
