import ControlChannel.Proofs.Bridge.InboundBooks
import ControlChannel.Proofs.Bridge.Receipt
import ControlChannel.Proofs.Message.Listed

/-!
# Texts that cannot be used

A text may be too large to be decoded at all, or no message, or a message of a kind with which the
bridge does nothing. The transport takes note that it heard from the channel, counts the text for
what it is, and that is all: nothing is set, handed on or sent because of it.
-/

namespace ControlChannel

/-- A text was decoded, into a message or with an error. -/
def Metric.isDecoding : Metric → Bool
  | dropped .inbound (.failed .decode) | handled _ => true
  | _ => false

namespace Bridge

variable {b : Bridge} {t : TransportId} {source : Source} {limit : Nat} {id text : String}
  {notes : List Event}

/-- What is written to the trace about a text that cannot be used, if texts may be so large and the
    transport is that of the endpoint `id`. -/
inductive Unusable (limit : Nat) (id text : String) : List Event → Prop where
  | tooLarge : limit < text.utf8ByteSize → Unusable limit id text
      [.counted (.dropped .inbound (.failed .tooLarge)),
        .logged (.undecodable id (.tooLarge text.utf8ByteSize limit))]
  | unreadable {e : DecodeError} : text.utf8ByteSize ≤ limit → Message.decode text = .error e →
      Unusable limit id text
        [.counted (.dropped .inbound (.failed .decode)),
          .logged (.undecodable id (.ofDecodeError e))]
  | unhandled {m : Message} : text.utf8ByteSize ≤ limit → Message.decode text = .ok m →
      m.kind.isUnhandled = true → Unusable limit id text
        [.counted (.unhandled m.kind), .logged (.unexpectedKind id m.kind),
          .counted (.handled m.kind)]

/-! ## Reading -/

theorem readText_of_lt (large : limit < text.utf8ByteSize) :
    readText limit text = .error (.tooLarge text.utf8ByteSize limit) :=
  if_pos large

theorem readText_of_le (fits : text.utf8ByteSize ≤ limit) :
    readText limit text = (Message.decode text).mapError .ofDecodeError :=
  if_neg (Nat.not_lt.2 fits)

theorem readText_eq_ok {m : Message} :
    readText limit text = .ok m ↔ text.utf8ByteSize ≤ limit ∧ Message.decode text = .ok m := by
  by_cases fits : text.utf8ByteSize ≤ limit
  · rw [readText_of_le fits, mapError_eq_ok]
    simp [fits]
  · rw [readText_of_lt (Nat.not_le.1 fits)]
    simp [fits]

/-- A text that is not too large fails to be read as it fails to be decoded. -/
theorem label_of_readText_of_le {e : TransportError} (fits : text.utf8ByteSize ≤ limit)
    (unread : readText limit text = .error e) : e.label = .decode := by
  rw [readText_of_le fits] at unread
  cases decoded : Message.decode text with
  | ok m =>
    rw [decoded] at unread
    cases unread
  | error detail =>
    rw [decoded] at unread
    cases unread
    rfl

/-! ## Handling -/

/-- A message of a kind with which the bridge does nothing is counted and told of. -/
theorem handle_of_isUnhandled {m : Message} (idle : m.kind.isUnhandled = true) (onPush : Callback)
    (b : Bridge) : b.handle onPush t m = b.write
      [.counted (.unhandled m.kind), .logged (.unexpectedKind (b.transport t).endpointId m.kind)] := by
  have told (kind : Kind) :
      (b.count (.unhandled kind)).log (.unexpectedKind (b.transport t).endpointId kind) =
        b.write [.counted (.unhandled kind),
          .logged (.unexpectedKind (b.transport t).endpointId kind)] :=
    write_write b [_] [_]
  cases m <;> first | exact told _ | cases idle

theorem reply?_of_isUnhandled {m : Message} (idle : m.kind.isUnhandled = true) :
    m.reply? = none := by
  cases m <;> first | rfl | cases idle

/-- A text that cannot be used is written about, whoever waits for an answer to it. -/
theorem handleText_of_unusable
    (unusable : Unusable (b.transport t).config.maxInboundBytes (b.transport t).endpointId text
      notes) (onPush : Callback) (channel : Option Channel) :
    b.handleText onPush t channel text = b.write notes := by
  unfold handleText
  dsimp only
  cases unusable with
  | tooLarge large =>
    rw [readText_of_lt large]
    exact write_write b [_] [_]
  | unreadable fits undecoded =>
    rw [readText_of_le fits, undecoded]
    exact write_write b [_] [_]
  | unhandled fits decoded idle =>
    rw [readText_eq_ok.2 ⟨fits, decoded⟩]
    dsimp only
    rw [reply?_of_isUnhandled idle, handle_of_isUnhandled idle]
    exact write_write b [_, _] [_]

/-! ## Receiving -/

theorem receiveWith_of_unusable (hears : b.hears t source = true)
    (unusable : Unusable (b.transport t).config.maxInboundBytes (b.transport t).endpointId text
      notes) (onPush : Callback) :
    b.receiveWith onPush t source text = (b.taken t source.kind).write notes := by
  rw [receiveWith_of_hears hears]
  apply handleText_of_unusable
  rw [transport_taken (·.config) (fun _ _ => rfl), transport_taken (·.endpointId) fun _ _ => rfl]
  exact unusable

/-- What is posted about handling a message and about its answer says nothing of decoding. -/
theorem countP_isDecoding_message (b : Bridge) (t : TransportId) (channel : Option Channel)
    (m : Message) :
    ((b.handlePostings t m ++ .counted (.handled m.kind) ::
        b.answerPostings t channel m).filterMap (·.metric?)).countP (·.isDecoding) = 1 := by
  have handling : ((b.handlePostings t m).filterMap (·.metric?)).countP (·.isDecoding) = 0 := by
    cases m <;> rfl
  have sending (channel : Channel) (answer : Message) :
      ((b.sendPostings t channel answer).filterMap (·.metric?)).countP (·.isDecoding) = 0 := by
    unfold sendPostings
    cases b.refusal channel answer.encode <;> rfl
  have answering : ((b.answerPostings t channel m).filterMap (·.metric?)).countP
      (·.isDecoding) = 0 := by
    unfold answerPostings
    cases m.reply? with
    | none => rfl
    | some answer =>
      cases channel with
      | none => rfl
      | some channel => exact sending channel answer
  have counted : (Posting.counted (.handled m.kind)).metric? = some (.handled m.kind) := rfl
  have marked : (Metric.handled m.kind).isDecoding = true := rfl
  rw [List.filterMap_append, List.countP_append, handling, List.filterMap_cons_some counted,
    List.countP_cons_of_pos marked, answering]

/-- A text from a source that is heard is decoded if and only if it is not too large. -/
theorem countP_isDecoding_receiveWith (hears : b.hears t source = true) (text : String) :
    (b.receiveWith ignore t source text).metrics.countP (·.isDecoding) =
      b.metrics.countP (·.isDecoding) +
        if text.utf8ByteSize ≤ (b.transport t).config.maxInboundBytes then 1 else 0 := by
  have booked := (Work.receiveWith (t := t) b source text).booked.metrics
  have posted : b.receivePostings t source text =
      [.received t source.kind, .counted (.received source.kind)] ++
        (b.taken t source.kind).textPostings t (b.answerChannel t source) text := by
    unfold receivePostings
    rw [hear_of_hears hears]
  have received : ([.received t source.kind,
      .counted (.received source.kind)].filterMap Posting.metric?).countP (·.isDecoding) = 0 := rfl
  rw [booked.countP_eq, List.countP_append, posted, List.filterMap_append, List.countP_append,
    received, Nat.zero_add]
  congr 1
  unfold textPostings
  rw [transport_taken (·.config) fun _ _ => rfl]
  cases read : readText (b.transport t).config.maxInboundBytes text with
  | ok m =>
    have fits := (readText_eq_ok.1 read).1
    rw [if_pos fits]
    exact countP_isDecoding_message _ t _ m
  | error e =>
    by_cases fits : text.utf8ByteSize ≤ (b.transport t).config.maxInboundBytes
    · have label := label_of_readText_of_le fits read
      simp [fits, label, Posting.metric?, Metric.isDecoding]
    · rw [readText_of_lt (Nat.not_le.1 fits)] at read
      cases read
      simp [fits, Posting.metric?, Metric.isDecoding, TransportError.label]

/-- A text from a source that is heard and that cannot be used leaves nothing behind but its books.
    It is decoded if and only if it is not larger than the transport allows, and then counted as
    undecodable or as handled; and what is decoded from it is what it holds. If it is too large, or no
    message, or a message of a kind with which the bridge does nothing, then all that changes is the
    kind of channel last heard from, the counts of messages received on that kind, and what is written
    about the text. So it is whatever an endpoint would do, and for exactly the texts of which no
    message of another kind is decoded. -/
theorem unusable_only_booked (hears : b.hears t source = true) (text : String) :
    let limit := (b.transport t).config.maxInboundBytes
    let message? := Occurrence.message? ⟨b, t, .receive source text⟩
    (b.receiveWith ignore t source text).metrics.countP (·.isDecoding) =
        b.metrics.countP (·.isDecoding) + (if text.utf8ByteSize ≤ limit then 1 else 0) ∧
      (∀ m, message? = some m ↔ text.utf8ByteSize ≤ limit ∧ Message.decode text = .ok m) ∧
      (∀ notes, Unusable limit (b.transport t).endpointId text notes → ∀ onPush,
        b.receiveWith onPush t source text = { b with
          transports := b.transports.modify t fun tr =>
            { tr with channels := { tr.channels with lastActive := source.kind } }
          statistics := b.statistics.modify (b.transport t).statistics (·.countReceived source.kind)
          trace := b.trace ++ .counted (.received source.kind) :: notes }) ∧
      ((∃ notes, Unusable limit (b.transport t).endpointId text notes) ↔
        ∀ m, message? = some m → m.kind.isUnhandled = true) := by
  intro limit message?
  have read : message? = (readText limit text).toOption := by
    simp [message?, Occurrence.message?, hears, limit]
  have holds (m : Message) :
      message? = some m ↔ text.utf8ByteSize ≤ limit ∧ Message.decode text = .ok m := by
    rw [read, ← readText_eq_ok]
    cases readText limit text with
    | ok other => simp [Except.toOption]
    | error e => simp [Except.toOption]
  refine ⟨countP_isDecoding_receiveWith hears text, holds, ?_, ?_⟩
  · intro notes unusable onPush
    rw [receiveWith_of_unusable hears unusable onPush]
    have joined : b.trace ++ [.counted (.received source.kind)] ++ notes =
        b.trace ++ .counted (.received source.kind) :: notes := List.append_assoc ..
    rw [← joined]
    rfl
  · constructor
    · rintro ⟨notes, large | ⟨-, undecoded⟩ | ⟨-, decoded, idle⟩⟩ m taken
      · exact absurd ((holds m).1 taken).1 (Nat.not_le.2 large)
      · have decoded := ((holds m).1 taken).2
        rw [undecoded] at decoded
        cases decoded
      · have same := ((holds m).1 taken).2
        rw [decoded] at same
        cases same
        exact idle
    · intro idle
      by_cases fits : text.utf8ByteSize ≤ limit
      · cases decoded : Message.decode text with
        | ok m => exact ⟨_, .unhandled fits decoded (idle m ((holds m).2 ⟨fits, decoded⟩))⟩
        | error e => exact ⟨_, .unreadable fits decoded⟩
      · exact ⟨_, .tooLarge (Nat.not_le.1 fits)⟩

/-- A transport with a socket that takes texts of five bytes at most. -/
def tight : Bridge where
  sockets := [{ capacity := 1 }]
  statistics := [{}]
  transports := [{ Transport.create "e" { maxInboundBytes := 5 } none 0 with
    channels := { socket := some 0 } }]

/-- Three characters of five bytes are decoded, and four of eight bytes are not. -/
theorem unusable_only_booked_tight :
    (∃ e, (tight.receiveWith ignore 0 (.socket 0) "\"€\"").trace =
      [.counted (.received .socket), .counted (.dropped .inbound (.failed .decode)),
        .logged (.undecodable "e" (.ofDecodeError e))]) ∧
    (tight.receiveWith ignore 0 .dataChannel "\"€€\"").trace =
      [.counted (.received .dataChannel), .counted (.dropped .inbound (.failed .tooLarge)),
        .logged (.undecodable "e" (.tooLarge 8 5))] := by
  have held : Json.ofText (Json.string "€").toText = .ok (.string "€") :=
    Json.ofText_toText (by simp [Json.IsIntegral, Json.Everywhere, Json.NumberFits]) (by decide)
  obtain ⟨e, undecoded⟩ := Message.decode_scalar held (by rintro _ ⟨⟩) (by rintro _ ⟨⟩)
  constructor
  · have hears : tight.hears 0 (.socket 0) = true := rfl
    obtain ⟨-, -, booked, -⟩ := unusable_only_booked hears (Json.string "€").toText
    exact ⟨e, congrArg trace (booked _ (.unreadable (by decide) undecoded) ignore)⟩
  · have hears : tight.hears 0 .dataChannel = true := rfl
    obtain ⟨-, -, booked, -⟩ := unusable_only_booked hears "\"€€\""
    exact congrArg trace (booked _ (.tooLarge (by decide)) ignore)

end Bridge

end ControlChannel
