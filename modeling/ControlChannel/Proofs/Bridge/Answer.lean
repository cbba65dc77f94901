import ControlChannel.Proofs.Bridge.SocketWire
import ControlChannel.Proofs.Bridge.Unusable

/-!
# Answers

A hello is answered, and nothing else is. The answer goes to the channel that the hello came on,
whichever one would be selected by then: if that channel does not take it, it is counted as dropped
with the reason that the channel has, and no other channel is tried. It is no attempt to send on a
selected channel, and is not counted as one.
-/

namespace ControlChannel

namespace Posting

/-- The posting is neither about an outbound message nor about a frame that a channel took. -/
def isSilent (p : Posting) : Bool :=
  !p.isOutbound && p.frame?.isNone

end Posting

namespace Bridge

variable {b b' : Bridge} {t : TransportId} {source : Source} {channel : Option Channel}
  {text : String} {m : Message} {posts : List Posting}

/-- From one state of a bridge to another, nothing is sent and nothing is dropped instead: no channel
    takes a frame, and no count of what was sent, or was to be sent, goes up. -/
structure Unsent (b b' : Bridge) : Prop where
  frames : b'.frames = b.frames
  queues : ∀ s < b.sockets.length, (b'.socket s).queue = (b.socket s).queue
  outgoing : b'.metrics.countP (fun metric => metric.isSent || metric.isOutboundDrop) =
    b.metrics.countP fun metric => metric.isSent || metric.isOutboundDrop
  sent : ∀ σ < b.statistics.length, ∀ kind,
    (b'.statistics.getD σ {}).sent kind = (b.statistics.getD σ {}).sent kind
  attempted : ∀ t < b.transports.length, ∀ kind,
    (b'.transport t).outbox.sent kind = (b.transport t).outbox.sent kind
  dropped : ∀ t < b.transports.length,
    (b'.transport t).outbox.dropped = (b.transport t).outbox.dropped

/-! ## What sends nothing -/

/-- Work that posts nothing about outbound messages sends nothing. -/
theorem Work.unsent (done : Work t b posts b') (silent : ∀ p ∈ posts, p.isSilent = true) :
    Unsent b b' := by
  have booked := done.booked
  have none (mark : Posting → Bool) (marks : ∀ p, mark p = true → p.isOutbound = true) :
      posts.countP mark = 0 := by
    refine List.countP_eq_zero.2 fun p mem marked => ?_
    have quiet := silent p mem
    simp [Posting.isSilent, marks p marked] at quiet
  have unframed : posts.filterMap (·.frame?) = [] := by
    refine List.filterMap_eq_nil_iff.2 fun p mem => ?_
    have quiet := silent p mem
    simp only [Posting.isSilent, Bool.and_eq_true, Option.isNone_iff_eq_none] at quiet
    exact quiet.2
  refine ⟨?_, ?_, ?_, ?_, ?_, ?_⟩
  · rw [booked.frames, unframed, List.append_nil]
  · intro s present
    have unfed : wireOf s posts = [] := by rw [wireOf, unframed, List.filterMap_nil]
    have grown := (done.feeds present).2
    rw [unfed] at grown
    exact grown.queue.trans (List.append_nil _)
  · rw [booked.metrics.countP_eq, List.countP_append, ← countP_isCounted,
      none _ Posting.isOutbound_of_outgoing, Nat.add_zero]
  · intro σ present kind
    rw [booked.sent σ present, none _ Posting.isOutbound_of_isSent, Nat.add_zero]
  · intro u present kind
    rw [booked.attempted u present, List.count_eq_countP,
      none _ (Posting.isOutbound_of_beq rfl), Nat.add_zero]
  · intro u present
    rw [booked.dropped u present, List.count_eq_countP,
      none _ (Posting.isOutbound_of_beq rfl), Nat.add_zero]

/-- A message is taken note of and handled, and what an endpoint does because of it and an answer are
    left out: nothing is sent. -/
theorem unsent_handle (hears : b.hears t source = true) (m : Message) :
    Unsent b ((b.taken t source.kind).handle ignore t m) := by
  have heard := Work.hear (hear_of_hears hears)
  have noted : [Posting.received t source.kind, .counted (.received source.kind)].all
      (·.isSilent) = true := rfl
  have handled : ((b.taken t source.kind).handlePostings t m).all (·.isSilent) = true := by
    cases m <;> rfl
  refine (heard.trans (Work.handle _ m)).unsent fun p mem => ?_
  rcases List.mem_append.1 mem with early | late
  · exact List.all_eq_true.1 noted p early
  · exact List.all_eq_true.1 handled p late

/-! ## Sending on one channel -/

/-- A text is put into the queue of a socket. A data channel has no queue here. -/
def enqueue (b : Bridge) : Channel → String → Bridge
  | .socket s, text => b.setSocket s { b.socket s with queue := (b.socket s).queue ++ [.text text] }
  | .dataChannel _, _ => b

theorem sendOn_of_not_refused {channel : Channel} (taken : b.refusal channel text = none) :
    b.sendOn channel text =
      .ok ((b.enqueue channel text).emit (.accepted channel (.text text))) := by
  cases channel with
  | dataChannel d =>
    have taken : (b.dataChannel d).refusal = none := taken
    unfold sendOn
    dsimp only
    rw [taken]
    rfl
  | socket s =>
    unfold sendOn
    dsimp only
    cases sent : (b.socket s).send text with
    | error e => simp [refusal, sent] at taken
    | ok state =>
      obtain ⟨-, -, -, rfl⟩ := Socket.send_eq_ok sent
      rfl

theorem sendOn_of_refused {channel : Channel} {e : TransportError}
    (refused : b.refusal channel text = some e) : b.sendOn channel text = .error e := by
  cases sent : b.sendOn channel text with
  | ok b' =>
    have taken := (Work.sendOn (t := 0) sent).1
    rw [taken] at refused
    cases refused
  | error other =>
    have same := Work.refusal_of_sendOn sent
    rw [refused] at same
    cases same
    rfl

/-- A message that the channel takes is told of, put into the queue, and counted as sent. -/
theorem sendVia_of_not_refused {channel : Channel} (t : TransportId)
    (taken : b.refusal channel m.encode = none) : b.sendVia t channel m =
      ((b.enqueue channel m.encode).updateStatistics t (·.countSent channel.kind)).write
        [.logged (.sending (b.transport t).endpointId channel.kind m.kind),
          .accepted channel (.text m.encode), .counted (.sent channel.kind m.kind)] := by
  let sending : LogEntry := .sending (b.transport t).endpointId channel.kind m.kind
  have sent : (b.log sending).sendOn channel m.encode = _ := sendOn_of_not_refused taken
  unfold sendVia
  dsimp only
  rw [sent]
  cases channel with
  | socket s =>
    simp [enqueue, write, emit, count, log, updateStatistics, setSocket, transport, socket, sending]
  | dataChannel d => simp [enqueue, write, emit, count, log, updateStatistics, transport, sending]

/-- A message that the channel does not take is told of, and counted with the reason. -/
theorem sendVia_of_refused {channel : Channel} {e : TransportError} (t : TransportId)
    (refused : b.refusal channel m.encode = some e) : b.sendVia t channel m = b.write
      [.logged (.sending (b.transport t).endpointId channel.kind m.kind),
        .counted (.dropped .outbound (.failed e.label)),
        .logged (.notAccepted (b.transport t).endpointId channel.kind m.kind e)] := by
  let sending : LogEntry := .sending (b.transport t).endpointId channel.kind m.kind
  have sent : (b.log sending).sendOn channel m.encode = .error e := sendOn_of_refused refused
  unfold sendVia
  dsimp only
  rw [sent]
  exact (congrArg (emit · _) (write_write b [_] [_])).trans (write_write b [_, _] [_])

/-- A message for which there is no channel is counted as dropped. -/
theorem dispatch_none (b : Bridge) (t : TransportId) (m : Message) : b.dispatch t none m =
    (b.updateTransport t fun tr => { tr with outbox := tr.outbox.countDropped }).write
      [.counted (.dropped .outbound .noChannel),
        .logged (.noChannel (b.transport t).endpointId m.kind)] :=
  write_write (b.updateTransport t _) [_] [_]

/-! ## What an answer comes to -/

/-- All that the answer to a hello leaves behind, if it is owed on this channel. -/
inductive Answered (b : Bridge) (t : TransportId) : Option Channel → Bridge → Prop where
  | taken {channel : Channel} : b.refusal channel Message.hello.encode = none →
      Answered b t (some channel)
        (((b.enqueue channel Message.hello.encode).updateStatistics t
          (·.countSent channel.kind)).write
            [.logged (.sending (b.transport t).endpointId channel.kind .serverHello),
              .accepted channel (.text Message.hello.encode),
              .counted (.sent channel.kind .serverHello)])
  | refused {channel : Channel} {e : TransportError} :
      b.refusal channel Message.hello.encode = some e → Answered b t (some channel) (b.write
        [.logged (.sending (b.transport t).endpointId channel.kind .serverHello),
          .counted (.dropped .outbound (.failed e.label)),
          .logged (.notAccepted (b.transport t).endpointId channel.kind .serverHello e)])
  | lost : Answered b t none
      ((b.updateTransport t fun tr => { tr with outbox := tr.outbox.countDropped }).write
        [.counted (.dropped .outbound .noChannel),
          .logged (.noChannel (b.transport t).endpointId .serverHello)])

theorem reply_answered (b : Bridge) (t : TransportId) (channel : Option Channel) :
    Answered b t channel (b.reply t channel .hello) := by
  unfold reply
  cases channel with
  | none =>
    dsimp only
    rw [dispatch_none]
    exact .lost
  | some channel =>
    dsimp only
    cases refusal : b.refusal channel Message.hello.encode with
    | none =>
      rw [sendVia_of_not_refused t refusal]
      exact .taken refusal
    | some e =>
      rw [sendVia_of_refused t refusal]
      exact .refused refusal

namespace Answered

/-- No queue but that of the channel changes. -/
theorem socket_eq (answered : Answered b t channel b') {s : SocketId}
    (apart : channel ≠ some (.socket s)) : b'.socket s = b.socket s := by
  cases answered with
  | refused _ => rfl
  | lost => rfl
  | @taken channel _ =>
    cases channel with
    | dataChannel d => rfl
    | socket taker =>
      have differs : s ≠ taker := fun same => apart (by rw [same])
      exact socket_setSocket_ne b _ differs

/-- The channel takes the answer and nothing else, and no other channel takes anything. -/
theorem frames_eq (answered : Answered b t channel b') : b'.frames = b.frames ++
    (channel.filter fun c => (b.refusal c Message.hello.encode).isNone).toList.map
      (·, .text Message.hello.encode) := by
  have told (b : Bridge) (events : List Event) :
      (b.write events).frames = b.frames ++ events.filterMap (·.frame?) :=
    List.filterMap_append
  cases answered with
  | @taken channel free =>
    rw [told, Option.filter_some_pos (by rw [free]; rfl)]
    cases channel <;> rfl
  | refused refusal =>
    rw [told, Option.filter_some_neg (by simp [refusal])]
    rfl
  | lost => exact told _ _

/-- No attempt is counted in any outbox. -/
theorem attempts_eq (answered : Answered b t channel b') (u : TransportId) (kind : Kind) :
    (b'.transport u).outbox.sent kind = (b.transport u).outbox.sent kind := by
  cases answered with
  | refused _ => rfl
  | @taken channel _ => cases channel <;> rfl
  | lost =>
    exact transport_updateTransport_keeps
      (f := fun tr => { tr with outbox := tr.outbox.countDropped })
      (·.outbox.sent kind) (fun _ => rfl) b t u

end Answered

/-! ## Texts that are read -/

/-- A hello that is read is counted and answered, whatever the endpoint does. -/
theorem receiveWith_of_hello (hears : b.hears t source = true)
    (read : readText (b.transport t).config.maxInboundBytes text = .ok .clientHello)
    (onPush : Callback) : b.receiveWith onPush t source text =
      ((b.taken t source.kind).count (.handled .clientHello)).reply t
        (b.answerChannel t source) .hello := by
  rw [receiveWith_of_hears hears]
  unfold handleText
  dsimp only
  rw [transport_taken (·.config) fun _ _ => rfl, read]
  rfl

/-- A message that gets no answer is handled and counted, and what the endpoint does with the
    constraints that it is given because of it comes before the count. -/
theorem receiveWith_of_no_reply (hears : b.hears t source = true)
    (read : readText (b.transport t).config.maxInboundBytes text = .ok m)
    (noReply : m.reply? = none) (onPush : Callback) : b.receiveWith onPush t source text =
      ((b.pushOf t source text).elim ((b.taken t source.kind).handle ignore t m) fun push =>
        onPush push.1 ((b.taken t source.kind).handle ignore t m)).count (.handled m.kind) := by
  have heard := hear_of_hears hears
  have readThen : readText ((b.taken t source.kind).transport t).config.maxInboundBytes text =
      .ok m := by
    rw [transport_taken (·.config) fun _ _ => rfl]
    exact read
  cases push : b.pushOf t source text with
  | none =>
    rw [receiveWith_of_pushOf_eq_none push, receiveWith_of_read heard readThen noReply]
    rfl
  | some found =>
    obtain ⟨constraints, pushed⟩ := found
    obtain ⟨_, _, _, heardOf, readOf, -, rfl, received⟩ := pushOf_eq_some push
    rw [heard] at heardOf
    cases heardOf
    rw [readThen] at readOf
    cases readOf
    exact received onPush

/-- The answer to a hello goes back on the channel that the hello came on, and on no other. For every
    text that a transport takes: if it holds a hello, then one answer is owed, on the socket or on the
    live data channel that the text came on. If that channel takes it, it is put into that queue and
    counted as sent; if the channel does not, it is counted as dropped with the reason of that channel;
    and if there is no data channel left, it is counted as one message without a channel. No other
    queue changes, no other channel takes a frame, and no attempt is counted. If the text holds any
    other message, then nothing is sent because of it, but by the endpoint when it is given
    constraints. -/
theorem answer_on_same_channel (hears : b.hears t source = true)
    (fits : text.utf8ByteSize ≤ (b.transport t).config.maxInboundBytes)
    (decoded : Message.decode text = .ok m) (onPush : Callback) :
    let channel := b.answerChannel t source
    let after := b.receiveWith onPush t source text
    let handled := (b.taken t source.kind).handle ignore t m
    (m = .clientHello →
      Answered ((b.taken t source.kind).count (.handled .clientHello)) t channel after ∧
        (∀ s, channel ≠ some (.socket s) → after.socket s = b.socket s) ∧
        after.frames = b.frames ++
          (channel.filter fun c => (b.refusal c Message.hello.encode).isNone).toList.map
            (·, .text Message.hello.encode) ∧
        ∀ u kind, (after.transport u).outbox.sent kind = (b.transport u).outbox.sent kind) ∧
      (m ≠ .clientHello →
        Unsent b handled ∧
          after = ((b.pushOf t source text).elim handled fun push => onPush push.1 handled).count
            (.handled m.kind)) := by
  intro channel after handled
  have read := readText_eq_ok.2 ⟨fits, decoded⟩
  constructor
  · rintro rfl
    have answered : Answered ((b.taken t source.kind).count (.handled .clientHello)) t channel
        after := by
      have received : after = _ := receiveWith_of_hello hears read onPush
      rw [received]
      exact reply_answered _ t channel
    have frames : ((b.taken t source.kind).count (.handled .clientHello)).frames = b.frames := by
      unfold frames count emit taken
      simp only [List.filterMap_append]
      exact (List.append_nil _).trans (List.append_nil _)
    refine ⟨answered, fun s apart => answered.socket_eq apart, ?_, ?_⟩
    · rw [← frames]
      exact answered.frames_eq
    · intro u kind
      have taken := transport_taken (·.outbox.sent kind) (fun _ _ => rfl) b t source.kind u
      exact (answered.attempts_eq u kind).trans taken
  · intro other
    have noReply : m.reply? = none := by
      cases m <;> first | rfl | exact absurd rfl other
    exact ⟨unsent_handle hears m, receiveWith_of_no_reply hears read noReply onPush⟩

/-- A transport with a socket that has room, and with a data channel that is not ready. -/
def unready : Bridge where
  sockets := [{ capacity := 1 }]
  dataChannels := [{}]
  statistics := [{}]
  transports := [{ Transport.create "e" {} none 0 with
    channels := { socket := some 0, dataChannel := some 0 } }]

/-- A hello on a data channel that is not ready gets no answer, even where a socket is there on which
    anything else would be sent. -/
theorem answer_on_same_channel_unready :
    let after := unready.receiveWith ignore 0 .dataChannel Message.clientHello.encode
    after.activeChannel 0 = some (.socket 0) ∧ (after.socket 0).queue = [] ∧ after.frames = [] ∧
      after.metrics = [.received .dataChannel, .handled .clientHello,
        .dropped .outbound (.failed TransportError.notReady.label)] := by
  intro after
  have decoded : Message.decode Message.clientHello.encode = .ok .clientHello :=
    Message.decode_encode (by simp [Message.IsExact])
  have hears : unready.hears 0 .dataChannel = true := rfl
  obtain ⟨answered, queues, frames, -⟩ :=
    (answer_on_same_channel hears (by decide +kernel) decoded ignore).1 rfl
  have queue : (after.socket 0).queue = [] := congrArg Socket.queue (queues 0 (by decide))
  have took : after.frames = [] := frames
  have refusal : unready.refusal (.dataChannel 0) Message.hello.encode = some .notReady := rfl
  have answered : Answered ((unready.taken 0 .dataChannel).count (.handled .clientHello)) 0
    (some (.dataChannel 0)) after := answered
  clear_value after
  cases answered with
  | taken free => cases free
  | refused found =>
    cases refusal.symm.trans found
    exact ⟨rfl, queue, took, rfl⟩

end Bridge

end ControlChannel
