import ControlChannel.Proofs.Bridge.Arbitration
import ControlChannel.Proofs.Bridge.PushOrder
import ControlChannel.Proofs.Bridge.SocketWire

/-!
# A socket that only transports use

Nobody sends on the socket or closes it directly, and it is put into no slot. Then it only ever leaves
slots, and it takes frames only from a transport that has it in its slot: the messages that are sent
while it is selected there, the answers to hellos that came from it, and a last frame when it is closed
as it leaves.
-/

namespace ControlChannel

namespace TransportOperation

/-- The operation neither puts the socket into a slot nor sends on it by name. -/
def spares (s : SocketId) : TransportOperation → Bool
  | installSocket id | slots (.putSocket id _) | dispatch (some (.socket id)) _
  | sendVia (.socket id) _ => id != s
  | _ => true

/-- The operation takes the socket out of its transport's slot. -/
def removes (s : SocketId) : TransportOperation → Bool
  | installSocket id | slots (.putSocket id _) => id != s
  | clearSocket id _ _ | slots (.takeSocket id) => id == s
  | close | slots .giveUpSocket | dropTransport => true
  | _ => false

/-- What the socket that leaves the slot is closed with, if it is closed. -/
def closing? : TransportOperation → Option (UInt16 × String)
  | installSocket _ | slots (.putSocket _ _) => some Bridge.replacedStatus
  | close | slots .giveUpSocket => some Bridge.goneStatus
  | _ => none

end TransportOperation

namespace Operation

/-- The operation neither uses the socket directly nor puts it into a slot. Its handles may be cloned
    and dropped, and its wire may take frames or go away. -/
def spares (s : SocketId) : Operation → Bool
  | sendText id _ | closeSession id _ _ => id != s
  | transport _ operation => operation.spares s
  | _ => true

end Operation

/-- The text of a message, if the socket takes it. -/
def Bridge.textFrame? (b : Bridge) (s : SocketId) (message : Message) : Option Frame :=
  if b.refusal (.socket s) message.encode = none then some (.text message.encode) else none

/-- The frame that closes the session of a socket, if it is still open and there is room. -/
def Bridge.lastFrame? (b : Bridge) (s : SocketId) (status : UInt16) (reason : String) :
    Option Frame :=
  if ((b.socket s).close status reason).2 = .queued then some (.close status reason) else none

namespace Occurrence

/-- The socket is taken out of the slot of this transport. -/
def evicts (o : Occurrence) (t : TransportId) (s : SocketId) : Bool :=
  o.transport == t && o.operation.removes s

/-- The message that is to be sent on the socket: one that is sent while the socket is selected, or the
    answer to one that came from it. -/
def offered? (o : Occurrence) (s : SocketId) : Option Message :=
  match o.operation with
  | .send message =>
      if o.bridge.activeChannel o.transport = some (.socket s) then some message else none
  | .receive (.socket id) _ => if id = s then o.message?.bind (·.reply?) else none
  | _ => none

/-- The text of that message, if the socket takes it. -/
def text? (o : Occurrence) (s : SocketId) : Option Frame :=
  (o.offered? s).bind (o.bridge.textFrame? s)

/-- The frame with which the socket is closed as it leaves the slot. -/
def farewell? (o : Occurrence) (s : SocketId) : Option Frame :=
  o.operation.closing?.bind fun (status, reason) => o.bridge.lastFrame? s status reason

end Occurrence

namespace Bridge

variable {b b' : Bridge} {t : TransportId} {s : SocketId} {operations : List Operation}

/-! ## The slot -/

/-- The slots of a bridge at its start are empty. -/
theorem Fresh.currentSocket (fresh : b.Fresh) (t : TransportId) : b.currentSocket t = none := by
  unfold Bridge.currentSocket transport
  rw [List.getD_eq_getElem?_getD]
  cases found : b.transports[t]? with
  | none => rfl
  | some tr =>
    obtain ⟨own, config, conference, statistics, rfl⟩ :=
      fresh.transports tr (List.mem_of_getElem? found)
    rfl

/-- What happens in a run that spares the socket spares it, what an endpoint asks for included. -/
theorem spares_of_mem_run {o : Occurrence} (spares : ∀ operation ∈ operations, operation.spares s = true)
    (mem : o ∈ b.occurrences operations) : o.operation.spares s = true := by
  obtain ⟨operation, listed, now, asked, occasion, same | ⟨reaction, asks⟩⟩ := of_mem_occurrences mem
  · have spared := spares operation listed
    rw [same]
    rcases occasion_cases occasion with rfl | ⟨-, d, -, ⟨text, -, rfl⟩ | ⟨length, -, rfl⟩⟩
    · exact spared
    · rfl
    · rfl
  · rcases Reaction.operation?_cases asks with ⟨_, _, same⟩ | ⟨_, same⟩ | ⟨_, _, same⟩ | same
    all_goals rw [same]; rfl

theorem currentSocket_eq_some : b.currentSocket t = some s ↔
    ∃ st, b.view.standing t = some st ∧ st.channels.socket = some s := by
  constructor
  · intro current
    have stands := view_standing_of_mark (b := b) (t := t) (·.channels.socket.isSome) rfl
      (by rw [Option.isSome_iff_exists]; exact ⟨s, current⟩)
    exact ⟨_, stands, current⟩
  · rintro ⟨st, stands, current⟩
    rw [← standing_view b t stands] at current
    exact current

/-- The socket is in the slot afterwards if it was before, and is not taken out. -/
theorem socket_channelsAfter {o : Occurrence} (spares : o.operation.spares s = true)
    (p : ChannelPair) :
    (o.channelsAfter p).socket = some s ↔ p.socket = some s ∧ o.operation.removes s = false := by
  have put {id : SocketId} (other : (id != s) = true) :
      (p.putSocket id).socket = some s ↔ p.socket = some s ∧ (id != s) = false := by
    have other : id ≠ s := by simpa using other
    simp [ChannelPair.putSocket, other]
  have take (id : SocketId) : ((p.clearSocket id).getD p).socket = some s ↔
      p.socket = some s ∧ (id == s) = false := by
    rw [getD_clearSocket]
    by_cases current : p.socket = some id
    · simp [current]
    · simp only [if_neg current, Option.getD_none, beq_eq_false_iff_ne, ne_eq]
      refine ⟨fun mine => ⟨mine, ?_⟩, And.left⟩
      rintro rfl
      exact current mine
  have mark (id : SocketId) : ((p.markSocket id).getD p).socket = some s ↔
      p.socket = some s ∧ false = false := by
    simp [getD_markSocket]
  have attach (d : DataChannelId) (free : Bool) :
      (if free then p.putDataChannel d else p).socket = some s ↔
        p.socket = some s ∧ false = false := by
    cases free <;> simp [ChannelPair.putDataChannel]
  have gone (left : Option SocketId) (empty : left = none) :
      left = some s ↔ p.socket = some s ∧ true = false := by
    simp [empty]
  obtain ⟨b, t, operation⟩ := o
  cases operation with
  | installSocket id => exact put spares
  | clearSocket id status reason => exact take id
  | receive source text =>
    cases source with
    | socket id => exact mark id
    | dataChannel => exact (and_iff_left rfl).symm
  | installDataChannel d => exact attach d _
  | close => exact gone _ rfl
  | dropTransport => exact gone _ rfl
  | slots operation =>
    cases operation with
    | putSocket id greeting => exact put spares
    | takeSocket id => exact take id
    | markSocket id => exact mark id
    | putDataChannel d => exact attach d _
    | giveUpSocket => exact gone _ rfl
    | markDataChannel => exact (and_iff_left rfl).symm
  | _ => exact (and_iff_left rfl).symm

/-- A socket that is put into no slot stays where it is until it is taken out. -/
theorem tracked_slot (s : SocketId) : Tracked fun b past b' =>
    (∀ o ∈ past, o.operation.spares s = true) → ∀ t, b'.currentSocket t = some s ↔
      b.currentSocket t = some s ∧ ∀ o ∈ past, o.evicts t s = false := by
  refine Tracked.of_view ?trans ?same ?after
  case trans =>
    intro b b' b'' past more first second spares t
    obtain ⟨early, late⟩ := List.forall_mem_append.1 spares
    rw [second late, first early, List.forall_mem_append, and_assoc]
  case same =>
    intro b b' same _ t
    simp [currentSocket_eq_some, same]
  case after =>
    intro o b' viewed spares t
    have slot := socket_channelsAfter (spares o List.mem_cons_self)
    have moved : o.viewAfter.standing t = if t = o.transport then
      (o.bridge.view.standing t).map o.effect else o.bridge.view.standing t := rfl
    rw [currentSocket_eq_some, currentSocket_eq_some, List.forall_mem_singleton, viewed, moved]
    by_cases here : t = o.transport
    · have evicts : o.evicts t s = o.operation.removes s := by simp [Occurrence.evicts, here]
      rw [if_pos here, evicts]
      cases o.bridge.view.standing t with
      | none => simp
      | some st =>
        have channels : (o.effect st).channels = o.channelsAfter st.channels :=
          (o.effect_eq_moved st).1
        simp [channels, slot]
    · have stays : o.evicts t s = false := by simp [Occurrence.evicts, Ne.symm here]
      rw [if_neg here, stays]
      simp

/-- The socket is in a slot when something happens exactly if it was there at first and was not taken
    out since. -/
theorem currentSocket_of_split {past future : List Occurrence} {o : Occurrence}
    (spares : ∀ operation ∈ operations, operation.spares s = true)
    (split : b.occurrences operations = past ++ o :: future) (t : TransportId) :
    o.bridge.currentSocket t = some s ↔
      b.currentSocket t = some s ∧ ∀ earlier ∈ past, earlier.evicts t s = false := by
  refine ((tracked_slot s).beginnings.run operations b).2 past o future split ?_ t
  intro earlier mem
  refine spares_of_mem_run spares (b := b) ?_
  rw [split]
  exact List.mem_append_left _ mem

/-! ## The wire -/

theorem currentSocket_of_activeChannel (selected : b.activeChannel t = some (.socket s)) :
    b.currentSocket t = some s := by
  unfold activeChannel at selected
  dsimp only at selected
  split at selected
  · obtain ⟨id, current, same⟩ := Option.map_eq_some_iff.1 selected
    cases same
    exact current
  · obtain ⟨d, -, same⟩ := Option.map_eq_some_iff.1 selected
    cases same
  · cases selected

theorem wireOf_sendPostings (b : Bridge) (t : TransportId) (s : SocketId) (channel : Channel)
    (message : Message) : wireOf s (b.sendPostings t channel message) =
      (if channel = .socket s then b.textFrame? s message else none).toList := by
  unfold sendPostings textFrame?
  cases channel with
  | dataChannel d =>
    cases b.refusal (.dataChannel d) message.encode <;> simp [Posting.frame?, toSocket?]
  | socket id =>
    by_cases here : id = s
    · subst here
      cases b.refusal (.socket id) message.encode <;> simp [Posting.frame?, toSocket?]
    · cases b.refusal (.socket id) message.encode <;> simp [Posting.frame?, toSocket?, here]

theorem wireOf_dispatchPostings (b : Bridge) (t : TransportId) (s : SocketId)
    (channel : Option Channel) (message : Message) :
    wireOf s (b.dispatchPostings t channel message) =
      (if channel = some (.socket s) then b.textFrame? s message else none).toList := by
  cases channel with
  | none => rfl
  | some channel =>
    simp only [Option.some_inj]
    exact wireOf_sendPostings b t s channel message

theorem wireOf_handlePostings (b : Bridge) (t : TransportId) (s : SocketId) (message : Message) :
    wireOf s (b.handlePostings t message) = [] := by
  cases message <;> rfl

theorem wireOf_greetPostings {id : SocketId} (other : (id != s) = true) (b : Bridge)
    (greeting : Option String) : wireOf s (b.greetPostings id greeting) = [] := by
  have other : id ≠ s := by simpa using other
  unfold greetPostings
  cases greeting with
  | none => rfl
  | some text =>
    dsimp only
    split
    · simp [Posting.frame?, toSocket?, other]
    · rfl

theorem wireOf_closing (b : Bridge) (s id : SocketId) (status : UInt16) (reason : String) :
    wireOf s (b.closePostings id status reason) =
      (if some id = some s then b.lastFrame? s status reason else none).toList := by
  rw [wireOf_closePostings]
  unfold lastFrame?
  by_cases here : id = s
  · subst here
    by_cases queued : ((b.socket id).close status reason).2 = .queued <;> simp [queued]
  · simp [here]

theorem wireOf_displacePostings {id : SocketId} (other : (id != s) = true) (b : Bridge)
    (t : TransportId) : wireOf s (b.displacePostings t id) =
      (if b.currentSocket t = some s then
        b.lastFrame? s replacedStatus.1 replacedStatus.2 else none).toList := by
  unfold displacePostings
  cases b.currentSocket t with
  | none => rfl
  | some old =>
    dsimp only
    split
    · rename_i same
      have other : ¬ old = s := by simpa [same] using other
      simp [other]
    · exact wireOf_closing b s old _ _

theorem wireOf_giveUpPostings (b : Bridge) (t : TransportId) (s : SocketId) :
    wireOf s (b.giveUpPostings t) = (if b.currentSocket t = some s then
      b.lastFrame? s goneStatus.1 goneStatus.2 else none).toList := by
  unfold giveUpPostings
  cases b.currentSocket t with
  | none => rfl
  | some id => exact wireOf_closing b s id _ _

/-- A text that is received makes a socket take the answer to a hello, and nothing else. -/
theorem wireOf_receive (b : Bridge) (t : TransportId) (s : SocketId) (source : Source)
    (text : String) :
    let o : Occurrence := ⟨b, t, .receive source text⟩
    wireOf s o.postings = (o.text? s).toList := by
  intro o
  have unread (absent : o.message? = none) : o.text? s = none := by
    cases source <;> simp [o, Occurrence.text?, Occurrence.offered?] at absent ⊢
    simp [absent]
  rcases postings_receive b t source text with ⟨-, absent, posted⟩ |
    ⟨heard, channel, hears, -, ⟨e, -, absent, posted⟩ | ⟨message, read, posted⟩⟩
  · rw [posted, unread absent]
    rfl
  · rw [posted, unread absent]
    rfl
  · rw [answerPostings] at posted
    cases owed : message.reply? with
    | none =>
      rw [owed] at posted
      have silent : o.text? s = none := by
        cases source <;> simp [o, Occurrence.text?, Occurrence.offered?] at read ⊢
        simp [read, owed]
      rw [posted, silent]
      simp [wireOf_handlePostings, Posting.frame?]
    | some answer =>
      rw [owed] at posted
      have replied : wireOf s o.postings = wireOf s (heard.replyPostings t channel answer) := by
        rw [posted]
        simp [wireOf_handlePostings, Posting.frame?]
      rw [replied]
      cases source with
      | dataChannel =>
        cases hears
        cases (b.markDataChannel t).liveDataChannel t with
        | none => rfl
        | some d => exact wireOf_sendPostings _ t s (.dataChannel d) answer
      | socket id =>
        obtain ⟨marked, mark, same⟩ := Option.map_eq_some_iff.1 hears
        obtain ⟨channels, -, rfl⟩ := Option.map_eq_some_iff.1 mark
        cases same
        have taken : o.message?.bind (·.reply?) = some answer := by
          rw [read]
          exact owed
        have offered : o.offered? s = if id = s then some answer else none := by
          rw [← taken]
          rfl
        have sent := wireOf_sendPostings ((b.setChannels t channels).countReceived t .socket) t s
          (.socket id) answer
        rw [Occurrence.text?, offered]
        by_cases here : id = s
        · rw [if_pos here]
          rwa [if_pos (congrArg Channel.socket here)] at sent
        · rw [if_neg here]
          rwa [if_neg (by simpa using here)] at sent

/-- A socket that is spared takes the messages that a transport has for it while it is selected, and
    the frame with which it is closed as it leaves the slot. -/
theorem wireOf_occurrence {o : Occurrence} (spares : o.operation.spares s = true) :
    wireOf s o.postings = (o.text? s).toList ++
      (if o.bridge.currentSocket o.transport = some s then o.farewell? s else none).toList := by
  obtain ⟨b, t, operation⟩ := o
  have stays (p : Prop) [Decidable p] (frames : List Frame) :
      frames = frames ++ (if p then (none : Option Frame) else none).toList := by
    rw [ite_self]
    exact (List.append_nil _).symm
  have apart {id : SocketId} (other : (id != s) = true) : Channel.socket id ≠ .socket s := by
    simpa using other
  cases operation with
  | installSocket id =>
    have posted : Occurrence.postings ⟨b, t, .installSocket id⟩ =
      b.displacePostings t id ++ (b.displaceSocket t id).sendPostings t (.socket id) .hello := rfl
    rw [posted, wireOf_append, wireOf_displacePostings spares, wireOf_sendPostings,
      if_neg (apart spares)]
    exact List.append_nil _
  | close => exact wireOf_giveUpPostings b t s
  | receive source text => exact (wireOf_receive b t s source text).trans (stays _ _)
  | send message =>
    have sent := wireOf_dispatchPostings b t s (b.activeChannel t) message
    refine (sent.trans ?_).trans (stays _ _)
    have offered : Occurrence.offered? ⟨b, t, .send message⟩ s =
      if b.activeChannel t = some (.socket s) then some message else none := rfl
    rw [Occurrence.text?, offered]
    split <;> rfl
  | dispatch channel message =>
    have sent := wireOf_dispatchPostings b t s channel message
    refine (sent.trans ?_).trans (stays _ _)
    cases channel with
    | none => rfl
    | some channel =>
      cases channel with
      | dataChannel d => rfl
      | socket id =>
        rw [if_neg (by simpa using apart spares)]
        rfl
  | sendVia channel message =>
    have sent := wireOf_sendPostings b t s channel message
    refine (sent.trans ?_).trans (stays _ _)
    cases channel with
    | dataChannel d => rfl
    | socket id =>
      rw [if_neg (apart spares)]
      rfl
  | slots operation =>
    cases operation with
    | putSocket id greeting =>
      have posted : Occurrence.postings ⟨b, t, .slots (.putSocket id greeting)⟩ =
        b.displacePostings t id ++ (b.displaceSocket t id).greetPostings id greeting := rfl
      rw [posted, wireOf_append, wireOf_displacePostings spares, wireOf_greetPostings spares]
      exact List.append_nil _
    | giveUpSocket => exact wireOf_giveUpPostings b t s
    | _ => exact stays _ []
  | _ => exact stays _ []

/-- A socket is sent nothing by a transport that does not have it in its slot. -/
theorem text?_of_absent {o : Occurrence} (absent : o.bridge.currentSocket o.transport ≠ some s) :
    o.text? s = none := by
  have nothing : o.offered? s = none := by
    obtain ⟨b, t, operation⟩ := o
    cases operation with
    | send message => exact if_neg (mt currentSocket_of_activeChannel absent)
    | receive source text =>
      cases source with
      | dataChannel => rfl
      | socket id =>
        by_cases here : id = s
        · subst here
          have unheard : b.hears t (.socket id) = false := beq_false_of_ne absent
          simp [Occurrence.offered?, Occurrence.message?, unheard]
        · exact if_neg here
    | _ => rfl
  rw [Occurrence.text?, nothing]
  rfl

theorem wireOf_of_absent {o : Occurrence} (spares : o.operation.spares s = true)
    (absent : o.bridge.currentSocket o.transport ≠ some s) : wireOf s o.postings = [] := by
  rw [wireOf_occurrence spares, text?_of_absent absent, if_neg absent]
  rfl

/-- A socket that stays where it is is not closed. -/
theorem farewell?_of_stays {o : Occurrence} (spares : o.operation.spares s = true)
    (stays : o.operation.removes s = false) : o.farewell? s = none := by
  have unclosed : o.operation.closing? = none := by
    obtain ⟨b, t, operation⟩ := o
    cases operation with
    | installSocket id => exact absurd spares (Bool.eq_false_iff.1 stays)
    | close => cases stays
    | slots operation =>
      cases operation with
      | putSocket id greeting => exact absurd spares (Bool.eq_false_iff.1 stays)
      | giveUpSocket => cases stays
      | _ => rfl
    | _ => rfl
  rw [Occurrence.farewell?, unclosed]
  rfl

/-! ## Runs -/

theorem wireOf_directPostings {operation : Operation} (spares : operation.spares s = true)
    (b : Bridge) : wireOf s (b.directPostings operation) = [] := by
  cases operation with
  | sendText id text => exact wireOf_greetPostings spares b (some text)
  | closeSession id status reason =>
    have other : id ≠ s := by simpa [Operation.spares] using spares
    have closing := wireOf_closing b s id status reason
    rwa [if_neg (by simpa using other)] at closing
  | _ => rfl

/-- A socket that is spared in a run takes what is posted for it by what happens to transports. -/
theorem wireOf_runPostings (spares : ∀ operation ∈ operations, operation.spares s = true)
    (b : Bridge) : wireOf s (b.runPostings operations) =
      (b.occurrences operations).flatMap fun o => wireOf s o.postings := by
  induction operations generalizing b with
  | nil => rfl
  | cons operation rest ih =>
    obtain ⟨head, tail⟩ := List.forall_mem_cons.1 spares
    rw [runPostings, stepPostings, wireOf_append, wireOf_append, wireOf_directPostings head,
      ih tail, wireOf_postings, occurrences, List.flatMap_append, List.nil_append]

section

variable (spares : ∀ operation ∈ operations, operation.spares s = true)

include spares

/-- A socket stays in a slot, or leaves it, and comes into none. -/
theorem currentSocket_of_run (current : (b.run operations).currentSocket t = some s) :
    b.currentSocket t = some s :=
  (((tracked_slot s).run operations b (fun _ mem => spares_of_mem_run spares mem) t).1 current).1

/-- A socket that is in no slot takes nothing. -/
theorem wireOf_runPostings_of_absent (absent : ∀ t, b.currentSocket t ≠ some s) :
    wireOf s (b.runPostings operations) = [] := by
  rw [wireOf_runPostings spares, List.flatMap_eq_nil_iff]
  intro o mem
  refine wireOf_of_absent (spares_of_mem_run spares mem) fun current => ?_
  obtain ⟨past, future, split⟩ := List.append_of_mem mem
  exact absent o.transport ((currentSocket_of_split spares split o.transport).1 current).1

theorem framesOn_run_of_absent (absent : ∀ t, b.currentSocket t ≠ some s) :
    (b.run operations).framesOn s = b.framesOn s := by
  rw [framesOn_run, wireOf_runPostings_of_absent spares absent, List.append_nil]

end

end Bridge

end ControlChannel
