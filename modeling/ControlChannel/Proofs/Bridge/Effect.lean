import ControlChannel.Proofs.Bridge.View

/-!
# What happens, seen

Whatever happens to a transport changes the view of its bridge in one way, which is computed here
from the view itself: the channels of the transport move, an input of its constraints may be set,
and what that writes down is added. A relation between views that holds across every such change
holds across whole runs.
-/

namespace ControlChannel

namespace Bridge

/-- A transport takes a text from the source: it is the data channel or the current socket. -/
def hears (b : Bridge) (t : TransportId) : Source → Bool
  | .socket s => (b.transport t).channels.socket == some s
  | .dataChannel => true

end Bridge

namespace Occurrence

/-- The message that a transport takes: one that comes from a source that it hears, and that can be
    read. -/
def message? (o : Occurrence) : Option Message :=
  match o.operation with
  | .receive source text =>
      if o.bridge.hears o.transport source then
        (Bridge.readText (o.bridge.transport o.transport).config.maxInboundBytes text).toOption
      else none
  | _ => none

/-- What is made of the inputs of constraints, if one of them is set. -/
def update? (o : Occurrence) : Option (ConstraintInputs → ConstraintInputs) :=
  o.message?.bind (·.update?)

/-- The channels of the transport afterwards. -/
def channelsAfter (o : Occurrence) (p : ChannelPair) : ChannelPair :=
  match o.operation with
  | .installSocket s | .slots (.putSocket s _) => p.putSocket s
  | .clearSocket s _ _ | .slots (.takeSocket s) => (p.clearSocket s).getD p
  | .receive (.socket s) _ | .slots (.markSocket s) => (p.markSocket s).getD p
  | .receive .dataChannel _ | .receiveBinary _ | .slots .markDataChannel => p.markDataChannel
  | .close | .slots .giveUpSocket => p.dropSocket
  | .installDataChannel d | .slots (.putDataChannel d) =>
      if (o.bridge.liveDataChannel o.transport).isNone then p.putDataChannel d else p
  | .dropTransport => {}
  | _ => p

/-- Where the transport stands afterwards, its inputs apart. -/
def moved (o : Occurrence) (st : Standing) : Standing :=
  { st with
    channels := o.channelsAfter st.channels
    attended := match o.operation with
      | .dropEndpoint => false
      | _ => st.attended
    live := match o.operation with
      | .dropTransport => false
      | _ => st.live }

/-- Where the transport stands afterwards. -/
def effect (o : Occurrence) (st : Standing) : Standing :=
  match o.update? with
  | some update => (o.moved st).set update
  | none => o.moved st

/-- Setting an input moves nothing else. -/
theorem effect_eq_moved (o : Occurrence) (st : Standing) :
    (o.effect st).channels = (o.moved st).channels ∧ (o.effect st).attended = (o.moved st).attended ∧
      (o.effect st).live = (o.moved st).live ∧ (o.effect st).endpointId = st.endpointId := by
  unfold effect
  cases o.update? <;> exact ⟨rfl, rfl, rfl, rfl⟩

/-- What is written about constraints meanwhile. -/
def events (o : Occurrence) : List Event :=
  match o.update? with
  | some update => (o.bridge.transport o.transport).standing.eventsOf o.transport update
  | none => []

/-- The view afterwards. -/
def viewAfter (o : Occurrence) : View :=
  (o.bridge.view.update o.transport o.effect).add o.events

end Occurrence

namespace Bridge

variable {b b' : Bridge} {t : TransportId}

theorem viewAfter_of_no_update {o : Occurrence} (setsNone : o.update? = none) :
    o.viewAfter = o.bridge.view.update o.transport o.moved := by
  unfold Occurrence.viewAfter Occurrence.effect Occurrence.events
  rw [setsNone]
  exact View.add_nil _

theorem view_stepSlots (b : Bridge) (t : TransportId) (operation : SlotOperation) :
    (b.stepSlots t operation).2.view =
      b.view.update t (Occurrence.moved ⟨b, t, .slots operation⟩) := by
  cases operation with
  | putSocket s greeting =>
    refine view_putSocket ?_ b t s
    intro b
    cases greeting with
    | none => rfl
    | some text =>
      cases sent : b.sendOn (.socket s) text with
      | ok b' => simpa [sent, Except.toOption] using view_sendOn sent
      | error e => simp [sent, Except.toOption]
  | takeSocket s => exact view_takeSocket b t s
  | markSocket s =>
    have shown : (b.stepSlots t (.markSocket s)).2 = (b.markSocket t s).getD b := by
      unfold stepSlots
      dsimp only
      cases b.markSocket t s <;> rfl
    rw [shown]
    exact view_markSocket b t s
  | markDataChannel => exact view_markDataChannel b t
  | putDataChannel d => exact view_putDataChannel b t d
  | giveUpSocket => exact view_giveUpSocket b t

/-- An operation that hands nothing to the endpoint. -/
theorem view_stepTransport {operation : TransportOperation} (notText : operation.received? = none)
    (b : Bridge) (t : TransportId) :
    (b.stepTransport t operation).2.view = Occurrence.viewAfter ⟨b, t, operation⟩ := by
  have setsNone : Occurrence.update? ⟨b, t, operation⟩ = none := by
    cases operation <;> first | rfl | cases notText
  rw [viewAfter_of_no_update setsNone]
  cases operation with
  | newSocket =>
    rw [Bridge.stepTransport, openSocket]
    have kept : b.view = b.view.update t (Occurrence.moved ⟨b, t, .newSocket⟩) :=
      (View.update_eq_self fun _ _ => rfl).symm
    rw [← kept]
    exact view_openSocket b _
  | installSocket s =>
    rw [Bridge.stepTransport, installSocket]
    rw [view_notifyConnected, view_log rfl, view_putSocket]
    · rfl
    · intro b
      exact view_sendVia b t _ _
  | clearSocket s status reason =>
    have shown : (b.clearSocket t s status reason).view = (b.takeSocket t s).2.view := by
      unfold Bridge.clearSocket
      obtain ⟨taken, b'⟩ := b.takeSocket t s
      cases taken
      · rfl
      · exact view_log rfl b'
    rw [Bridge.stepTransport, shown]
    exact view_takeSocket b t s
  | close =>
    have shown : (b.close t).view = (b.giveUpSocket t).2.view := by
      unfold Bridge.close
      obtain ⟨present, b'⟩ := b.giveUpSocket t
      cases present
      · rfl
      · exact view_log rfl b'
    rw [Bridge.stepTransport, shown]
    exact view_giveUpSocket b t
  | installDataChannel d =>
    rw [Bridge.stepTransport, view_installDataChannel]
    exact view_putDataChannel b t d
  | receive source text => cases notText
  | receiveBinary length =>
    rw [Bridge.stepTransport, receiveBinary, view_log rfl, view_countReceived]
    exact view_markDataChannel b t
  | send message =>
    rw [Bridge.stepTransport, send, view_dispatch]
    exact (View.update_eq_self fun _ _ => rfl).symm
  | dropEndpoint => exact view_updateTransport (fun _ => rfl) b t
  | dropTransport => exact view_updateTransport (fun _ => rfl) b t
  | joinConference c =>
    rw [Bridge.stepTransport, view_updateEndpoint]
    exact (View.update_eq_self fun _ _ => rfl).symm
  | rehearse script =>
    rw [Bridge.stepTransport, view_updateEndpoint]
    exact (View.update_eq_self fun _ _ => rfl).symm
  | slots operation => exact view_stepSlots b t operation
  | dispatch channel message =>
    rw [Bridge.stepTransport, view_dispatch]
    exact (View.update_eq_self fun _ _ => rfl).symm
  | sendVia channel message =>
    rw [Bridge.stepTransport, view_sendVia]
    exact (View.update_eq_self fun _ _ => rfl).symm
  | countReceived channel => exact (View.update_eq_self fun _ _ => rfl).symm

/-! ## A text -/

/-- Where a transport stands does not depend on its channels, these apart. -/
theorem transport_setChannels (b : Bridge) (t : TransportId) (channels : ChannelPair) :
    ∃ kept, (b.setChannels t channels).transport t = { b.transport t with channels := kept } := by
  unfold setChannels updateTransport transport
  dsimp only
  rw [List.getD_eq_getElem?_getD, List.getD_eq_getElem?_getD, List.getElem?_modify]
  cases b.transports[t]? with
  | none => exact ⟨_, rfl⟩
  | some tr => exact ⟨channels, by simp⟩

/-- A transport that takes note of a source hears it, and its channels move. -/
theorem hear_eq_some {source : Source} {channel : Option Channel} (text : String)
    (heard : b.hear t source = some (b', channel)) : b.hears t source = true ∧
      b'.view = b.view.update t (Occurrence.moved ⟨b, t, .receive source text⟩) ∧
      ∃ kept, b'.transport t = { b.transport t with channels := kept } := by
  cases source with
  | dataChannel =>
    cases heard
    refine ⟨rfl, ?_, transport_setChannels b t _⟩
    rw [view_countReceived]
    exact view_markDataChannel b t
  | socket s =>
    obtain ⟨marked, mark, same⟩ := Option.map_eq_some_iff.1 heard
    cases same
    have current : b.currentSocket t = some s := by
      by_cases current : b.currentSocket t = some s
      · exact current
      · rw [markSocket_of_ne current] at mark
        cases mark
    refine ⟨beq_iff_eq.2 current, ?_, ?_⟩
    · rw [view_countReceived]
      have viewed := view_markSocket b t s
      rw [mark] at viewed
      exact viewed
    · rw [markSocket_of_current current] at mark
      cases mark
      exact transport_setChannels b t _

/-- A source of which a transport takes no note is a socket that it does not hear. -/
theorem hear_eq_none {source : Source} (heard : b.hear t source = none) :
    ∃ s, source = .socket s ∧ b.currentSocket t ≠ some s := by
  cases source with
  | dataChannel => cases heard
  | socket s =>
    refine ⟨s, rfl, fun current => ?_⟩
    rw [hear, markSocket_of_current current] at heard
    cases heard

theorem view_receive_stale {s : SocketId} (other : b.currentSocket t ≠ some s) (text : String) :
    (b.receiveWith ignore t (.socket s) text).view =
      Occurrence.viewAfter ⟨b, t, .receive (.socket s) text⟩ := by
  have unheard : b.hears t (.socket s) = false := beq_false_of_ne other
  have setsNone : Occurrence.update? ⟨b, t, .receive (.socket s) text⟩ = none := by
    simp [Occurrence.update?, Occurrence.message?, unheard]
  have unmarked : b.markSocket t s = none := markSocket_of_ne other
  have kept := view_markSocket b t s
  rw [unmarked] at kept
  rw [viewAfter_of_no_update setsNone, receiveWith]
  simp only [unmarked]
  rw [view_log rfl, view_count]
  exact kept

/-- A text that cannot be read is not seen, and neither is the answer to one that can. -/
theorem view_handleText (b : Bridge) (t : TransportId) (channel : Option Channel) (text : String) :
    (b.handleText ignore t channel text).view =
      ((readText (b.transport t).config.maxInboundBytes text).toOption.elim b
        (b.handle ignore t)).view := by
  unfold handleText
  dsimp only
  cases readText (b.transport t).config.maxInboundBytes text with
  | error e =>
    dsimp only
    rw [view_log rfl, view_count]
    rfl
  | ok message =>
    dsimp only
    cases message.reply? with
    | none => exact view_count _ _
    | some answer =>
      dsimp only
      rw [view_reply, view_count]
      rfl

/-- A text for which the endpoint does nothing. -/
theorem view_receive (b : Bridge) (t : TransportId) (source : Source) (text : String) :
    (b.receiveWith ignore t source text).view =
      Occurrence.viewAfter ⟨b, t, .receive source text⟩ := by
  cases heard : b.hear t source with
  | none =>
    obtain ⟨s, rfl, other⟩ := hear_eq_none heard
    exact view_receive_stale other text
  | some found =>
    obtain ⟨b', channel⟩ := found
    obtain ⟨hears, viewed, kept, moved⟩ := hear_eq_some text heard
    have limit : (b'.transport t).config = (b.transport t).config := by rw [moved]
    have taken : Occurrence.message? ⟨b, t, .receive source text⟩ =
        (readText (b.transport t).config.maxInboundBytes text).toOption := by
      simp [Occurrence.message?, hears]
    rw [receiveWith_eq, heard]
    dsimp only
    rw [view_handleText, limit, ← taken]
    cases message : Occurrence.message? ⟨b, t, .receive source text⟩ with
    | none =>
      have setsNone : Occurrence.update? ⟨b, t, .receive source text⟩ = none := by
        rw [Occurrence.update?, message]
        rfl
      rw [viewAfter_of_no_update setsNone]
      exact viewed
    | some m =>
      have update : Occurrence.update? ⟨b, t, .receive source text⟩ = m.update? := by
        rw [Occurrence.update?, message]
        rfl
      dsimp only [Option.elim_some]
      cases sets : m.update? with
      | none =>
        rw [view_handle_of_no_update sets, viewed, viewAfter_of_no_update (update.trans sets)]
      | some set =>
        obtain ⟨entry, quiet, handled⟩ := handle_of_update (t := t) sets b'
        have told : ((b'.log entry).transport t).standing.eventsOf t set =
            (b.transport t).standing.eventsOf t set := by
          have logged : (b'.log entry).transport t = b'.transport t := rfl
          rw [logged, moved]
          rfl
        rw [handled, view_updateConstraints, told, view_log quiet, viewed, View.update_update,
          Occurrence.viewAfter, Occurrence.events, update, sets]
        congr 1
        refine View.update_congr fun st _ => ?_
        rw [Occurrence.effect, update, sets]
        rfl

/-- The view in which an endpoint is given constraints because of a text is the one in which it
    is left if it does nothing. -/
theorem view_of_pushOf {source : Source} {text : String} {constraints : SenderConstraints}
    (push : b.pushOf t source text = some (constraints, b')) :
    b'.view = Occurrence.viewAfter ⟨b, t, .receive source text⟩ := by
  obtain ⟨_, _, _, -, -, -, -, received⟩ := pushOf_eq_some push
  rw [← view_receive, received ignore, view_count]
  rfl

/-! ## A run -/

/-- What happens to no transport is not seen. -/
theorem view_step_outside {operation : Operation} (outside : b.occasion? operation = none) :
    (b.step operation).2.view = b.view := by
  cases operation with
  | newSocket buffer => exact view_openSocket b buffer
  | closeSession s status reason => exact view_closeSession b s status reason
  | sendText s text =>
    unfold step
    dsimp only
    cases sent : b.sendOn (.socket s) text with
    | ok b' => exact view_sendOn sent
    | error e => rfl
  | setReady d ready =>
    unfold step setReady
    dsimp only
    split
    · cases (b.setDataChannel d { b.dataChannel d with ready := ready }).listener d with
      | none => rfl
      | some t => exact view_notifyConnected _ t
    · rfl
  | deliverText d text =>
    rw [step, attempt_deliver_of_unreported (Option.map_eq_none_iff.1 outside)]
  | deliverBinary d length =>
    rw [step, attempt_deliver_of_unreported (Option.map_eq_none_iff.1 outside)]
  | transport t operation => cases outside
  | _ => rfl

theorem view_nextReactions {reactions : List Reaction}
    (next : b.nextReactions t = some (reactions, b')) : b'.view = b.view := by
  unfold nextReactions at next
  split at next
  · rename_i conference head script there
    cases next
    unfold updateTransport view
    congr 1
    funext u
    rw [List.getElem?_modify]
    by_cases here : t = u
    · subst here
      unfold transport at there
      rw [List.getD_eq_getElem?_getD] at there
      cases found : b.transports[t]? with
      | none => simp
      | some tr =>
        rw [found, Option.getD_some] at there
        simp [Transport.standing, there]
    · simp [here]
  · cases next

/-- Only the transport to which something happens comes to stand elsewhere. -/
theorem standing_viewAfter {o : Occurrence} {after : Standing}
    (found : o.viewAfter.standing t = some after) :
    ∃ before, o.bridge.view.standing t = some before ∧
      after = if t = o.transport then o.effect before else before := by
  have moved : (if t = o.transport then (o.bridge.view.standing t).map o.effect
      else o.bridge.view.standing t) = some after := found
  by_cases here : t = o.transport
  · rw [if_pos here] at moved
    obtain ⟨before, present, same⟩ := Option.map_eq_some_iff.1 moved
    exact ⟨before, present, by rw [if_pos here, same]⟩
  · rw [if_neg here] at moved
    exact ⟨after, moved, by rw [if_neg here]⟩

/-- A transport that has one of these marks is there. -/
theorem view_standing_of_mark (mark : Standing → Bool)
    (absent : mark (default : Transport).standing = false)
    (marked : mark (b.transport t).standing = true) :
    b.view.standing t = some (b.transport t).standing := by
  unfold view
  dsimp only
  cases found : b.transports[t]? with
  | none =>
    rw [transport, List.getD_eq_getElem?_getD, found, Option.getD_none, absent] at marked
    cases marked
  | some tr => rw [transport, List.getD_eq_getElem?_getD, found, Option.getD_some, Option.map_some]

/-- A relation that goes by the view alone, and that holds across whatever changes the view as
    something that happens does, holds across runs. -/
theorem Tracked.of_view {Q : Bridge → List Occurrence → Bridge → Prop}
    (trans : ∀ {b b' b'' past more}, Q b past b' → Q b' more b'' → Q b (past ++ more) b'')
    (same : ∀ {b b'}, b'.view = b.view → Q b [] b')
    (after : ∀ (o : Occurrence) {b'}, b'.view = o.viewAfter → Q o.bridge [o] b') : Tracked Q where
  refl _ := same rfl
  trans := trans
  outside occasion := same (view_step_outside occasion)
  operate t _ notText := after ⟨_, t, _⟩ (view_stepTransport notText _ t)
  absorb _ := after ⟨_, _, .receive _ _⟩ (view_receive _ _ _ _)
  push pushed := after ⟨_, _, .receive _ _⟩ (view_of_pushOf pushed)
  handled b _ := same (view_count b _)
  reacting _ next := same ((view_emit_of_not rfl _).trans (view_nextReactions next))
  reacted b _ _ := same (view_emit_of_not rfl b)

end Bridge

end ControlChannel
