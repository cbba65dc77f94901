import ControlChannel.Proofs.Bridge.Growth
import ControlChannel.Proofs.Message.Stamp

/-!
# Who a delivered message is from

No endpoint speaks for another. A message that a conference is given says, down to its text, that it
is from the endpoint of the transport on which it was received.
-/

namespace ControlChannel.Bridge

/-- Every message that is given to a conference while a text is received is passed on for an
    inbound text, in the name of the transport's endpoint: for the text received, or for one that
    the endpoint itself feeds back meanwhile. -/
theorem receive_sender (b : Bridge) (t : TransportId) (source : Source) (text : String) :
    ∃ events, (b.receive t source text).trace = b.trace ++ events ∧
      ∀ c m targets relayRemote, .delivered c m targets relayRemote ∈ events →
        ∃ inbound ∈ text :: b.scriptedTexts t,
          EndpointMessage.PassedOn (b.transport t).endpointId inbound m := by
  have meant : ∀ inbound ∈ text :: b.scriptedTexts t, Permits t (fun m =>
      ∃ inbound ∈ text :: b.scriptedTexts t,
        EndpointMessage.PassedOn (b.transport t).endpointId inbound m) b inbound := by
    intro inbound mem m decoded
    exact ⟨inbound, mem, EndpointMessage.passedOn_of_decode _ decoded⟩
  obtain ⟨here, inScript⟩ := List.forall_mem_cons.1 meant
  obtain ⟨events, trace, hands⟩ := (Grows.receive source here inScript).trace_append
  refine ⟨events, trace, ?_⟩
  intro c m targets relayRemote mem
  exact hands _ mem

/-- Two endpoints in a conference, the first of which has a socket. -/
def twoEndpoints : Bridge where
  sockets := [{ capacity := 1 }]
  conferences := [{ locals := ["a", "b"], remotes := [] }]
  statistics := [{}]
  transports := [{ Transport.create "a" {} (some 0) 0 with channels := { socket := some 0 } }]

/-- What the first endpoint sends as if it were the second one, and its text. -/
def spoofedObject : Json :=
  .object [("from", .string "b"), ("x", .number (.integer 1)),
    ("colibriClass", .string "EndpointMessage")]

def spoofedText : String :=
  "\x7b\"from\":\"b\",\"x\":1,\"colibriClass\":\"EndpointMessage\"\x7d"

/-- The message that is delivered. -/
def unspoofedMessage : EndpointMessage :=
  ⟨some "a", none, .ofMembers [("x", .number (.integer 1))]⟩

theorem receive_sender_spoofed :
    .delivered 0 unspoofedMessage ["b"] true ∈
        (twoEndpoints.receive 0 (.socket 0) spoofedText).trace ∧
      EndpointMessage.PassedOn "a" spoofedText unspoofedMessage := by
  have integral : spoofedObject.IsIntegral := by
    simp [spoofedObject, Json.IsIntegral, Json.Everywhere, Json.EverywhereMembers, Json.NumberFits]
  have written : spoofedText = spoofedObject.toText := rfl
  have held : Json.ofText spoofedText = .ok spoofedObject := by
    rw [written]
    exact Json.ofText_toText integral (by decide)
  have decoded : Message.decode spoofedText =
      .ok (.endpointMessage { unspoofedMessage with sender := some "b" }) :=
    Message.decode_of_object held rfl rfl
  have accepted (limit : Nat) (fits : ¬ limit < spoofedText.utf8ByteSize) :
      readText limit spoofedText =
        .ok (.endpointMessage { unspoofedMessage with sender := some "b" }) := by
    rw [readText, if_neg fits, decoded]
    rfl
  have current : twoEndpoints.markSocket 0 0 =
      some (twoEndpoints.setChannels 0 { socket := some 0, lastActive := .socket }) := rfl
  have delivered : .delivered 0 unspoofedMessage ["b"] true ∈
      (twoEndpoints.receive 0 (.socket 0) spoofedText).trace := by
    unfold receive receiveWith
    dsimp only
    rw [current]
    dsimp only [handleText]
    rw [accepted]
    · exact List.mem_of_getElem? (i := 2) rfl
    · have fits : ¬ 65536 < spoofedText.utf8ByteSize := by decide
      exact fits
  obtain ⟨events, trace, senders⟩ := receive_sender twoEndpoints 0 (.socket 0) spoofedText
  have appended : .delivered 0 unspoofedMessage ["b"] true ∈ events := by
    rw [trace] at delivered
    exact delivered
  obtain ⟨inbound, mem, passedOn⟩ := senders _ _ _ _ appended
  obtain rfl : inbound = spoofedText := List.mem_singleton.1 mem
  exact ⟨delivered, passedOn⟩

end ControlChannel.Bridge
