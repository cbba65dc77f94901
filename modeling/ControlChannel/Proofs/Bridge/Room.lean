import ControlChannel.Proofs.Bridge.SocketQueue
import ControlChannel.Proofs.Settings

/-!
# Room for frames

A socket that a transport makes takes exactly as many texts as the settings say before one does not
fit. The settings that can be loaded do not all fit a queue, though: a word of 64 bits holds numbers
that are greater than the length of any queue, and with such a setting no socket is made.
-/

namespace ControlChannel

/-- Texts are sent one after the other: those for which there is room are accepted, and the others
    are refused because the queue is full. -/
def SocketLog.filling (room : Nat) (texts : List String) : SocketLog :=
  ((texts.take room).map fun text => (.send text, .done)) ++
    (texts.drop room).map fun text => (.send text, .refused .backpressure)

namespace Bridge

variable {b : Bridge} {t : TransportId} {s : SocketId} {vars : String → Option String} {c : Config}

/-- While the wire takes nothing, an open queue accepts texts until it is full, and keeps them in
    order. The induction is on the texts. -/
theorem useLog_send {room : Nat} (present : s < b.sockets.length)
    (isOpen : (b.socket s).closed = false) (receiving : (b.socket s).receiving = true)
    (left : (b.socket s).queue.length + room = (b.socket s).capacity) (texts : List String) :
    b.useLog s (texts.map .send) = SocketLog.filling room texts ∧
      ((b.afterUses s (texts.map .send)).socket s).queue =
        (b.socket s).queue ++ (texts.take room).map .text := by
  induction texts generalizing b room with
  | nil => simp [useLog, SocketLog.filling, afterUses, run]
  | cons text rest ih =>
    have later : b.afterUses s ((text :: rest).map .send) =
        (b.step (.sendText s text)).2.afterUses s (rest.map .send) := rfl
    have asked : (b.socket s).send text = (b.socket s).offer (.text text) :=
      Socket.send_of_open isOpen text
    rw [later, List.map_cons, useLog, SocketUse.operation]
    cases room with
    | zero =>
      have full : (b.socket s).capacity ≤ (b.socket s).queue.length := Nat.le_of_eq left.symm
      rw [Socket.offer_of_full receiving full] at asked
      obtain ⟨log, queue⟩ := ih present isOpen receiving left
      rw [step_sendText_of_error asked, log, queue]
      exact ⟨rfl, rfl⟩
    | succ room =>
      have free : (b.socket s).queue.length < (b.socket s).capacity := by omega
      rw [Socket.offer_of_room receiving free] at asked
      have stillPresent := length_sockets_use b s (.send text) ▸ present
      obtain ⟨-, state⟩ := step_use present (.send text)
      simp only [Socket.use, SocketUse.operation, asked] at state stillPresent
      have fewer : ((b.step (.sendText s text)).2.socket s).queue.length + room =
          ((b.step (.sendText s text)).2.socket s).capacity := by
        rw [state, List.length_append, ← left, Nat.add_right_comm]
        rfl
      obtain ⟨log, queue⟩ := ih stillPresent (by rw [state]; exact isOpen)
        (by rw [state]; exact receiving) fewer
      rw [step_sendText_of_ok asked, log, queue, state]
      exact ⟨rfl, by rw [List.append_assoc]; rfl⟩

/-! ## Sockets of transports -/

/-- The length of a queue is set to its default or to the value of the numeral in its variable. -/
theorem sendBuffer_cases (loaded : Config.ofVars vars = .ok c) : c.sendBuffer = 256 ∨
    ∃ text, vars "BRIDGE_SOCKET_SEND_BUFFER" = some text ∧ IsNumeral c.sendBuffer text ∧
      0 < c.sendBuffer ∧ c.sendBuffer < 2 ^ 64 := by
  have settles := Config.ofVars_eq_ok.1 loaded .sendBuffer
  obtain ⟨found, read, same⟩ := Setting.settles_iff.1 settles
  cases found with
  | none => exact .inl (Int.ofNat.inj same).symm
  | some n =>
    obtain rfl : n = c.sendBuffer := Int.ofNat.inj same
    exact .inr (Setting.read_eq_some.1 read)

/-- The settings ask for a queue that is too long if their variable holds a numeral as great as
    that. -/
theorem longestQueue_lt_sendBuffer (loaded : Config.ofVars vars = .ok c) :
    longestQueue < c.sendBuffer ↔ ∃ text n, vars "BRIDGE_SOCKET_SEND_BUFFER" = some text ∧
      IsNumeral n text ∧ 2 ^ 61 ≤ n ∧ n < 2 ^ 64 := by
  have bound : longestQueue + 1 = 2 ^ 61 := rfl
  constructor
  · intro long
    rcases sendBuffer_cases loaded with default | ⟨text, held, written, -, fits⟩
    · omega
    · exact ⟨text, c.sendBuffer, held, written, by omega, fits⟩
  · rintro ⟨text, n, held, written, long, fits⟩
    have settles := Config.ofVars_eq_ok.1 loaded .sendBuffer
    have same : c.sendBuffer = n :=
      Int.ofNat.inj (settles.unique (.numeral held written ⟨by omega, fits⟩))
    omega

/-- A queue that is not too long is made for a new socket. -/
theorem addSocket_of_le {buffer : Nat} (positive : 0 < buffer) (short : buffer ≤ longestQueue) :
    b.addSocket buffer = .ok (b.sockets.length,
      { b with sockets := b.sockets ++ [{ capacity := buffer }] }) := by
  have atLeastOne : max buffer 1 = buffer := Nat.max_eq_left positive
  unfold addSocket Socket.create
  rw [atLeastOne, if_neg (Nat.not_lt.2 short)]
  rfl

/-- A socket that was just made accepts as many texts as its queue was made for. -/
theorem useLog_of_addSocket {made : Bridge} {buffer : Nat} (positive : 0 < buffer)
    (opened : b.addSocket buffer = .ok (s, made)) (texts : List String) :
    made.useLog s (texts.map .send) = SocketLog.filling buffer texts ∧
      ((made.afterUses s (texts.map .send)).socket s).queue =
        (texts.take buffer).map .text := by
  obtain ⟨present, fresh⟩ := addSocket_eq_ok opened
  rw [Nat.max_eq_left positive] at fresh
  have left : (made.socket s).queue.length + buffer = (made.socket s).capacity := by
    rw [fresh]
    exact Nat.zero_add buffer
  have filled := useLog_send present (by rw [fresh]) (by rw [fresh]) left texts
  rwa [fresh] at filled

/-- Settings that are loaded give sockets with as much room as they say, unless they say too much.
    For all variables that can be loaded, and every transport with these settings: if the queue
    would not be too long, then a socket is made, and of all texts that are sent on it while its
    wire takes nothing, exactly as many are accepted and stand in its queue as the settings say, and
    every further one is refused because the queue is full. If the queue would be too long, then no
    socket is made and nothing changes. It is too long exactly where the variable holds a numeral
    that fits into a word of 64 bits and not into 61 bits. -/
theorem newSocket_of_loaded (loaded : Config.ofVars vars = .ok c)
    (configured : (b.transport t).config = c) :
    (c.sendBuffer ≤ longestQueue →
      ∃ made, b.stepTransport t .newSocket = (.socket b.sockets.length, made) ∧ ∀ texts,
        made.useLog b.sockets.length (texts.map .send) = SocketLog.filling c.sendBuffer texts ∧
        ((made.afterUses b.sockets.length (texts.map .send)).socket b.sockets.length).queue =
          (texts.take c.sendBuffer).map .text) ∧
    (longestQueue < c.sendBuffer → b.stepTransport t .newSocket = (.misused .queueTooLong, b)) ∧
    (longestQueue < c.sendBuffer ↔ ∃ text n, vars "BRIDGE_SOCKET_SEND_BUFFER" = some text ∧
      IsNumeral n text ∧ 2 ^ 61 ≤ n ∧ n < 2 ^ 64) := by
  have positive : 0 < c.sendBuffer := by
    rcases sendBuffer_cases loaded with default | ⟨text, -, -, positive, -⟩
    · omega
    · exact positive
  have atLeastOne : max c.sendBuffer 1 = c.sendBuffer := Nat.max_eq_left positive
  refine ⟨fun short => ?_, fun long => ?_, longestQueue_lt_sendBuffer loaded⟩
  · have created := addSocket_of_le (b := b) positive short
    refine ⟨_, ?_, useLog_of_addSocket positive created⟩
    unfold stepTransport openSocket
    rw [configured, created]
  · unfold stepTransport openSocket addSocket Socket.create
    rw [configured, atLeastOne, if_pos long]
    rfl

/-- A transport with the settings of these variables, if they can be loaded. -/
def withSettings (vars : String → Option String) : Bridge where
  statistics := [{}]
  transports := [Transport.create "e" ((Config.ofVars vars).toOption.getD {}) none 0]

/-- The variable for the length of a queue holds this text, and the others are not there. -/
def bufferVar (text : String) (name : String) : Option String :=
  if name = "BRIDGE_SOCKET_SEND_BUFFER" then some text else none

/-- A socket for two frames takes two texts and refuses the third. -/
theorem newSocket_of_loaded_two :
    let vars := bufferVar " +02"
    let made := ((withSettings vars).step (.transport 0 .newSocket)).2
    (Config.ofVars vars).toOption.map (·.sendBuffer) = some 2 ∧
      made.useLog 0 [.send "a", .send "b", .send "c"] =
        [(.send "a", .done), (.send "b", .done), (.send "c", .refused .backpressure)] := by
  intro vars made
  have loaded : Config.ofVars vars = .ok { sendBuffer := 2 } := by decide +kernel
  have configured : ((withSettings vars).transport 0).config = { sendBuffer := 2 } := by
    unfold withSettings
    rw [loaded]
    rfl
  obtain ⟨socket, opened, room⟩ :=
    (newSocket_of_loaded loaded configured).1 (by decide)
  have same : made = socket := congrArg Prod.snd opened
  rw [same, loaded]
  exact ⟨rfl, (room ["a", "b", "c"]).1⟩

/-- There are settings that can be loaded and with which no socket can be made. -/
theorem not_newSocket_of_loaded :
    let vars := bufferVar "2305843009213693952"
    Config.ofVars vars = .ok { sendBuffer := 2305843009213693952 } ∧
      ((withSettings vars).step (.transport 0 .newSocket)).1 = .misused .queueTooLong := by
  decide +kernel

end Bridge

end ControlChannel
