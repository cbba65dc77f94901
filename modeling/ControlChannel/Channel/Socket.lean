import ControlChannel.Channel.Basic
import ControlChannel.Error

/-!
# Sockets

The bridge's half of a socket is a bounded queue of frames that the wire takes from. Sending never
waits: a frame that does not fit is refused. Closing a session puts a last frame into the
queue if it fits, and in any case marks the session closed and wakes the wire. Every handle of
one socket shares its state, so there is one state for each socket, and it counts the handles that
are held outside the bridge.
-/

namespace ControlChannel

/-- What the wire is to write. -/
inductive Frame where
  | text (content : String)
  | close (status : UInt16) (reason : String)
  deriving DecidableEq, Repr

/-- The state of a socket. -/
structure Socket where
  /-- The number of frames that the queue has room for. -/
  capacity : Nat
  queue : List Frame := []
  /-- The session was closed by the bridge. -/
  closed : Bool := false
  /-- The wire was told that the session is closed. -/
  cancelled : Bool := false
  /-- The wire still takes frames. -/
  receiving : Bool := true
  /-- The number of handles held outside the bridge. -/
  handles : Nat := 1
  deriving DecidableEq, Repr

/-- What became of a request to close a session. -/
inductive Closing where
  /-- The session was closed before. -/
  | already
  /-- The last frame was queued. -/
  | queued
  /-- The last frame was not queued. -/
  | unqueued (error : TransportError)
  deriving DecidableEq, Repr

/-- What the wire finds when it looks for a frame. -/
inductive Poll where
  | frame (frame : Frame)
  /-- No frame will ever come. -/
  | finished
  /-- A frame may come. -/
  | pending
  deriving DecidableEq, Repr

namespace Socket

instance : Inhabited Socket := ⟨{ capacity := 1, closed := true, receiving := false, handles := 0 }⟩

/-- A new socket whose queue has room for `buffer` frames, and at least one. -/
def create (buffer : Nat) : Except Misuse Socket :=
  if longestQueue < max buffer 1 then .error .queueTooLong
  else .ok { capacity := max buffer 1 }

/-- Queues a frame if the wire still takes frames and there is room. -/
def offer (s : Socket) (frame : Frame) : Except TransportError Socket :=
  if ¬ s.receiving then .error .channelClosed
  else if s.queue.length < s.capacity then .ok { s with queue := s.queue ++ [frame] }
  else .error .backpressure

/-- Queues a text, unless the session is closed. -/
def send (s : Socket) (text : String) : Except TransportError Socket :=
  if s.closed then .error .channelClosed else s.offer (.text text)

/-- Closes the session. Only the first request does anything. -/
def close (s : Socket) (status : UInt16) (reason : String) : Socket × Closing :=
  if s.closed then (s, .already)
  else
    match s.offer (.close status reason) with
    | .ok s => ({ s with closed := true, cancelled := true }, .queued)
    | .error e => ({ s with closed := true, cancelled := true }, .unqueued e)

/-- Takes the oldest frame. -/
def take (s : Socket) : Option Frame × Socket :=
  match s.queue with
  | [] => (none, s)
  | frame :: rest => (some frame, { s with queue := rest })

/-- What the wire finds, and the state after it. `held` says whether any handle of the socket is
    left, inside the bridge or outside. -/
def poll (s : Socket) (held : Bool) : Poll × Socket :=
  match s.take with
  | (some frame, s) => (.frame frame, s)
  | (none, s) => (if s.cancelled || !held then .finished else .pending, s)

/-- The wire goes away, and the frames that it has not taken with it. -/
def dropReceiver (s : Socket) : Socket :=
  { s with receiving := false, queue := [] }

end Socket

end ControlChannel
