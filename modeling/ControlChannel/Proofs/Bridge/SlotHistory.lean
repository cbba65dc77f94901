import ControlChannel.Proofs.Bridge.Slots
import Mathlib.Data.List.Basic

/-!
# The life of the sockets in a slot

Over a whole run of calls every socket that was installed is accounted for: it was displaced, given
up or cleared, or it is still in the slot. The history of a run says what was called, what it came
to, and what was closed.
-/

namespace ControlChannel

/-- What one call of a run came to. -/
structure SlotEntry where
  call : SlotCall
  answer : Answer
  closes : List SlotClose
  deriving DecidableEq

namespace SlotEntry

/-- The socket that the call cleared. -/
def cleared (entry : SlotEntry) : Option SocketId :=
  match entry.call, entry.answer with
  | .operate (.takeSocket s), .flag true => some s
  | _, _ => none

/-- The call took the socket out of the slot, by its id or with whatever was there. -/
def Removes (entry : SlotEntry) (s : SocketId) : Prop :=
  entry.answer = .flag true ∧
    (entry.call = .operate (.takeSocket s) ∨ entry.call = .operate .giveUpSocket)

end SlotEntry

/-- What the calls of a run came to, in order. -/
abbrev SlotHistory := List SlotEntry

namespace SlotHistory

/-- The sockets that were installed. -/
def installed (history : SlotHistory) : List SocketId :=
  history.filterMap (·.call.installs)

/-- The sockets that were cleared. -/
def cleared (history : SlotHistory) : List SocketId :=
  history.filterMap (·.cleared)

/-- The sockets that were closed, with what they were closed with. -/
def closes (history : SlotHistory) : List SlotClose :=
  history.flatMap (·.closes)

/-- The sockets that were closed. -/
def closed (history : SlotHistory) : List SocketId :=
  history.closes.map (·.socket)

/-- What was closed because another socket took its place. -/
def replaced (history : SlotHistory) : List SlotClose :=
  history.closes.filter fun close => close.status = 200 ∧ close.reason = "replaced"

/-- What was closed because the slot was given up. -/
def gone (history : SlotHistory) : List SlotClose :=
  history.closes.filter fun close => close.status = 410 ∧ close.reason = "gone"

/-- No other socket was installed, and `s` was not removed. -/
def Keeps (history : SlotHistory) (s : SocketId) : Prop :=
  ∀ entry ∈ history, entry.call.installs = none ∧ ¬ entry.Removes s

theorem filterMap_cons_toList {α β : Type} (f : α → Option β) (head : α) (tail : List α) :
    (head :: tail).filterMap f = (f head).toList ++ tail.filterMap f := by
  cases found : f head <;> simp [found]

variable (entry : SlotEntry) (history : SlotHistory)

theorem installed_cons :
    installed (entry :: history) = entry.call.installs.toList ++ history.installed :=
  filterMap_cons_toList _ entry history

theorem cleared_cons : cleared (entry :: history) = entry.cleared.toList ++ history.cleared :=
  filterMap_cons_toList _ entry history

theorem closed_cons :
    closed (entry :: history) = entry.closes.map (·.socket) ++ history.closed := by
  simp [closed, closes]

end SlotHistory

namespace Bridge

/-- What a call comes to. -/
def entry (b : Bridge) (t : TransportId) (call : SlotCall) : SlotEntry :=
  ⟨call, (b.call t call).1, call.closes (b.currentSocket t)⟩

/-- The bridge after calls on the slots of a transport. -/
def afterCalls (b : Bridge) (t : TransportId) : List SlotCall → Bridge
  | [] => b
  | call :: rest => (b.call t call).2.afterCalls t rest

/-- What calls on the slots of a transport come to. -/
def history (b : Bridge) (t : TransportId) : List SlotCall → SlotHistory
  | [] => []
  | call :: rest => b.entry t call :: (b.call t call).2.history t rest

/-- The current socket is closed exactly where a different one is installed or the slot is given up,
    and only once; apart from that nothing becomes of the sockets but that a new one is greeted. -/
structure ClosesExactly (b : Bridge) (t : TransportId) (call : SlotCall) (next : Bridge)
    (closes : List SlotClose) : Prop where
  mem_iff (close : SlotClose) : close ∈ closes ↔ b.currentSocket t = some close.socket ∧
    ((∃ s greeting, call = .operate (.putSocket s greeting) ∧ s ≠ close.socket ∧
        close.status = 200 ∧ close.reason = "replaced") ∨
      (call = .operate .giveUpSocket ∧ close.status = 410 ∧ close.reason = "gone"))
  length_le_one : closes.length ≤ 1
  sockets_eq : next.sockets = (call.greet (b.closeEach closes)).sockets

variable {b : Bridge} {t : TransportId}

/-! ## One entry -/

theorem answer_takeSocket (b : Bridge) (t : TransportId) (s : SocketId) :
    (b.call t (.operate (.takeSocket s))).1 = .flag true ↔ b.currentSocket t = some s := by
  rw [call, stepSlots]
  by_cases current : b.currentSocket t = some s
  · rw [takeSocket_of_current current]
    simp [current]
  · rw [takeSocket_of_ne current]
    simp [current]

theorem answer_giveUpSocket (b : Bridge) (t : TransportId) :
    (b.call t (.operate .giveUpSocket)).1 = .flag true ↔ (b.currentSocket t).isSome := by
  rw [call, stepSlots]
  cases current : b.currentSocket t with
  | none =>
    rw [giveUpSocket_of_none current]
    simp
  | some s =>
    rw [giveUpSocket_of_some current]
    simp

theorem cleared_takeSocket (b : Bridge) (t : TransportId) (s : SocketId) :
    (b.entry t (.operate (.takeSocket s))).cleared =
      if b.currentSocket t = some s then some s else none := by
  by_cases current : b.currentSocket t = some s
  · have success := (answer_takeSocket b t s).2 current
    simp [SlotEntry.cleared, entry, success, current]
  · have failure := mt (answer_takeSocket b t s).1 current
    rw [if_neg current]
    unfold SlotEntry.cleared entry
    split
    · rename_i taken answer
      exact absurd answer failure
    · rfl

/-- The socket in the slot after a call was put there by it, or was there and was left there. -/
theorem slotAfter_eq_some (b : Bridge) (t : TransportId) (call : SlotCall) (s : SocketId) :
    call.slotAfter (b.currentSocket t) = some s ↔
      call.installs = some s ∨
        call.installs = none ∧ b.currentSocket t = some s ∧ ¬ (b.entry t call).Removes s := by
  cases call with
  | activeChannel => simp [SlotCall.slotAfter, SlotCall.installs, SlotEntry.Removes, entry]
  | operate operation =>
    cases operation with
    | putSocket new greeting => simp [SlotCall.slotAfter, SlotCall.installs]
    | takeSocket old =>
      have removes : (b.entry t (.operate (.takeSocket old))).Removes s ↔
          b.currentSocket t = some old ∧ old = s := by
        simp [SlotEntry.Removes, entry, answer_takeSocket]
      simp only [removes, SlotCall.slotAfter, SlotCall.installs, Option.filter_eq_some_iff]
      constructor
      · rintro ⟨current, apart⟩
        refine .inr ⟨trivial, current, ?_⟩
        rintro ⟨-, rfl⟩
        simp at apart
      · rintro (new | ⟨-, current, kept⟩)
        · cases new
        · refine ⟨current, ?_⟩
          have apart : s ≠ old := by
            rintro rfl
            exact kept ⟨current, rfl⟩
          simpa using apart
    | giveUpSocket =>
      have removes : (b.entry t (.operate .giveUpSocket)).Removes s ↔
          (b.currentSocket t).isSome := by
        simp [SlotEntry.Removes, entry, answer_giveUpSocket]
      simp only [removes, SlotCall.slotAfter, SlotCall.installs]
      constructor
      · intro absent
        cases absent
      · rintro (new | ⟨-, current, kept⟩)
        · cases new
        · exact absurd (by simp [current]) kept
    | _ => simp [SlotCall.slotAfter, SlotCall.installs, SlotEntry.Removes, entry]

theorem mem_closes {current : Option SocketId} {call : SlotCall} {close : SlotClose} :
    close ∈ call.closes current ↔ current = some close.socket ∧
      ((∃ s greeting, call = .operate (.putSocket s greeting) ∧ s ≠ close.socket ∧
          close.status = 200 ∧ close.reason = "replaced") ∨
        (call = .operate .giveUpSocket ∧ close.status = 410 ∧ close.reason = "gone")) := by
  obtain ⟨socket, status, reason⟩ := close
  cases call with
  | activeChannel => simp [SlotCall.closes]
  | operate operation =>
    cases operation with
    | putSocket s greeting =>
      simp only [SlotCall.closes, List.mem_map, Option.mem_toList, Option.filter_eq_some_iff]
      constructor
      · rintro ⟨old, ⟨current, apart⟩, same⟩
        cases same
        exact ⟨current, .inl ⟨s, greeting, rfl, Ne.symm (by simpa using apart), rfl, rfl⟩⟩
      · rintro ⟨current, ⟨_, _, same, apart, rfl, rfl⟩ | ⟨other, -⟩⟩
        · cases same
          exact ⟨socket, ⟨current, by simpa using Ne.symm apart⟩, rfl⟩
        · cases other
    | giveUpSocket =>
      simp only [SlotCall.closes, List.mem_map, Option.mem_toList]
      constructor
      · rintro ⟨old, current, same⟩
        cases same
        exact ⟨current, .inr ⟨trivial, rfl, rfl⟩⟩
      · rintro ⟨current, ⟨_, _, other, -⟩ | ⟨-, rfl, rfl⟩⟩
        · cases other
        · exact ⟨socket, current, rfl⟩
    | _ => simp [SlotCall.closes]

theorem length_closes_le_one (current : Option SocketId) (call : SlotCall) :
    (call.closes current).length ≤ 1 := by
  have short (found : Option SocketId) : found.toList.length ≤ 1 := by cases found <;> simp
  unfold SlotCall.closes
  split
  · rw [List.length_map]
    exact short _
  · rw [List.length_map]
    exact short _
  · exact Nat.zero_le _

theorem closesExactly (b : Bridge) (t : TransportId) (call : SlotCall) :
    ClosesExactly b t call (b.call t call).2 (b.entry t call).closes where
  mem_iff _ := mem_closes
  length_le_one := length_closes_le_one _ call
  sockets_eq := sockets_call b t call

theorem sockets_closes_putSocket (current : Option SocketId) (s : SocketId)
    (greeting : Option String) :
    (SlotCall.closes current (.operate (.putSocket s greeting))).map (·.socket) =
      (current.filter (· ≠ s)).toList := by
  rw [SlotCall.closes, List.map_map]
  exact List.map_id _

theorem sockets_closes_giveUpSocket (current : Option SocketId) :
    (SlotCall.closes current (.operate .giveUpSocket)).map (·.socket) = current.toList := by
  rw [SlotCall.closes, List.map_map]
  exact List.map_id _

/-- A call that does not install the current socket again moves sockets between the slot, the closed
    ones and the cleared ones: none is lost, and none is in two places. -/
theorem entry_balance (b : Bridge) (t : TransportId) (call : SlotCall)
    (new : ((b.currentSocket t).toList ++ call.installs.toList).Nodup) :
    (b.currentSocket t).toList ++ call.installs.toList =
      (b.entry t call).closes.map (·.socket) ++ (b.entry t call).cleared.toList ++
        (call.slotAfter (b.currentSocket t)).toList := by
  cases call with
  | activeChannel => simp [SlotCall.installs, SlotCall.slotAfter, entry, SlotEntry.cleared,
      SlotCall.closes]
  | operate operation =>
    cases operation with
    | putSocket s greeting =>
      have noneCleared : (b.entry t (.operate (.putSocket s greeting))).cleared = none := rfl
      rw [noneCleared, entry, sockets_closes_putSocket]
      cases current : b.currentSocket t with
      | none => rfl
      | some old =>
        have apart : old ≠ s := by
          rintro rfl
          simp [SlotCall.installs, current] at new
        rw [Option.filter_some, if_pos (by simpa using apart)]
        rfl
    | takeSocket s =>
      rw [cleared_takeSocket]
      have noneClosed : (b.entry t (.operate (.takeSocket s))).closes = [] := rfl
      rw [noneClosed]
      cases current : b.currentSocket t with
      | none => rfl
      | some old =>
        by_cases same : old = s
        · simp [SlotCall.installs, SlotCall.slotAfter, same, Option.filter_some]
        · simp [SlotCall.installs, SlotCall.slotAfter, same, Option.filter_some]
    | giveUpSocket =>
      have noneCleared : (b.entry t (.operate .giveUpSocket)).cleared = none := rfl
      rw [noneCleared, entry, sockets_closes_giveUpSocket]
      simp [SlotCall.installs, SlotCall.slotAfter]
    | _ => simp [SlotCall.installs, SlotCall.slotAfter, entry, SlotEntry.cleared, SlotCall.closes]

/-! ## Runs -/

theorem history_append (b : Bridge) (t : TransportId) (calls more : List SlotCall) :
    b.history t (calls ++ more) = b.history t calls ++ (b.afterCalls t calls).history t more := by
  induction calls generalizing b with
  | nil => rfl
  | cons call rest ih => rw [List.cons_append, history, ih, history, afterCalls, List.cons_append]

/-- A split of a list has its point at the head or in the tail. -/
theorem exists_split_cons {α : Type} {p : α → List α → Prop} {head : α} {tail : List α} :
    (∃ before a after, head :: tail = before ++ a :: after ∧ p a after) ↔
      p head tail ∨ ∃ before a after, tail = before ++ a :: after ∧ p a after := by
  constructor
  · rintro ⟨before, a, after, split, holds⟩
    cases before with
    | nil =>
      cases split
      exact .inl holds
    | cons first before =>
      cases split
      exact .inr ⟨before, a, after, rfl, holds⟩
  · rintro (holds | ⟨before, a, after, rfl, holds⟩)
    · exact ⟨[], head, tail, rfl, holds⟩
    · exact ⟨head :: before, a, after, rfl, holds⟩

/-- The slot holds what was installed last and not removed since, or still what it held at first. -/
theorem currentSocket_afterCalls (present : t < b.transports.length) (calls : List SlotCall)
    (s : SocketId) :
    (b.afterCalls t calls).currentSocket t = some s ↔
      (∃ before entry since, b.history t calls = before ++ entry :: since ∧
        entry.call.installs = some s ∧ SlotHistory.Keeps since s) ∨
      b.currentSocket t = some s ∧ (b.history t calls).Keeps s := by
  induction calls generalizing b with
  | nil => simp [afterCalls, history, SlotHistory.Keeps]
  | cons call rest ih =>
    have stillPresent : t < (b.call t call).2.transports.length := by
      rwa [length_transports_call]
    have keeps (later : SlotHistory) : SlotHistory.Keeps (b.entry t call :: later) s ↔
        (call.installs = none ∧ ¬ (b.entry t call).Removes s) ∧ later.Keeps s := by
      simp [SlotHistory.Keeps, entry]
    rw [afterCalls, ih stillPresent, history, exists_split_cons, currentSocket_call present,
      slotAfter_eq_some, keeps]
    constructor
    · rintro (later | ⟨new | ⟨noOther, current, kept⟩, since⟩)
      · exact .inl (.inr later)
      · exact .inl (.inl ⟨new, since⟩)
      · exact .inr ⟨current, ⟨noOther, kept⟩, since⟩
    · rintro ((⟨new, since⟩ | later) | ⟨current, ⟨noOther, kept⟩, since⟩)
      · exact .inr ⟨.inl new, since⟩
      · exact .inl later
      · exact .inr ⟨.inr ⟨noOther, current, kept⟩, since⟩

/-- While no socket is installed a second time, each is at every moment in exactly one place: among
    the closed ones, among the cleared ones, or in the slot. -/
theorem history_balance (present : t < b.transports.length) (calls : List SlotCall)
    (new : ((b.currentSocket t).toList ++ (b.history t calls).installed).Nodup) :
    ((b.currentSocket t).toList ++ (b.history t calls).installed).Perm
      ((b.history t calls).closed ++ (b.history t calls).cleared ++
        ((b.afterCalls t calls).currentSocket t).toList) := by
  induction calls generalizing b with
  | nil => simp [afterCalls, history, SlotHistory.installed, SlotHistory.closed, SlotHistory.closes,
      SlotHistory.cleared]
  | cons call rest ih =>
    rw [history, SlotHistory.installed_cons, ← List.append_assoc] at new
    have stillPresent : t < (b.call t call).2.transports.length := by
      rwa [length_transports_call]
    have step : (b.currentSocket t).toList ++ (b.entry t call).call.installs.toList =
        (b.entry t call).closes.map (·.socket) ++ (b.entry t call).cleared.toList ++
          ((b.call t call).2.currentSocket t).toList := by
      rw [currentSocket_call present]
      exact entry_balance b t call (List.nodup_append.1 new).1
    have later := ih stillPresent (by
      rw [step, List.append_assoc] at new
      exact (List.nodup_append.1 new).2.1)
    rw [history, SlotHistory.installed_cons, SlotHistory.closed_cons, SlotHistory.cleared_cons,
      afterCalls, ← List.append_assoc, step, List.append_assoc]
    refine (later.append_left _).trans ?_
    simp only [List.append_assoc]
    exact (List.perm_append_comm_assoc _ _ _).append_left _

/-- The sessions that are closed after a run are those that were before, and those that its calls
    closed. -/
theorem closed_afterCalls (b : Bridge) (t : TransportId) (calls : List SlotCall) (s : SocketId) :
    ((b.afterCalls t calls).socket s).closed =
      ((b.socket s).closed || (b.history t calls).closed.contains s) := by
  induction calls generalizing b with
  | nil => simp [afterCalls, history, SlotHistory.closed, SlotHistory.closes]
  | cons call rest ih =>
    rw [afterCalls, ih, closed_call, history, SlotHistory.closed_cons, Bool.or_assoc]
    simp [entry]

/-- A socket is closed as replaced or as gone, and in no other way. -/
theorem status_of_mem_history {calls : List SlotCall} {close : SlotClose}
    (h : close ∈ (b.history t calls).closes) :
    close.status = 200 ∧ close.reason = "replaced" ∨
      close.status = 410 ∧ close.reason = "gone" := by
  induction calls generalizing b with
  | nil => cases h
  | cons call rest ih =>
    rw [history, SlotHistory.closes, List.flatMap_cons] at h
    rcases List.mem_append.1 h with now | later
    · rcases (mem_closes.1 now).2 with ⟨_, _, -, -, replaced⟩ | ⟨-, gone⟩
      · exact .inl replaced
      · exact .inr gone
    · exact ih later

theorem length_closed (b : Bridge) (t : TransportId) (calls : List SlotCall) :
    (b.history t calls).closed.length =
      (b.history t calls).replaced.length + (b.history t calls).gone.length := by
  have others : (b.history t calls).closes.filter
      (fun close => !decide (close.status = 200 ∧ close.reason = "replaced")) =
      (b.history t calls).gone := by
    refine List.filter_congr fun close mem => ?_
    rcases status_of_mem_history mem with ⟨status, reason⟩ | ⟨status, reason⟩
    · simp [status, reason]
    · simp [status, reason]
  rw [SlotHistory.closed, List.length_map, SlotHistory.replaced, ← others]
  exact List.length_eq_length_filter_add _

/-- Over any run of calls on fresh slots: the slot holds the socket that was installed last, unless
    it was cleared or given up since. Each call closes exactly what it has to close, and a session
    is closed after the run if it was before or if a call closed it. While no socket is installed
    twice, all that were installed are accounted for, each is closed at most once, and neither the
    current socket nor a cleared one is closed. -/
theorem slot_lifecycle {tr : Transport} (present : b.transports[t]? = some tr)
    (fresh : tr.channels = {}) (calls : List SlotCall) :
    (∀ s, (b.afterCalls t calls).currentSocket t = some s ↔
      ∃ before entry since, b.history t calls = before ++ entry :: since ∧
        entry.call.installs = some s ∧
        ∀ later ∈ since, later.call.installs = none ∧ ¬ later.Removes s) ∧
    (∀ before call after, calls = before ++ call :: after →
      ∃ now entry, now = b.afterCalls t before ∧
        b.history t calls =
          b.history t before ++ entry :: (now.call t call).2.history t after ∧
        ClosesExactly now t call (now.call t call).2 entry.closes) ∧
    (∀ s, ((b.afterCalls t calls).socket s).closed =
      ((b.socket s).closed || (b.history t calls).closed.contains s)) ∧
    ((b.history t calls).installed.Nodup →
      (b.history t calls).installed.length =
        (b.history t calls).replaced.length + (b.history t calls).gone.length +
          (b.history t calls).cleared.length +
            (if ((b.afterCalls t calls).currentSocket t).isSome then 1 else 0) ∧
      (b.history t calls).closed.Nodup ∧
      (∀ s, (b.afterCalls t calls).currentSocket t = some s → s ∉ (b.history t calls).closed) ∧
      ∀ s ∈ (b.history t calls).cleared, s ∉ (b.history t calls).closed) := by
  have inRange : t < b.transports.length := (List.getElem?_eq_some_iff.1 present).1
  have empty : b.currentSocket t = none := by
    rw [currentSocket, transport, List.getD_eq_getElem?_getD, present, Option.getD_some, fresh]
  refine ⟨fun s => ?_, ?_, closed_afterCalls b t calls, fun new => ?_⟩
  · rw [currentSocket_afterCalls inRange, empty]
    simp [SlotHistory.Keeps]
  · rintro before call after rfl
    exact ⟨_, _, rfl, history_append b t before (call :: after), closesExactly _ t call⟩
  · have balance := history_balance inRange calls (by simpa [empty] using new)
    rw [empty, Option.toList_none, List.nil_append] at balance
    have apart := balance.nodup_iff.1 new
    obtain ⟨goneOrCleared, -, notCurrent⟩ := List.nodup_append.1 apart
    obtain ⟨once, -, notCleared⟩ := List.nodup_append.1 goneOrCleared
    refine ⟨?_, once, ?_, ?_⟩
    · rw [balance.length_eq, List.length_append, List.length_append, length_closed]
      cases (b.afterCalls t calls).currentSocket t <;> rfl
    · intro s current closed
      exact notCurrent s (List.mem_append_left _ closed) s (by simp [current]) rfl
    · intro s cleared closed
      exact notCleared s closed s cleared rfl

/-- Four sockets, and a transport whose slots are fresh. -/
def fourSockets : Bridge where
  sockets := List.replicate 4 { capacity := 2 }
  transports := [.create "a" {} none 0]

/-- Socket 0 is displaced, socket 1 is cleared, socket 2 is given up, and socket 3 stays. -/
def fourInstalls : List SlotCall :=
  [.operate (.putSocket 0 (some "hello")), .operate (.putSocket 1 none), .activeChannel,
    .operate (.takeSocket 0), .operate (.takeSocket 1), .operate (.putSocket 2 none),
    .operate .giveUpSocket, .operate (.putSocket 3 none)]

theorem slot_lifecycle_fourInstalls :
    (fourSockets.afterCalls 0 fourInstalls).currentSocket 0 = some 3 ∧
      (fourSockets.history 0 fourInstalls).installed.length =
        (fourSockets.history 0 fourInstalls).replaced.length +
          (fourSockets.history 0 fourInstalls).gone.length +
            (fourSockets.history 0 fourInstalls).cleared.length + 1 ∧
      3 ∉ (fourSockets.history 0 fourInstalls).closed ∧
      1 ∉ (fourSockets.history 0 fourInstalls).closed := by
  have installed : (fourSockets.history 0 fourInstalls).installed = [0, 1, 2, 3] := rfl
  have cleared : (fourSockets.history 0 fourInstalls).cleared = [1] := rfl
  obtain ⟨slot, -, -, accounted⟩ :=
    @slot_lifecycle fourSockets 0 (.create "a" {} none 0) rfl rfl fourInstalls
  have current : (fourSockets.afterCalls 0 fourInstalls).currentSocket 0 = some 3 := by
    have last : fourSockets.history 0 fourInstalls =
        fourSockets.history 0 (fourInstalls.take 7) ++
          (fourSockets.afterCalls 0 (fourInstalls.take 7)).entry 0 (.operate (.putSocket 3 none)) ::
            [] := rfl
    exact (slot 3).2 ⟨_, _, [], last, rfl, by simp⟩
  obtain ⟨counts, -, notCurrent, notCleared⟩ := accounted (by rw [installed]; decide)
  rw [current] at counts
  exact ⟨current, counts, notCurrent 3 current, notCleared 1 (by simp [cleared])⟩

end Bridge

end ControlChannel
