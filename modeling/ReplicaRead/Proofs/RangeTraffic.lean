import Mathlib.Order.Bounds.Defs
import ReplicaRead.Proofs.Framing.Frames
import ReplicaRead.Proofs.RangeRead
import ReplicaRead.Proofs.Session.Traffic

/-!
# The traffic of reading a range

What a read does on the network is determined by the range, whatever the node answers. A range that
is empty within its block, that starts past the block or that does not fit in memory leads to no
traffic. Every other range leads to one attempt to connect, and on the connection to one request for
the clipped range and to reads that take no more than the status and the bytes asked for.

Results: `Streamer.Carried`, the traffic on a connection; `Streamer.Traffic`, the traffic of a read;
and `Streamer.stream_traffic`.
-/

namespace ReplicaRead

open Act Arrivals

/-- The length of a range within a block is the greatest for which the range ends in the block. -/
theorem ReadRange.isGreatest_effectiveLength {range : ReadRange} {block : Block}
    (h : range.offset ≤ block.length) :
    ∃ amount, range.effectiveLength block = .ok amount ∧
      IsGreatest {n | n ≤ range.length ∧ range.offset + n ≤ block.length} amount := by
  refine ⟨min range.length (block.length - range.offset), ?_, ⟨?_, ?_⟩, ?_⟩
  · unfold effectiveLength
    rw [if_neg (Nat.not_lt.2 h)]
  · exact Nat.min_le_left _ _
  · have hle := Nat.min_le_right range.length (block.length - range.offset)
    omega
  · rintro n ⟨hlength, hend⟩
    exact Nat.le_min.2 ⟨hlength, by omega⟩

namespace Streamer

/-- Every field of a request for a part of the block fits its place in the frame, and the buffer
holds a byte. -/
structure Sendable (streamer : Streamer) (task : Task) : Prop where
  blockId : -2 ^ 63 ≤ task.block.id ∧ task.block.id < 2 ^ 63
  stamp : -2 ^ 63 ≤ task.block.stamp ∧ task.block.stamp < 2 ^ 63
  length : task.block.length < 2 ^ 63
  clientName : streamer.clientName.utf8ByteSize ≤ 65535
  token : task.credential.token.length < 2 ^ 32
  buffer : 1 ≤ streamer.bufferSize

/-- The traffic of a read of `amount` bytes over a connection. -/
structure Carried (mode : Mode) (streamer : Streamer) (task : Task) (amount : Nat) (link : Link)
    (notes : List Note) : Prop where
  /-- There is one attempt to connect. -/
  attempt : connects notes = [(link.id, task.endpoint)]
  /-- One request is sent, for the range within the block. -/
  request : ∃ payload, sends notes = [(link.id, payload)] ∧
    (streamer.opening task amount).request.encode = .ok payload ∧
    Request.decode? payload = some (⟨19, 81, ⟨task.block.id, task.block.stamp, task.range.offset,
      amount, streamer.clientName, task.credential.token⟩⟩, [])
  /-- A read asks for what has not been taken: of the two bytes of the status, and then of the
  data, but at most for as much as the buffer holds. -/
  reads : ∀ (before after : List Note) (id : Nat) (size : Int),
    notes = before ++ .receive id size :: after → id = link.id ∧ ∃ taken : Nat,
      volume link.arrivals = volume (left mode link.arrivals before) + taken ∧
        (taken < 2 ∧ size = 2 - taken ∨ ∃ received : Nat, taken = 2 + received ∧
          received < amount ∧ size = min ((amount : Int) - received) streamer.bufferSize ∧
          1 ≤ size)
  /-- Only the status is read in one piece. -/
  status : ∀ id size, .receiveExactly id size ∈ notes → id = link.id ∧ size = 2
  /-- What the node sends beyond the status and the data is not taken. -/
  taken : volume link.arrivals ≤ volume (left mode link.arrivals notes) + (2 + amount)

/-- The traffic of a read of `amount` bytes, which are the length of the range within the block. -/
inductive Traffic (mode : Mode) (streamer : Streamer) (task : Task) (net : Network)
    (amount : Nat) : Run Network Bytes → Prop where
  | nothing (hzero : amount = 0) : Traffic mode streamer task net amount ⟨.ok [], [], net⟩
  | large (hmemory : streamer.memory.size < amount) :
      Traffic mode streamer task net amount ⟨.fault .outOfMemory, [], net⟩
  /-- An awaited connect that is given no time is not begun. -/
  | untimely (hpos : 0 < amount) (hmemory : amount ≤ streamer.memory.size)
      (hbegins : Network.begins mode streamer.sessionTimeout = false) :
      Traffic mode streamer task net amount
        ⟨.fault (.connectFailed mode task.endpoint .noTime), [], net⟩
  /-- The only attempt to connect fails. -/
  | unanswered {f : Fault} (hpos : 0 < amount) (hmemory : amount ≤ streamer.memory.size)
      (hbegins : Network.begins mode streamer.sessionTimeout = true)
      (hanswer : net.answer task.endpoint = .error f) :
      Traffic mode streamer task net amount
        ⟨.fault (Reader.connectReport mode task.endpoint f),
          [.connect net.attempts task.endpoint
            (Network.shownTimeout mode streamer.sessionTimeout)],
          net.afterAttempt task.endpoint⟩
  | answered {link : Link} {r : Run Network Bytes} (hpos : 0 < amount)
      (hmemory : amount ≤ streamer.memory.size)
      (hbegins : Network.begins mode streamer.sessionTimeout = true)
      (hanswer : net.answer task.endpoint = .ok link)
      (hcarried : Carried mode streamer task amount link r.notes) :
      Traffic mode streamer task net amount r

section Traffic

variable {mode : Mode} {streamer : Streamer} {task : Task} {net : Network} {amount : Nat}

/-- A request for a part of the block has a frame. -/
theorem Sendable.fits (h : Sendable streamer task)
    (hend : task.range.offset + amount ≤ task.block.length) :
    (streamer.opening task amount).request.Fits := by
  have hlength := h.length
  have hname : Word.count 2 = 65536 := rfl
  have htoken : Word.count 4 = 2 ^ 32 := rfl
  refine ⟨(Request.inRange_eight_iff _).2 ?_, (Request.inRange_eight_iff _).2 ?_,
    (Request.inRange_eight_iff _).2 ?_, (Request.inRange_eight_iff _).2 ?_, ?_, ?_⟩
  · show ¬ (task.block.id < _ ∨ _ ≤ task.block.id)
    have hid := h.blockId
    omega
  · show ¬ (task.block.stamp < _ ∨ _ ≤ task.block.stamp)
    have hstamp := h.stamp
    omega
  · show ¬ ((task.range.offset : Int) < _ ∨ _ ≤ (task.range.offset : Int))
    omega
  · show ¬ ((amount : Int) < _ ∨ _ ≤ (amount : Int))
    omega
  · rw [Utf8.length_encode, hname]
    exact Nat.lt_succ_of_le h.clientName
  · rw [htoken]
    exact h.token

/-- A conversation for a request that has a frame carries the read. -/
theorem carried_of_conversation {link : Link} {talk : List Note} {timeout : Option Binary64}
    (h : Sendable streamer task) (hend : task.range.offset + amount ≤ task.block.length)
    (htalk : Conversation mode (streamer.opening task amount).request link streamer.bufferSize
      amount talk) :
    Carried mode streamer task amount link (.connect link.id task.endpoint timeout :: talk) := by
  obtain ⟨payload, hencode⟩ := (Request.encode_eq_ok_iff _).2 (h.fits hend)
  have hbuffer : 0 ≤ streamer.bufferSize := Int.le_trans Int.one_nonneg h.buffer
  refine ⟨?attempt, ⟨payload, ?sends, hencode, ?decodes⟩, ?reads, ?status,
    htalk.volume_le hbuffer⟩
  case attempt =>
      exact congrArg ((link.id, task.endpoint) :: ·) htalk.connects_eq_nil
  case sends =>
      have hsends := htalk.sends_eq
      rw [hencode] at hsends
      exact hsends
  case decodes =>
      have hdecode := Request.decode?_encode hencode []
      rw [List.append_nil] at hdecode
      exact hdecode
  case reads =>
      intro before after id size hsplit
      cases before with
      | nil =>
          cases hsplit
      | cons n before =>
          cases hsplit
          obtain ⟨hid, taken, hvolume, hread⟩ := htalk.read hbuffer rfl
          refine ⟨hid, taken, hvolume, hread.imp_right ?_⟩
          rintro ⟨received, htaken, hreceived, hsize⟩
          have hpositive := h.buffer
          exact ⟨received, htaken, hreceived, hsize, by omega⟩
  case status =>
      intro id size hn
      rcases List.mem_cons.1 hn with hn | hn
      · cases hn
      · rcases htalk.mem hn with ⟨payload, hn⟩ | ⟨size', hn⟩ | hn | hn
        · cases hn
        · cases hn
        · cases hn
          exact ⟨rfl, rfl⟩
        · exact hn.elim

/-- What a read does on the network, for every network and in both modes. -/
theorem stream_traffic (mode : Mode) (net : Network) (h : Sendable streamer task) :
    (task.block.length < task.range.offset →
      stream (nodeSessions mode) streamer task net =
        ⟨.fault (.offsetPastEnd task.range.offset task.block.id task.block.length), [], net⟩) ∧
    (task.range.offset ≤ task.block.length → ∃ amount,
      IsGreatest {n | n ≤ task.range.length ∧ task.range.offset + n ≤ task.block.length} amount ∧
        Traffic mode streamer task net amount
          (stream (nodeSessions mode) streamer task net)) := by
  constructor
  · intro hpast
    have hlength : task.range.effectiveLength task.block =
        .error (.offsetPastEnd task.range.offset task.block.id task.block.length) := if_pos hpast
    unfold stream
    rw [hlength, ofExcept_error_bind]
  · intro hoffset
    obtain ⟨amount, hlength, hgreatest⟩ := ReadRange.isGreatest_effectiveLength hoffset
    have hend : task.range.offset + amount ≤ task.block.length := hgreatest.1.2
    refine ⟨amount, hgreatest, ?_⟩
    rcases Nat.eq_zero_or_pos amount with hzero | hpos
    · rw [stream_of_empty _ (hzero ▸ hlength)]
      exact .nothing hzero
    rcases Nat.lt_or_ge streamer.memory.size amount with hmemory | hmemory
    · rw [stream_of_large _ hlength hmemory (h.fits hend).length]
      exact .large hmemory
    rw [stream_of_length _ hlength hpos]
    have hloop : streamer.loop task amount = _ := loop_of_fits hmemory
    cases hbegins : Network.begins mode streamer.sessionTimeout with
    | false =>
        rw [fetch_of_untimely hloop hbegins]
        exact .untimely hpos hmemory hbegins
    | true =>
        cases hanswer : net.answer task.endpoint with
        | error f =>
            rw [fetch_of_unanswered hloop hbegins hanswer]
            exact .unanswered hpos hmemory hbegins hanswer
        | ok link =>
            obtain ⟨o, talk, hfetch, htalk⟩ := fetch_converses hloop hbegins hanswer
            obtain ⟨script, -, -, -, rfl⟩ := Network.exists_script_of_answer hanswer
            rw [hfetch]
            exact .answered hpos hmemory hbegins hanswer (carried_of_conversation h hend htalk)

end Traffic

theorem sendable_wholeBlock (timeout : Binary64) {length : Nat} (hlength : length < 2 ^ 63) :
    Sendable { modest with sessionTimeout := timeout } (wholeBlock length) :=
  ⟨(by decide : -2 ^ 63 ≤ (7 : Int) ∧ (7 : Int) < 2 ^ 63),
    (by decide : -2 ^ 63 ≤ (1 : Int) ∧ (1 : Int) < 2 ^ 63), hlength,
    (by decide : modest.clientName.utf8ByteSize ≤ 65535), (by decide : 0 < 2 ^ 32),
    (by decide : 1 ≤ modest.bufferSize)⟩

/-- The traffic of a read of three bytes, among which there is a failure. -/
theorem stream_traffic_hesitant : ∃ amount,
    IsGreatest {n | n ≤ (wholeBlock 3).range.length ∧
      (wholeBlock 3).range.offset + n ≤ (wholeBlock 3).block.length} amount ∧
      Traffic .async modest (wholeBlock 3) hesitant amount
        (stream (nodeSessions .async) modest (wholeBlock 3) hesitant) :=
  (stream_traffic .async hesitant
    (sendable_wholeBlock modest.sessionTimeout (by decide : 3 < 2 ^ 63))).2 (by decide)

/-- No attempt to connect is made for a range too long for memory, nor for one byte if an awaited
connect is given no time. -/
theorem not_attempted_of_large :
    (Sendable modest (wholeBlock 4611686018427387904) ∧
      (wholeBlock 4611686018427387904).range.effectiveLength
        (wholeBlock 4611686018427387904).block = .ok 4611686018427387904 ∧
      connects (stream (nodeSessions .sync) modest (wholeBlock 4611686018427387904)
        hesitant).notes = []) ∧
    (Sendable { modest with sessionTimeout := .ofInt 0 } (wholeBlock 1) ∧
      (wholeBlock 1).range.effectiveLength (wholeBlock 1).block = .ok 1 ∧
      connects (stream (nodeSessions .async) { modest with sessionTimeout := .ofInt 0 }
        (wholeBlock 1) hesitant).notes = []) := by
  refine ⟨⟨sendable_wholeBlock modest.sessionTimeout (by decide), rfl, ?large⟩,
    sendable_wholeBlock (.ofInt 0) (by decide), rfl, ?untimely⟩
  case large =>
      have hlength : (wholeBlock 4611686018427387904).range.effectiveLength
          (wholeBlock 4611686018427387904).block = .ok 4611686018427387904 := rfl
      rw [stream_of_large _ hlength (by decide) (by decide)]
      rfl
  case untimely =>
      decide +kernel

end Streamer
end ReplicaRead
