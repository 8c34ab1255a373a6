import ReplicaRead.Proofs.RangeTraffic

/-!
# The slices of a block that reads return

A node is faithful to the content of a block if it serves every request for a range of the block with
the bytes of the content there, in pieces of any size and with no more failures among them than there
are retries. From a faithful node a read returns the slice of the content that its range has, and it
makes one connection for it, if the range is not empty.

Results: `Faithful` and `Streamer.served_of_head`; `Streamer.stream_slice` and
`Streamer.stream_connects`, what one read returns and what it takes.
-/

namespace ReplicaRead

open Act Arrivals

/-- The bytes of a range. -/
def slice (content : Bytes) (offset length : Nat) : Bytes :=
  (content.drop offset).take length

theorem length_slice (content : Bytes) (offset length : Nat) :
    (slice content offset length).length = min length (content.length - offset) := by
  rw [slice, List.length_take, List.length_drop]

/-- Clipping a range at the end does not change its bytes. -/
theorem slice_min (content : Bytes) (offset length : Nat) :
    slice content offset (min length (content.length - offset)) = slice content offset length := by
  rw [slice, slice, ← List.length_drop, List.take_eq_take_iff]
  omega

/-- A range is made of a first part and of what follows on it, at the place where it has ended. -/
theorem slice_add (content : Bytes) (offset p q : Nat) :
    slice content offset (p + q) = slice content offset p ++
      slice content (offset + (slice content offset p).length) q := by
  rw [length_slice, slice, slice, slice, List.take_add, List.append_cancel_left_eq, List.drop_drop]
  rcases Nat.le_total p (content.length - offset) with hle | hle
  · rw [Nat.min_eq_left hle]
  · rw [List.drop_eq_nil_of_le (by omega), List.drop_eq_nil_of_le (by omega)]

/-! ### Faithful nodes -/

/-- A connection is made, and what fails then is receiving or closing, by the system. -/
structure Script.Accepts (script : Script) : Prop where
  connect : script.connectFault = none
  send : script.sendFault = none
  receive : ∀ f, .error f ∈ script.arrivals → f.isSystem = true
  close : ∀ f, script.closeFault = some f → f.isSystem = true

/-- The answer to a request for a range of the content: the status of success, and then the bytes,
with at most as many failures before the last of them as there are retries. -/
def Script.Serves (script : Script) (content : Bytes) (retries : Int) (offset length : Nat) : Prop :=
  ∃ front rest, items script.arrivals = .ok 0 :: .ok 0 :: (front ++ rest) ∧
    bytes front = slice content offset length ∧ (failures front : Int) ≤ retries

/-- The node has been faithful to the content in a run: each attempt to connect was accepted, and
each request for the block that was sent on the connection was served. -/
structure Faithful (block : Block) (content : Bytes) (retries : Int) (net : Network)
    (notes : List Note) : Prop where
  accepts : ∀ a ∈ connects notes, ∃ script, (net.scripts a.2).head? = some script ∧ script.Accepts
  serves : ∀ a ∈ connects notes, ∀ script, (net.scripts a.2).head? = some script →
    ∀ payload, (a.1, payload) ∈ sends notes →
    ∀ request, Request.decode? payload = some (⟨19, 81, request⟩, []) →
    request.blockId = block.id → request.stamp = block.stamp →
    ∀ offset length : Nat, request.offset = offset → request.length = length →
    script.Serves content retries offset length

/-- A run without an attempt to connect asks for nothing. -/
theorem Faithful.of_silent {block : Block} {content : Bytes} {retries : Int} {net : Network}
    {notes : List Note} (h : connects notes = []) : Faithful block content retries net notes := by
  constructor
  · rw [h]
    exact nofun
  · rw [h]
    exact nofun

namespace Streamer

/-- A read on a network whose nodes are faithful to the content. -/
def Served (mode : Mode) (streamer : Streamer) (content : Bytes) (task : Task) (net : Network) :
    Prop :=
  Faithful task.block content streamer.maxRetries net
    (stream (nodeSessions mode) streamer task net).notes

section Slice

variable {mode : Mode} {streamer : Streamer} {task : Task} {net : Network} {amount : Nat}
variable {content : Bytes}

/-- If the first items supplied are enough bytes with few enough failures, the outcome is these
bytes. -/
theorem eq_of_exactOutcome {endpoint : Endpoint} {retries : Int} {report : Fault → Fault}
    {is front : List Item} {o : Outcome Bytes} (hfront : Supplies is front)
    (hlength : (bytes front).length = amount) (hfailures : (failures front : Int) ≤ retries)
    (h : ExactOutcome endpoint amount retries report is o) : o = .ok (bytes front) := by
  cases h with
  | @complete front' hfront' hbytes' hfailures' =>
      -- Of two beginnings with the same number of bytes, the bytes are the same.
      have hlengths : (bytes front').length = (bytes front).length := hbytes'.trans hlength.symm
      rcases hfront'.total hfront with hle | hle
      · rw [bytes, bytes, (hle.filterMap _).eq_of_length hlengths]
      · rw [bytes, bytes, (hle.filterMap _).eq_of_length hlengths.symm]
  | unread hmany _ _ _ _ _ _ _ =>
      have hexceeds := hmany front hfront hlength
      omega

/-- A read of a range that is not empty and fits in memory makes one attempt, and if it is answered,
the range is asked for on the connection. -/
theorem stream_attempts (h : Sendable streamer task)
    (hlength : task.range.effectiveLength task.block = .ok amount) (hpos : 1 ≤ amount)
    (hmemory : amount ≤ streamer.memory.size)
    (hbegins : Network.begins mode streamer.sessionTimeout = true) (net : Network) :
    ∃ o timeout talk, stream (nodeSessions mode) streamer task net =
        ⟨o, .connect net.attempts task.endpoint timeout :: talk,
          net.afterAttempt task.endpoint⟩ ∧
      connects talk = [] ∧ ∀ link, net.answer task.endpoint = .ok link →
        Carried mode streamer task amount link
          (.connect net.attempts task.endpoint timeout :: talk) := by
  obtain ⟨hoffset, hamount⟩ := ReadRange.effectiveLength_eq_ok_iff.1 hlength
  have hend : task.range.offset + amount ≤ task.block.length := by omega
  have hloop : streamer.loop task amount = _ := loop_of_fits hmemory
  rw [stream_of_length _ hlength hpos]
  cases hanswer : net.answer task.endpoint with
  | error f =>
      exact ⟨_, _, [], fetch_of_unanswered hloop hbegins hanswer, rfl, nofun⟩
  | ok link =>
      obtain ⟨o, talk, hfetch, htalk⟩ := fetch_converses hloop hbegins hanswer
      obtain ⟨script, -, -, -, rfl⟩ := Network.exists_script_of_answer hanswer
      refine ⟨o, _, talk, hfetch, htalk.connects_eq_nil, ?_⟩
      rintro link hlink
      cases hlink
      exact carried_of_conversation h hend htalk

/-- A read of which a faithful node grants the request returns the bytes of the range. -/
theorem stream_of_served {script : Script} (h : Sendable streamer task)
    (hblock : task.block.length = content.length)
    (hlength : task.range.effectiveLength task.block = .ok amount) (hpos : 1 ≤ amount)
    (hmemory : amount ≤ streamer.memory.size)
    (hbegins : Network.begins mode streamer.sessionTimeout = true)
    (hscript : (net.scripts task.endpoint).head? = some script) (haccepts : script.Accepts)
    (hserves : script.Serves content streamer.maxRetries task.range.offset amount) :
    (stream (nodeSessions mode) streamer task net).outcome =
      .ok (slice content task.range.offset amount) := by
  obtain ⟨hoffset, hamount⟩ := ReadRange.effectiveLength_eq_ok_iff.1 hlength
  have hend : task.range.offset + amount ≤ task.block.length := by omega
  obtain ⟨front, rest, hstatus, hbytes, hfailures⟩ := hserves
  have hgrants : script.Grants (front ++ rest) :=
    ⟨haccepts.connect, haccepts.send, haccepts.receive, haccepts.close, hstatus⟩
  obtain ⟨payload, hencode⟩ := (Request.encode_eq_ok_iff _).2 (h.fits hend)
  have hbegins' : Network.begins mode (streamer.opening task amount).timeout = true := hbegins
  obtain ⟨left, notes, hleft, hfaults, hstart⟩ := start_of_grants hbegins' hencode hscript hgrants
  let reader := (streamer.opening task amount).reader.holding (script.link net.attempts) left
  have hretries : 0 ≤ streamer.maxRetries := by omega
  have hexact := collect_exact mode reader task.endpoint amount rfl h.buffer
    (fun f hf => hgrants.receive f (hfaults f hf)) hretries
  have hcollect := collect_close _ rfl hgrants.close hexact.ne_unfinished
  have hfront : Supplies (items left) front :=
    ⟨0, by rw [hleft, List.append_assoc]; exact List.prefix_append _ _⟩
  have hslice : (bytes front).length = amount := by
    rw [hbytes, length_slice]
    omega
  rw [stream_of_length _ hlength hpos, fetch_of_opened (loop_of_fits hmemory) hstart hcollect,
    ← hbytes]
  exact eq_of_exactOutcome hfront hslice hfailures hexact

/-- The script with which a faithful node serves a read. -/
theorem exists_served (h : Sendable streamer task)
    (hlength : task.range.effectiveLength task.block = .ok amount) (hpos : 1 ≤ amount)
    (hmemory : amount ≤ streamer.memory.size)
    (hbegins : Network.begins mode streamer.sessionTimeout = true)
    (hserved : Served mode streamer content task net) :
    ∃ script, (net.scripts task.endpoint).head? = some script ∧ script.Accepts ∧
      script.Serves content streamer.maxRetries task.range.offset amount := by
  obtain ⟨o, timeout, talk, hrun, -, hcarried⟩ :=
    stream_attempts h hlength hpos hmemory hbegins net
  rw [Served, hrun] at hserved
  have hattempt : (net.attempts, task.endpoint) ∈
      connects (.connect net.attempts task.endpoint timeout :: talk) := List.mem_cons_self
  obtain ⟨script, hscript, haccepts⟩ := hserved.accepts _ hattempt
  have hanswer := Network.answer_of_head hscript haccepts.connect
  obtain ⟨payload, hsends, -, hdecode⟩ := (hcarried _ hanswer).request
  have hsent : (net.attempts, payload) ∈
      sends (.connect net.attempts task.endpoint timeout :: talk) := by
    rw [hsends]
    exact List.mem_singleton_self _
  exact ⟨script, hscript, haccepts,
    hserved.serves _ hattempt script hscript payload hsent _ hdecode rfl rfl _ _ rfl rfl⟩

/-- From a faithful node a read returns the bytes of its range. -/
theorem stream_slice (h : Sendable streamer task) (hblock : task.block.length = content.length)
    (hbegins : Network.begins mode streamer.sessionTimeout = true)
    (hoffset : task.range.offset ≤ content.length)
    (hmemory : min task.range.length (content.length - task.range.offset) ≤ streamer.memory.size)
    (hserved : Served mode streamer content task net) :
    (stream (nodeSessions mode) streamer task net).outcome =
      .ok (slice content task.range.offset task.range.length) := by
  rw [← slice_min]
  rw [← hblock] at hoffset hmemory ⊢
  have hlength := ReadRange.effectiveLength_eq_ok_iff.2 ⟨hoffset, rfl⟩
  generalize min task.range.length (task.block.length - task.range.offset) = amount
    at hlength hmemory ⊢
  rcases Nat.eq_zero_or_pos amount with rfl | hpos
  · rw [stream_of_empty _ hlength, slice, List.take_zero]
  · obtain ⟨script, hscript, haccepts, hserves⟩ :=
      exists_served h hlength hpos hmemory hbegins hserved
    exact stream_of_served h hblock hlength hpos hmemory hbegins hscript haccepts hserves

/-- From a faithful node a read of a range that is not empty makes one connection. -/
theorem stream_connects (h : Sendable streamer task)
    (hlength : task.range.effectiveLength task.block = .ok amount) (hpos : 1 ≤ amount)
    (hmemory : amount ≤ streamer.memory.size)
    (hbegins : Network.begins mode streamer.sessionTimeout = true)
    (hserved : Served mode streamer content task net) :
    connects (stream (nodeSessions mode) streamer task net).notes =
        [(net.attempts, task.endpoint)] ∧
      Network.made net.scripts (stream (nodeSessions mode) streamer task net).notes =
        [net.attempts] := by
  obtain ⟨script, hscript, haccepts, -⟩ :=
    exists_served h hlength hpos hmemory hbegins hserved
  obtain ⟨o, timeout, talk, hrun, htalk, -⟩ :=
    stream_attempts h hlength hpos hmemory hbegins net
  rw [hrun]
  refine ⟨congrArg _ htalk, Network.made_of_answered
    (Network.answer_of_head hscript haccepts.connect) ?_ _ _⟩
  intro n hn
  have hsilent := List.filterMap_eq_nil_iff.1 htalk n hn
  cases n with
  | connect id endpoint timeout =>
      cases hsilent
  | _ =>
      rfl

/-- A node is faithful in a read if its script serves the range that was asked for. -/
theorem Carried.faithful {script : Script} {link : Link} {notes : List Note} {retries : Int}
    (h : Carried mode streamer task amount link notes)
    (hscript : (net.scripts task.endpoint).head? = some script) (haccepts : script.Accepts)
    (hserves : script.Serves content retries task.range.offset amount) :
    Faithful task.block content retries net notes := by
  obtain ⟨sent, hsends, -, hsent⟩ := h.request
  refine ⟨?accepts, ?serves⟩
  case accepts =>
      intro a ha
      rw [h.attempt, List.mem_singleton] at ha
      rw [ha]
      exact ⟨script, hscript, haccepts⟩
  case serves =>
      intro a ha script' hscript' payload hpayload request hdecode _ _ offset length hoffset hlength
      rw [h.attempt, List.mem_singleton] at ha
      rw [ha, hscript] at hscript'
      cases hscript'
      rw [hsends, List.mem_singleton] at hpayload
      obtain ⟨-, rfl⟩ := Prod.mk.injEq _ _ _ _ |>.mp hpayload
      rw [hsent] at hdecode
      cases hdecode
      rw [← Int.ofNat_inj.1 hoffset, ← Int.ofNat_inj.1 hlength]
      exact hserves

/-- A node whose next script serves the range is faithful. -/
theorem served_of_head {script : Script} (h : Sendable streamer task)
    (hscript : (net.scripts task.endpoint).head? = some script) (haccepts : script.Accepts)
    (hserves : ∀ amount, task.range.effectiveLength task.block = .ok amount →
      script.Serves content streamer.maxRetries task.range.offset amount) (mode : Mode) :
    Served mode streamer content task net := by
  unfold Served
  rcases stream_cases streamer task with ⟨o, -, hrun⟩ | ⟨amount, hlength, hpos, hrun⟩
  · rw [hrun]
    exact .of_silent rfl
  rw [hrun]
  rcases loop_cases streamer task amount with ⟨f, hloop⟩ | hloop
  · unfold fetch
    rw [hloop, ofExcept_error_bind]
    exact .of_silent rfl
  cases hbegins : Network.begins mode streamer.sessionTimeout with
  | false =>
      rw [fetch_of_untimely hloop hbegins]
      exact .of_silent rfl
  | true =>
      obtain ⟨o, talk, hfetch, htalk⟩ := fetch_converses hloop hbegins
        (Network.answer_of_head hscript haccepts.connect)
      obtain ⟨hoffset, hamount⟩ := ReadRange.effectiveLength_eq_ok_iff.1 hlength
      have hend : task.range.offset + amount ≤ task.block.length := by omega
      have hcarried : Carried mode streamer task amount (script.link net.attempts)
          (.connect net.attempts task.endpoint
            (Network.shownTimeout mode streamer.sessionTimeout) :: talk) :=
        carried_of_conversation h hend htalk
      rw [hfetch]
      exact hcarried.faithful hscript haccepts (hserves amount hlength)

end Slice

end Streamer
end ReplicaRead
