import ReplicaRead.Proofs.Fetching
import ReplicaRead.Proofs.RequestFields

/-!
# The outcome of reading a range

A granted read ends in exactly one of two ways, which depend only on the bytes and failures that
the node supplies after the status, in their order, and not on the pieces in which they come, on
the size of the buffer or on the mode. Either the bytes of the range come with no more failures
among them than there are retries, and are returned in order; or there is one failure too many, and
the read fails with the number of bytes that were still missing then.

Results: `Streamer.ExactOutcome`, the two ways, and `Streamer.stream_exact`.
-/

namespace ReplicaRead

open Arrivals

/-- A script that grants a request, and then supplies the items `is`. Only failures of the system
come of receiving and closing. -/
structure Script.Grants (script : Script) (is : List Item) : Prop where
  connect : script.connectFault = none
  send : script.sendFault = none
  receive : ∀ f, .error f ∈ script.arrivals → f.isSystem = true
  close : ∀ f, script.closeFault = some f → f.isSystem = true
  status : items script.arrivals = .ok 0 :: .ok 0 :: is

namespace Streamer

open Act

/-! ### The outcome -/

/-- The two ways in which reading `amount` bytes ends, with a budget of retries, when the items `is`
are supplied and faults are reported by `report`. -/
inductive ExactOutcome (endpoint : Endpoint) (amount : Nat) (retries : Int)
    (report : Fault → Fault) (is : List Item) : Outcome Bytes → Prop where
  /-- The bytes come with no more failures before the last of them than there are retries. -/
  | complete {front : List Item} (hfront : Supplies is front)
      (hbytes : (bytes front).length = amount) (hfailures : failures front ≤ retries) :
      ExactOutcome endpoint amount retries report is (.ok (bytes front))
  /-- There are more failures than retries before the last byte, and the first that is too many
  comes when `unread` bytes are missing. -/
  | unread {front : List Item} {f fault : Fault} {unread : Nat}
      (hmany : ∀ front', Supplies is front' → (bytes front').length = amount →
        retries < failures front')
      (hfront : Supplies is (front ++ [.error f])) (hfailures : failures front = retries)
      (hunread : (bytes front).length + unread = amount) (hpos : 0 < unread)
      (hkind : fault.kind = .transientReadFailure)
      (hmessage : fault.message =
        s!"Could not read data from datanode {endpoint}: {unread} of {amount} bytes unread")
      (hcause : fault.cause? = some (report f)) :
      ExactOutcome endpoint amount retries report is (.fault fault)

/-- A loop that has settled from its start has one of the two outcomes. -/
theorem exactOutcome_of_settled {loop : ReadLoop} {is : List Item} {report : Fault → Fault}
    {o : Outcome ReadLoop} (hstart : loop.received = []) (h : loop.Settled is report o) :
    ExactOutcome loop.endpoint loop.length loop.retriesLeft report is
      (o.map ReadLoop.received) := by
  have hrem : loop.remaining = loop.length := by
    simp [ReadLoop.remaining, ReadLoop.readOffset, hstart]
  cases h with
  | @filled front hfront hbytes hfailures =>
      simp only [Outcome.map, hstart, List.nil_append]
      exact .complete hfront (hbytes.trans hrem) hfailures
  | @failed front f hfront hbytes hfailures =>
      rw [hrem] at hbytes ⊢
      refine .unread ?_ hfront hfailures (Nat.add_sub_of_le (Nat.le_of_lt hbytes))
        (Nat.sub_pos_of_lt hbytes) rfl rfl rfl
      -- Of two beginnings one begins the other: a complete one contains the failure too many.
      intro front' hfront' hbytes'
      rcases hfront.total hfront' with hle | hle
      · have hcount : failures (front ++ [.error f]) ≤ failures front' := hle.countP_le
        rw [failures_append, failures_error_cons, failures_nil] at hcount
        omega
      · have hlength : (bytes front').length ≤ (bytes (front ++ [.error f])).length :=
          (hle.filterMap _).length_le
        rw [bytes_append, bytes_error_cons, bytes_nil, List.append_nil] at hlength
        omega

/-- What is asked of a node that has granted the request for `amount` bytes of a range, and what
the node supplies then. -/
structure Granted (mode : Mode) (streamer : Streamer) (task : Task) (net : Network) (amount : Nat)
    (is : List Item) : Prop where
  length : task.range.effectiveLength task.block = .ok amount
  positive : 1 ≤ amount
  buffer : 1 ≤ streamer.bufferSize
  retries : 0 ≤ streamer.maxRetries
  encodes : ∃ payload, (streamer.opening task amount).request.encode = .ok payload
  begins : Network.begins mode streamer.sessionTimeout = true
  grants : ∃ script, (net.scripts task.endpoint).head? = some script ∧ script.Grants is

section Run

variable {mode : Mode} {streamer : Streamer} {task : Task} {net : Network} {amount : Nat}

/-- The session that a node grants: its reader holds a connection on which the items after the
status are left. -/
theorem start_of_grants {opening : Opening} {payload : Bytes} {script : Script} {is : List Item}
    (hbegins : Network.begins mode opening.timeout = true)
    (hencode : opening.request.encode = .ok payload)
    (hscript : (net.scripts opening.endpoint).head? = some script) (hgrants : script.Grants is) :
    ∃ rest notes, items rest = is ∧ (∀ f, .error f ∈ rest → .error f ∈ script.arrivals) ∧
      Reader.start mode opening.request (net, opening.reader) =
        ⟨.ok (), notes, (net.afterAttempt opening.endpoint,
          opening.reader.holding (script.link net.attempts) rest)⟩ := by
  obtain ⟨rest, htwo, hrest⟩ := firstTwo_of_items hgrants.status
  have hanswer : net.answer opening.reader.endpoint = .ok (script.link net.attempts) :=
    Network.answer_of_head hscript hgrants.connect
  have hheld : ({ opening.reader with link := some (script.link net.attempts) } : Reader).link =
      some (script.link net.attempts) := rfl
  have hexchange := Reader.exchange_of_sent hheld mode hencode hgrants.send
  have harrivals : (script.link net.attempts).arrivals = script.arrivals := rfl
  have hstatus : (Pair.bytes 0 0).outcome mode = .ok Status.success :=
    congrArg Outcome.ok (by decide : Status.ofBytes 0 0 = Status.success)
  rw [harrivals, htwo, hstatus] at hexchange
  have hhandshake := Reader.handshake_of_granted hexchange
  have hstart := Reader.start_of_answered opening.request hbegins hanswer
  rw [hhandshake] at hstart
  refine ⟨rest, _, hrest, ?_, hstart⟩
  intro f hf
  refine mem_of_firstTwo (Or.inr ?_)
  rw [htwo]
  exact hf

/-- Collecting from an open session has one of the two outcomes. -/
theorem collect_exact (mode : Mode) (reader : Reader) {link : Link} {retries : Int}
    (endpoint : Endpoint) (amount : Nat) (hlink : reader.link = some link)
    (hbuffer : 1 ≤ reader.bufferSize)
    (hfaults : ∀ f, .error f ∈ link.arrivals → f.isSystem = true) (hretries : 0 ≤ retries) :
    ExactOutcome endpoint amount retries (Reader.report mode reader.endpoint reader.timeout)
      (items link.arrivals)
      (collect (nodeSessions mode) ⟨endpoint, amount, [], retries⟩ reader).outcome := by
  let loop : ReadLoop := ⟨endpoint, amount, [], retries⟩
  have henough : loop.Enough (loop.readsAllowed ((nodeSessions mode).supply reader)) :=
    ReadLoop.enough_readsAllowed hretries _
  have hsettled := ReadLoop.fill_settled mode _ loop reader link hlink hbuffer hfaults henough
  have hrun : (collect (nodeSessions mode) loop reader).outcome =
      (loop.fill (nodeSessions mode).read (loop.readsAllowed ((nodeSessions mode).supply reader))
        reader).outcome.map ReadLoop.received := by
    unfold collect
    rw [get_bind, bind_pure_apply]
  rw [hrun]
  exact exactOutcome_of_settled rfl hsettled

theorem ExactOutcome.ne_unfinished {endpoint : Endpoint} {retries : Int} {report : Fault → Fault}
    {is : List Item} {o : Outcome Bytes} (h : ExactOutcome endpoint amount retries report is o) :
    o ≠ .unfinished := by
  rintro rfl
  cases h

/-- Reading a range from a node that grants it has one of the two outcomes if the range fits in
memory. A longer range fails before anything is done. -/
theorem stream_exact {is : List Item} (h : Granted mode streamer task net amount is) :
    (amount ≤ streamer.memory.size →
      ExactOutcome task.endpoint amount streamer.maxRetries
        (Reader.report mode task.endpoint streamer.sessionTimeout) is
        (stream (nodeSessions mode) streamer task net).outcome) ∧
    (streamer.memory.size < amount →
      stream (nodeSessions mode) streamer task net = ⟨.fault .outOfMemory, [], net⟩) := by
  obtain ⟨payload, hencode⟩ := h.encodes
  obtain ⟨script, hscript, hgrants⟩ := h.grants
  constructor
  · intro hmemory
    have hbegins : Network.begins mode (streamer.opening task amount).timeout = true := h.begins
    obtain ⟨rest, notes, hrest, hfaults, hstart⟩ :=
      start_of_grants hbegins hencode hscript hgrants
    let reader := (streamer.opening task amount).reader.holding (script.link net.attempts) rest
    have hexact := collect_exact mode reader task.endpoint amount rfl h.buffer
      (fun f hf => hgrants.receive f (hfaults f hf)) h.retries
    have hcollect := collect_close _ rfl hgrants.close hexact.ne_unfinished
    rw [stream_of_length _ h.length h.positive,
      fetch_of_opened (loop_of_fits hmemory) hstart hcollect, ← hrest]
    exact hexact
  · intro hmemory
    have hfits := (Request.encode_eq_ok_iff _).1 h.encodes
    exact stream_of_large _ h.length hmemory hfits.length net

end Run

/-! ### Two runs -/

/-- One retry, and two bytes at a time. -/
def modest : Streamer where
  sessionTimeout := .finite false 60 0
  maxRetries := 1
  bufferSize := 2
  clientName := "viewer"

/-- The whole of a block. -/
def wholeBlock (length : Nat) : Task :=
  ⟨.atFirstPort "a", ⟨7, 1, length⟩, {}, ⟨0, length⟩⟩

/-- The status in two pieces, and a failure between the first byte and the next two. -/
def hesitant : Network where
  scripts _ := [{ arrivals := [.ok [0], .ok [0, 97], .error .connectionRefused, .ok [98, 99]] }]

theorem granted_hesitant (mode : Mode) {length : Nat} (hpos : 1 ≤ length)
    (hlength : Word.InRange 8 length) :
    Granted mode modest (wholeBlock length) hesitant length
      [.ok 97, .error .connectionRefused, .ok 98, .ok 99] where
  length := by
    simp [ReadRange.effectiveLength, wholeBlock]
  positive := hpos
  buffer := by decide
  retries := by decide
  encodes := by
    have hname : (Utf8.encode "viewer".toList).length < Word.count 2 := by decide
    exact (Request.encode_eq_ok_iff _).2 ⟨(by decide : Word.InRange 8 7),
      (by decide : Word.InRange 8 1), (by decide : Word.InRange 8 0), hlength, hname,
      (by decide : 0 < Word.count 4)⟩
  begins := by
    cases mode with
    | sync =>
        rfl
    | async =>
        decide +kernel
  grants := by
    refine ⟨_, rfl, rfl, rfl, ?_, ?_, rfl⟩
    · intro f hf
      simp only [List.mem_cons] at hf
      rcases hf with hf | hf | hf | hf | hf <;> cases hf
      rfl
    · intro f hf
      cases hf

/-- The failure takes the retry, and the three bytes are returned. -/
theorem stream_exact_hesitant :
    ExactOutcome (wholeBlock 3).endpoint 3 1
        (Reader.report .async (wholeBlock 3).endpoint modest.sessionTimeout)
        [.ok 97, .error .connectionRefused, .ok 98, .ok 99]
        (stream (nodeSessions .async) modest (wholeBlock 3) hesitant).outcome ∧
      (stream (nodeSessions .async) modest (wholeBlock 3) hesitant).outcome =
        .ok [97, 98, 99] :=
  ⟨(stream_exact (granted_hesitant .async (by decide) (by decide))).1 (by decide),
    by decide +kernel⟩

/-- A range too long for memory has neither of the two outcomes. -/
theorem not_exactOutcome_of_large :
    Granted .sync modest (wholeBlock 4611686018427387904) hesitant 4611686018427387904
        [.ok 97, .error .connectionRefused, .ok 98, .ok 99] ∧
      ¬ ExactOutcome (wholeBlock 4611686018427387904).endpoint 4611686018427387904 1
        (Reader.report .sync (wholeBlock 4611686018427387904).endpoint modest.sessionTimeout)
        [.ok 97, .error .connectionRefused, .ok 98, .ok 99]
        (stream (nodeSessions .sync) modest (wholeBlock 4611686018427387904) hesitant).outcome := by
  have hgranted := granted_hesitant .sync (by decide : 1 ≤ 4611686018427387904) (by decide)
  refine ⟨hgranted, ?_⟩
  rw [stream_of_large _ hgranted.length (by decide) (by decide)]
  intro h
  cases h with
  | unread _ _ _ _ _ hkind =>
      cases hkind

end Streamer
end ReplicaRead
