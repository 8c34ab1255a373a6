import ReplicaRead.Proofs.Keeping
import ReplicaRead.Proofs.Session.Steps
import ReplicaRead.Proofs.Turns
import ReplicaRead.Stream

/-!
# The read loop on a session

The loop collects a range from the items that a connection supplies. What it has received, the
retries that it has left and the arrivals that are left determine what it ends with: the first
bytes that are supplied, if no more failures come before the last of them than there are retries,
and otherwise the failure for which no retry is left.

Results: `Settled`, which says what a loop ends with on a supply of items, and `fill_settled`: the
loop ends so on every reader that holds a connection.
-/

namespace ReplicaRead
namespace ReadLoop

open Act Arrivals

/-- How a loop ends on a supply of items, when faults are reported by `report`. -/
inductive Settled (loop : ReadLoop) (is : List Item) (report : Fault → Fault) :
    Outcome ReadLoop → Prop where
  /-- Nothing is missing any more. -/
  | filled {front : List Item} (hfront : Supplies is front)
      (hbytes : (bytes front).length = loop.remaining)
      (hfailures : failures front ≤ loop.retriesLeft) :
      Settled loop is report (.ok { loop with
        received := loop.received ++ bytes front
        retriesLeft := loop.retriesLeft - failures front })
  /-- There is a failure and no retry left. -/
  | failed {front : List Item} {f : Fault} (hfront : Supplies is (front ++ [.error f]))
      (hbytes : (bytes front).length < loop.remaining)
      (hfailures : failures front = loop.retriesLeft) :
      Settled loop is report (.fault
        (.unread loop.endpoint (loop.remaining - (bytes front).length) loop.length (report f)))

/-! ### One read -/

/-- A number of reads with which the loop ends: each read brings a missing byte or takes a retry. -/
structure Enough (loop : ReadLoop) (reads : Nat) : Prop where
  retries : 0 ≤ loop.retriesLeft
  bound : loop.remaining + loop.retriesLeft.toNat ≤ reads

theorem enough_readsAllowed {loop : ReadLoop} (hretries : 0 ≤ loop.retriesLeft) (supply : Nat) :
    loop.Enough (loop.readsAllowed supply) :=
  ⟨hretries, Nat.le_of_eq (if_pos hretries).symm⟩

theorem Enough.remaining_eq_zero {loop : ReadLoop} (h : loop.Enough 0) : loop.remaining = 0 :=
  (Nat.add_eq_zero_iff.1 (Nat.le_zero.1 h.bound)).1

theorem Enough.of_taken {loop : ReadLoop} {reads : Nat} {bs : Bytes} (h : loop.Enough (reads + 1))
    (hle : bs.length ≤ loop.remaining) (hne : bs ≠ []) : (loop.taken bs).Enough reads := by
  have hbound := h.bound
  have hrem := remaining_taken hle
  have hpos := List.length_pos_iff.2 hne
  refine ⟨h.retries, ?_⟩
  rw [taken_retriesLeft]
  omega

theorem Enough.of_charged {loop : ReadLoop} {reads : Nat} (h : loop.Enough (reads + 1))
    (hleft : loop.retriesLeft ≠ 0) : loop.charged.Enough reads := by
  have hretries := h.retries
  have hbound := h.bound
  constructor
  · rw [charged_retriesLeft]
    omega
  · rw [charged_remaining, charged_retriesLeft]
    omega

/-- A loop to which nothing is missing has settled. -/
theorem Settled.of_done {loop : ReadLoop} (hrem : loop.remaining = 0)
    (hretries : 0 ≤ loop.retriesLeft) (is : List Item) (report : Fault → Fault) :
    Settled loop is report (.ok loop) := by
  have hsettled : Settled loop is report _ :=
    .filled (supplies_nil is) hrem.symm hretries
  simpa using hsettled

/-- Data that is taken is the first that was supplied. -/
theorem Settled.of_taken {loop : ReadLoop} {is is' : List Item} {report : Fault → Fault}
    {o : Outcome ReadLoop} {bs : Bytes} (hle : bs.length ≤ loop.remaining)
    (hsupply : ∀ front, Supplies is' front → Supplies is (bs.map .ok ++ front))
    (h : Settled (loop.taken bs) is' report o) :
    Settled loop is report o := by
  have hrem := remaining_taken hle
  cases h with
  | @filled front hfront hbytes hfailures =>
      have hlength : (bytes (bs.map .ok ++ front)).length = loop.remaining := by
        simp
        omega
      have hcount : (failures (bs.map .ok ++ front) : Int) ≤ loop.retriesLeft := by
        simpa using hfailures
      simpa [taken] using Settled.filled (hsupply front hfront) hlength hcount
  | @failed front f hfront hbytes hfailures =>
      have hall : Supplies is ((bs.map .ok ++ front) ++ [.error f]) := by
        rw [List.append_assoc]
        exact hsupply _ hfront
      have hlength : (bytes (bs.map .ok ++ front)).length < loop.remaining := by
        simp
        omega
      have hcount : (failures (bs.map .ok ++ front) : Int) = loop.retriesLeft := by
        simpa using hfailures
      have hleft : (loop.taken bs).remaining - (bytes front).length =
          loop.remaining - (bytes (bs.map .ok ++ front)).length := by
        simp
        omega
      rw [hleft]
      exact Settled.failed hall hlength hcount

/-- A failure that is paid for with a retry is the first that was supplied. -/
theorem Settled.of_charged {loop : ReadLoop} {is is' : List Item} {report : Fault → Fault}
    {o : Outcome ReadLoop} {f : Fault}
    (hsupply : ∀ front, Supplies is' front → Supplies is (.error f :: front))
    (h : Settled loop.charged is' report o) :
    Settled loop is report o := by
  cases h with
  | @filled front hfront hbytes hfailures =>
      rw [charged_retriesLeft] at hfailures
      have hcount : (failures (.error f :: front) : Int) ≤ loop.retriesLeft := by
        rw [failures_error_cons]
        omega
      have hleft : loop.retriesLeft - (failures (.error f :: front) : Int) =
          loop.charged.retriesLeft - (failures front : Int) := by
        rw [failures_error_cons, charged_retriesLeft]
        omega
      have hfilled : Settled loop is report _ :=
        .filled (hsupply front hfront) hbytes hcount
      rw [hleft] at hfilled
      exact hfilled
  | @failed front g hfront hbytes hfailures =>
      rw [charged_retriesLeft] at hfailures
      have hcount : (failures (.error f :: front) : Int) = loop.retriesLeft := by
        rw [failures_error_cons]
        omega
      have hall : Supplies is ((.error f :: front) ++ [.error g]) := hsupply _ hfront
      have hfailed : Settled loop is report _ := .failed hall hbytes hcount
      exact hfailed

section Step

variable {mode : Mode} {loop : ReadLoop} {reader : Reader} {link : Link}

/-- The greatest number of bytes that the next read asks for. -/
def wanted (loop : ReadLoop) (reader : Reader) : Int :=
  min (loop.remaining : Int) reader.bufferSize

theorem wanted_nonneg (loop : ReadLoop) (hbuffer : 0 ≤ reader.bufferSize) :
    0 ≤ loop.wanted reader :=
  Int.le_min.2 ⟨Int.natCast_nonneg _, hbuffer⟩

/-- Data that a read brings into a buffer is not longer than what is missing. -/
theorem length_le_of_piece (hbuffer : 0 ≤ reader.bufferSize) {arrivals : List Arrival} {bs : Bytes}
    (hpiece : receivePiece mode (loop.wanted reader) arrivals = .ok bs) :
    bs.length ≤ loop.remaining := by
  have hlength := length_le_of_receivePiece hpiece
  simp only [wanted] at hlength
  omega

variable (h : reader.link = some link)
include h

theorem read_of_held (mode : Mode) (loop : ReadLoop) :
    (nodeSessions mode).read loop.remaining reader =
      ⟨.ofExcept ((receivePiece mode (loop.wanted reader) link.arrivals).mapError
          (Reader.report mode reader.endpoint reader.timeout)),
        [.receive link.id (loop.wanted reader)],
        reader.advanced mode link (loop.wanted reader)⟩ :=
  Reader.read_of_held h mode loop.remaining

/-- Of a piece, as much is taken as is missing. -/
theorem step_of_piece {bs : Bytes}
    (hpiece : receivePiece mode (loop.wanted reader) link.arrivals = .ok bs) :
    step (nodeSessions mode).read loop reader =
      ⟨.ok (loop.taken (bs.take loop.remaining)), [.receive link.id (loop.wanted reader)],
        reader.advanced mode link (loop.wanted reader)⟩ := by
  have hread := read_of_held h mode loop
  rw [hpiece] at hread
  exact step_of_data hread (receivePiece_ok hpiece).2

/-- A piece that a buffer holds is taken as a whole. -/
theorem step_of_whole {bs : Bytes} (hbuffer : 0 ≤ reader.bufferSize)
    (hpiece : receivePiece mode (loop.wanted reader) link.arrivals = .ok bs) :
    step (nodeSessions mode).read loop reader =
      ⟨.ok (loop.taken bs), [.receive link.id (loop.wanted reader)],
        reader.advanced mode link (loop.wanted reader)⟩ := by
  rw [step_of_piece h hpiece, List.take_of_length_le (length_le_of_piece hbuffer hpiece)]

/-- A read that fails, before it is decided whether to try again. -/
theorem attempt_of_failure (mode : Mode) {f : Fault}
    (hpiece : receivePiece mode (loop.wanted reader) link.arrivals = .error f) :
    attempt (nodeSessions mode).read loop reader =
      ⟨.fault (Reader.report mode reader.endpoint reader.timeout f),
        [.receive link.id (loop.wanted reader)],
        reader.advanced mode link (loop.wanted reader)⟩ := by
  have hread := read_of_held h mode loop
  rw [hpiece] at hread
  exact attempt_of_fault hread

/-- A failure of the system while a retry is left. -/
theorem step_of_charged {f : Fault}
    (hpiece : receivePiece mode (loop.wanted reader) link.arrivals = .error f)
    (hf : f.isSystem = true) (hretries : loop.retriesLeft ≠ 0) :
    step (nodeSessions mode).read loop reader =
      ⟨.ok loop.charged,
        [.receive link.id (loop.wanted reader), .record ⟨.debug, .streaming,
          retryMessage loop.endpoint (Reader.report mode reader.endpoint reader.timeout f)
            loop.charged.retriesLeft⟩],
        reader.advanced mode link (loop.wanted reader)⟩ :=
  step_of_paid (attempt_of_failure h mode hpiece)
    (hf ▸ Reader.report_isSystem mode reader.endpoint reader.timeout f) hretries

/-- A failure of the system when no retry is left. -/
theorem step_of_spent {f : Fault}
    (hpiece : receivePiece mode (loop.wanted reader) link.arrivals = .error f)
    (hf : f.isSystem = true) (hretries : loop.retriesLeft = 0) :
    step (nodeSessions mode).read loop reader =
      ⟨.fault (.unread loop.endpoint loop.remaining loop.length
          (Reader.report mode reader.endpoint reader.timeout f)),
        [.receive link.id (loop.wanted reader)],
        reader.advanced mode link (loop.wanted reader)⟩ :=
  step_of_unpaid (attempt_of_failure h mode hpiece)
    (hf ▸ Reader.report_isSystem mode reader.endpoint reader.timeout f) hretries

/-- A failure that is not one of the system. -/
theorem step_of_escaped (mode : Mode) {f : Fault}
    (hpiece : receivePiece mode (loop.wanted reader) link.arrivals = .error f)
    (hf : f.isSystem = false) :
    step (nodeSessions mode).read loop reader =
      ⟨.fault f, [.receive link.id (loop.wanted reader)],
        reader.advanced mode link (loop.wanted reader)⟩ := by
  have hattempt := attempt_of_failure h mode hpiece
  rw [Reader.report_of_escaped hf] at hattempt
  exact step_of_unhandled hattempt hf

end Step

/-! ### All reads -/

/-- A loop with enough reads for what is missing and for its retries settles. -/
theorem fill_settled (mode : Mode) (reads : Nat) (loop : ReadLoop) (reader : Reader) (link : Link)
    (h : reader.link = some link) (hbuffer : 1 ≤ reader.bufferSize)
    (hfaults : ∀ f, .error f ∈ link.arrivals → f.isSystem = true) (henough : loop.Enough reads) :
    Settled loop (items link.arrivals) (Reader.report mode reader.endpoint reader.timeout)
      (fill (nodeSessions mode).read reads loop reader).outcome := by
  induction reads generalizing loop reader link with
  | zero =>
      rw [fill_of_done henough.remaining_eq_zero]
      exact .of_done henough.remaining_eq_zero henough.retries _ _
  | succ reads ih =>
      by_cases hrem : loop.remaining = 0
      · rw [fill_of_done hrem]
        exact .of_done hrem henough.retries _ _
      · rw [fill_of_missing hrem]
        have hwanted : 0 < loop.wanted reader := by
          simp only [wanted]
          omega
        have hsupply := supplies_of_receive hwanted mode link.arrivals
        have hleft : ∀ f, .error f ∈ (receiveSized mode (loop.wanted reader) link.arrivals).2 →
            f.isSystem = true :=
          fun f hf => hfaults f (mem_of_receiveSized (Int.le_of_lt hwanted) (.inr hf))
        have next := fun loop' => ih loop' (reader.advanced mode link (loop.wanted reader)) _
          rfl hbuffer hleft
        cases hpiece : receivePiece mode (loop.wanted reader) link.arrivals with
        | ok bs =>
            rw [hpiece] at hsupply
            have hfits := Int.le_trans Int.one_nonneg hbuffer
            have hlength := length_le_of_piece hfits hpiece
            rw [bind_of_ok (step_of_whole h hfits hpiece)]
            refine .of_taken hlength hsupply ?_
            exact next (loop.taken bs) (henough.of_taken hlength (receivePiece_ok hpiece).2)
        | error f =>
            rw [hpiece] at hsupply
            have hsystem : f.isSystem = true := by
              rcases receivePiece_error hpiece with rfl | hf
              · rfl
              · exact hfaults f (mem_of_receiveSized (Int.le_of_lt hwanted) (.inl hf))
            by_cases hspent : loop.retriesLeft = 0
            · rw [bind_of_fault (step_of_spent h hpiece hsystem hspent)]
              have hfront : Supplies (items link.arrivals) ([] ++ [.error f]) :=
                hsupply [] (supplies_nil _)
              exact .failed hfront (Nat.pos_of_ne_zero hrem) hspent.symm
            · rw [bind_of_ok (step_of_charged h hpiece hsystem hspent)]
              refine .of_charged hsupply ?_
              exact next loop.charged (henough.of_charged hspent)

/-! ### What stays as it is -/

/-- The reader holds the connection, on which some of the arrivals are left. -/
def Holds (link : Link) (reader : Reader) : Prop :=
  ∃ arrivals, reader.link = some { link with arrivals }

/-- The notes of reading data from the connection of a number. -/
def IsReading (id : Nat) : Note → Prop
  | .receive i _ => i = id
  | .record r => r.channel = .streaming
  | _ => False

theorem read_keeps (mode : Mode) (link : Link) (n : Nat) :
    ((nodeSessions mode).read n).Keeps (Holds link) (IsReading link.id) := by
  rintro reader ⟨arrivals, h⟩
  have hread : (nodeSessions mode).read n reader = _ := Reader.read_of_held h mode n
  rw [hread]
  refine ⟨⟨_, rfl⟩, ?_⟩
  intro note hnote
  rw [List.mem_singleton] at hnote
  subst hnote
  rfl

end ReadLoop
end ReplicaRead
