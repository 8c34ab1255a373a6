import ReplicaRead.Proofs.Evaluation
import ReplicaRead.ReadLoop

/-!
# Turns of the read loop

In one turn the loop reads what is missing, and takes the data or, if the read fails, a retry. What
a turn does is told here for any way of reading, by what the read ends with. The loop is made of
turns: with a number of reads it does what so many turns do, and then goes on with the reads that
are left.

Results: `step_of_data`, `step_of_paid`, `step_of_unpaid` and `step_of_unhandled`, one equation for
each way in which a turn goes; `fill_add`, the loop as turns.
-/

namespace ReplicaRead
namespace ReadLoop

open Act

/-- The loop after data of at most the length that is missing. -/
def taken (loop : ReadLoop) (bs : Bytes) : ReadLoop :=
  { loop with received := loop.received ++ bs }

/-- The loop after a failure. -/
def charged (loop : ReadLoop) : ReadLoop :=
  { loop with retriesLeft := loop.retriesLeft - 1 }

@[simp] theorem taken_retriesLeft (loop : ReadLoop) (bs : Bytes) :
    (loop.taken bs).retriesLeft = loop.retriesLeft := rfl

@[simp] theorem charged_retriesLeft (loop : ReadLoop) :
    loop.charged.retriesLeft = loop.retriesLeft - 1 := rfl

@[simp] theorem charged_remaining (loop : ReadLoop) :
    loop.charged.remaining = loop.remaining := rfl

theorem remaining_taken {loop : ReadLoop} {bs : Bytes} (h : bs.length ≤ loop.remaining) :
    (loop.taken bs).remaining + bs.length = loop.remaining := by
  simp only [remaining, readOffset, taken, List.length_append] at h ⊢
  omega

/-- A buffer can be set aside for a range that fits in memory. -/
theorem make_of_fits {length : Nat} {memory : Memory} (hmemory : length ≤ memory.size)
    (endpoint : Endpoint) (retries : Int) :
    make endpoint length retries memory = .ok ⟨endpoint, length, [], retries⟩ := by
  have hsmall := memory.size_lt
  have hcount : Word.count 8 = 18446744073709551616 := rfl
  have hword : Word.InRange 8 length := by
    rw [Word.InRange, hcount]
    omega
  unfold make
  rw [if_neg (not_not_intro hword), if_neg (by omega),
    if_neg (Int.not_lt.2 (Int.ofNat_le.2 hmemory))]
  rfl

/-! ### One turn -/

section Turn

variable {σ : Type} {read : Nat → Act σ Bytes} {loop : ReadLoop} {s s' : σ} {notes : List Note}

/-- A read of what is missing, before it is decided whether to try again. -/
def attempt (read : Nat → Act σ Bytes) (loop : ReadLoop) : Act σ ReadLoop := do
  let piece ← read loop.remaining
  ofExcept (loop.accept piece)

theorem step_eq (read : Nat → Act σ Bytes) (loop : ReadLoop) :
    step read loop = (attempt read loop).recover Fault.isSystem loop.retryLogged := rfl

/-- No data is a premature end. -/
theorem attempt_of_empty (hread : read loop.remaining s = ⟨.ok [], notes, s'⟩) :
    attempt read loop s = ⟨.fault .prematureEnd, notes, s'⟩ := by
  rw [attempt, bind_of_ok hread]
  simp [accept, Outcome.ofExcept]

theorem attempt_of_fault {f : Fault} (hread : read loop.remaining s = ⟨.fault f, notes, s'⟩) :
    attempt read loop s = ⟨.fault f, notes, s'⟩ :=
  bind_of_fault hread

/-- Data is taken up to what is missing. -/
theorem step_of_data {bs : Bytes} (hread : read loop.remaining s = ⟨.ok bs, notes, s'⟩)
    (hne : bs ≠ []) :
    step read loop s = ⟨.ok (loop.taken (bs.take loop.remaining)), notes, s'⟩ := by
  have haccept : loop.accept bs = .ok (loop.taken (bs.take loop.remaining)) := by
    simp [accept, hne, taken]
  rw [step_eq]
  refine recover_of_ok ?_
  rw [attempt, bind_of_ok hread, haccept]
  simp [Outcome.ofExcept]

section Failure

variable {f : Fault} (hattempt : attempt read loop s = ⟨.fault f, notes, s'⟩)
include hattempt

/-- A failure of the system is paid for with a retry. -/
theorem step_of_paid (hf : f.isSystem = true) (hretries : loop.retriesLeft ≠ 0) :
    step read loop s = ⟨.ok loop.charged,
      notes ++ [.record ⟨.debug, .streaming,
        retryMessage loop.endpoint f loop.charged.retriesLeft⟩], s'⟩ := by
  rw [step_eq, recover_of_handled hattempt hf, retryLogged, retry, if_neg hretries]
  rfl

/-- A failure of the system when no retry is left. -/
theorem step_of_unpaid (hf : f.isSystem = true) (hretries : loop.retriesLeft = 0) :
    step read loop s =
      ⟨.fault (.unread loop.endpoint loop.remaining loop.length f), notes, s'⟩ := by
  rw [step_eq, recover_of_handled hattempt hf, retryLogged, retry, if_pos hretries,
    ofExcept_error_bind, Run.prepend_mk, List.append_nil]

/-- A failure that is not one of the system. -/
theorem step_of_unhandled (hf : f.isSystem = false) :
    step read loop s = ⟨.fault f, notes, s'⟩ := by
  rw [step_eq]
  exact recover_of_unhandled hattempt hf

end Failure
end Turn

/-! ### Many turns -/

section Turns

variable {σ : Type}

theorem fill_of_done {read : Nat → Act σ Bytes} {reads : Nat} {loop : ReadLoop}
    (hrem : loop.remaining = 0) (s : σ) :
    fill read reads loop s = ⟨.ok loop, [], s⟩ := by
  unfold fill
  rw [if_pos hrem]
  rfl

theorem fill_of_missing {read : Nat → Act σ Bytes} {reads : Nat} {loop : ReadLoop}
    (hrem : loop.remaining ≠ 0) :
    fill read (reads + 1) loop = (step read loop >>= fill read reads) := by
  rw [fill, if_neg hrem]

/-- One turn of the loop, if anything is missing. -/
def turn (read : Nat → Act σ Bytes) (loop : ReadLoop) : Act σ ReadLoop :=
  if loop.remaining = 0 then return loop
  else step read loop

/-- A number of turns of the loop. -/
def turns (read : Nat → Act σ Bytes) : Nat → ReadLoop → Act σ ReadLoop
  | 0, loop => return loop
  | k + 1, loop => turns read k loop >>= turn read

theorem fill_succ (read : Nat → Act σ Bytes) (reads : Nat) (loop : ReadLoop) :
    fill read (reads + 1) loop = (turn read loop >>= fill read reads) := by
  by_cases hrem : loop.remaining = 0
  · funext s
    rw [fill_of_done hrem, turn, if_pos hrem, pure_bind, fill_of_done hrem]
  · rw [fill_of_missing hrem, turn, if_neg hrem]

/-- The loop begins with turns and goes on with the reads that are left. -/
theorem fill_add (read : Nat → Act σ Bytes) (k reads : Nat) (loop : ReadLoop) :
    fill read (k + reads) loop = (turns read k loop >>= fill read reads) := by
  induction k generalizing reads with
  | zero =>
      rw [Nat.zero_add, turns, pure_bind]
  | succ k ih =>
      rw [Nat.succ_add_eq_add_succ, ih, turns, bind_assoc]
      simp only [← fill_succ]

end Turns

end ReadLoop
end ReplicaRead
