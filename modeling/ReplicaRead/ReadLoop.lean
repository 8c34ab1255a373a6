import ReplicaRead.Act
import ReplicaRead.Settings.Basic

/-!
# The read loop

A range of known length is collected from pieces of any size, and a budget of retries is spent on
reads that fail.

Algorithm: the length must be one for which a buffer can be set aside. A piece longer than what is
missing is cut; an empty piece is a premature end. A failed read takes one retry, and fails the
range if none is left. A budget below zero is never used up.

Results: `ReadLoop.make`, the start; `ReadLoop.accept` and `ReadLoop.retry`, the steps;
`ReadLoop.fill`, the loop, for any way of reading.
-/

namespace ReplicaRead

/-- A range that is being read. -/
structure ReadLoop where
  endpoint : Endpoint
  length : Nat
  received : Bytes := []
  retriesLeft : Int
deriving DecidableEq

namespace ReadLoop

/-- A loop for a range of the given length, for which a buffer is set aside. -/
def make (endpoint : Endpoint) (length retries : Int) (memory : Memory := .usual) :
    Except Fault ReadLoop :=
  if ¬ Word.InRange 8 length then .error .countOverflow
  else if length < 0 then .error .negativeCount
  else if (memory.size : Int) < length then .error .outOfMemory
  else .ok { endpoint, length := length.toNat, retriesLeft := retries }

/-- The number of bytes read so far. -/
def readOffset (loop : ReadLoop) : Nat :=
  loop.received.length

/-- The number of bytes that are missing. -/
def remaining (loop : ReadLoop) : Nat :=
  loop.length - loop.readOffset

/-- The range as far as it is known, with zeros for the bytes that are missing. -/
def buffer (loop : ReadLoop) : Bytes :=
  loop.received ++ List.replicate loop.remaining 0

/-- The loop after a piece of data. -/
def accept (loop : ReadLoop) (piece : Bytes) : Except Fault ReadLoop :=
  if piece.isEmpty then .error .prematureEnd
  else .ok { loop with received := loop.received ++ piece.take loop.remaining }

/-- The loop after a failed read. -/
def retry (loop : ReadLoop) (f : Fault) : Except Fault ReadLoop :=
  if loop.retriesLeft = 0 then
    .error (.unread loop.endpoint loop.remaining loop.length f)
  else .ok { loop with retriesLeft := loop.retriesLeft - 1 }

/-- What is logged when a read is to be tried again. -/
def retryMessage (endpoint : Endpoint) (f : Fault) (retriesLeft : Int) : String :=
  s!"Read from {endpoint} failed (" ++ f.shown ++ s!"), {retriesLeft} retries left"

section Reading

variable {σ : Type}

/-- Takes a retry and logs it. -/
def retryLogged (loop : ReadLoop) (f : Fault) : Act σ ReadLoop := do
  let loop ← Act.ofExcept (loop.retry f)
  Act.log .debug .streaming (retryMessage loop.endpoint f loop.retriesLeft)
  return loop

/-- One read of what is missing. Only failures of the system are tried again. -/
def step (read : Nat → Act σ Bytes) (loop : ReadLoop) : Act σ ReadLoop :=
  let accepted : Act σ ReadLoop := do
    let piece ← read loop.remaining
    Act.ofExcept (loop.accept piece)
  accepted.recover Fault.isSystem loop.retryLogged

/-- Reads until nothing is missing, with at most `reads` reads. -/
def fill (read : Nat → Act σ Bytes) : (reads : Nat) → ReadLoop → Act σ ReadLoop
  | reads, loop =>
    if loop.remaining = 0 then return loop
    else
      match reads with
      | 0 => Act.unfinished
      | reads + 1 => do
        let loop ← step read loop
        fill read reads loop

/-- The number of reads after which a loop has ended if it ends at all, when reading brings nothing
new after `supply` reads. Each read brings a missing byte or takes a retry, so with a budget that
can be used up the supply does not matter. -/
def readsAllowed (loop : ReadLoop) (supply : Nat) : Nat :=
  if 0 ≤ loop.retriesLeft then loop.remaining + loop.retriesLeft.toNat
  else loop.remaining + supply + 1

end Reading

end ReadLoop
end ReplicaRead
