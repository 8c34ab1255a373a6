import ReplicaRead.ReadLoop
import ReplicaRead.Session.Reader
import ReplicaRead.Settings.Basic
import ReplicaRead.Text.Lines

/-!
# Streaming a range

A range of a block is read from one replica, over one session.

Input: the endpoint, the block, the credential and the range.

Algorithm: the range is clipped to the block. If nothing is left, nothing is done. Otherwise a
session is opened, the bytes are collected by the read loop, and the session is closed whatever
the outcome.

Results: `Streamer.stream`, for any kind of session, and `nodeSessions`, the sessions with nodes.
-/

namespace ReplicaRead

/-- A kind of session: how one is opened, on a state of type `σ`, and read and closed, as a state
of type `τ`. -/
structure SessionKind (σ τ : Type) where
  start : Opening → Act σ τ
  read : Nat → Act τ Bytes
  close : Act τ Unit
  /-- A number of reads after which reading brings nothing new, if no data is taken. -/
  supply : τ → Nat

/-- What a session with a node is asked for. -/
def Opening.request (o : Opening) : Request :=
  Reader.request o.block o.credential o.offset o.amount o.clientName

/-- A reader for an opening, without a connection. -/
def Opening.reader (o : Opening) : Reader where
  endpoint := o.endpoint
  timeout := o.timeout
  bufferSize := o.bufferSize

/-- The number of arrivals on the connection that a reader holds. -/
def Reader.supply (reader : Reader) : Nat :=
  match reader.link with
  | some link => link.arrivals.length
  | none => 0

/-- The sessions with nodes. -/
def nodeSessions (mode : Mode) : SessionKind Network Reader where
  start o := Act.making o.reader (Reader.start mode o.request)
  read n := Reader.read mode n
  close := Reader.close mode
  supply := Reader.supply

/-- How ranges are read. -/
structure Streamer where
  sessionTimeout : Binary64
  maxRetries : Int
  bufferSize : Int
  clientName : String
  memory : Memory := .usual
deriving DecidableEq, Repr

namespace Streamer

/-- What a caller may choose about the reading of ranges. -/
structure Choices where
  sessionTimeout : Option Binary64 := none
  maxRetries : Option Int := none
  /-- The greatest number of bytes to be read at once; zero is no choice. -/
  bufferSize : Option Int := none
  /-- The name that is sent to the node; the empty name is no choice. -/
  clientName : Option String := none

/-- The choices, completed by the settings. -/
def ofChoices (settings : Settings) (choices : Choices) : Streamer where
  sessionTimeout := choices.sessionTimeout.getD settings.readTimeout
  maxRetries := choices.maxRetries.getD settings.maxRetries
  bufferSize := (choices.bufferSize.filter (· != 0)).getD settings.bufferSize
  clientName := (choices.clientName.filter (· != "")).getD settings.clientName
  memory := settings.memory

/-- A request to read a range. -/
structure Task where
  endpoint : Endpoint
  block : Block
  credential : Credential
  range : ReadRange

/-- The opening of the session for `amount` bytes of a range. -/
def opening (streamer : Streamer) (task : Task) (amount : Nat) : Opening where
  endpoint := task.endpoint
  block := task.block
  credential := task.credential
  offset := task.range.offset
  amount := amount
  timeout := streamer.sessionTimeout
  bufferSize := streamer.bufferSize
  clientName := streamer.clientName

/-- The loop for `amount` bytes of a range. -/
def loop (streamer : Streamer) (task : Task) (amount : Nat) : Except Fault ReadLoop :=
  ReadLoop.make task.endpoint amount streamer.maxRetries streamer.memory

section Stream

variable {σ τ : Type}

/-- Runs the loop on an open session. -/
def collect (sessions : SessionKind σ τ) (loop : ReadLoop) : Act τ Bytes := do
  let session ← Act.get
  let loop ← loop.fill sessions.read (loop.readsAllowed (sessions.supply session))
  return loop.received

/-- Reads `amount` bytes of a range over one session. The buffer is set aside before the session is
opened. -/
def fetch (sessions : SessionKind σ τ) (streamer : Streamer) (task : Task) (amount : Nat) :
    Act σ Bytes := do
  let loop ← Act.ofExcept (streamer.loop task amount)
  let session ← sessions.start (streamer.opening task amount)
  Act.inside session ((collect sessions loop).andFinally sessions.close)

def stream (sessions : SessionKind σ τ) (streamer : Streamer) (task : Task) : Act σ Bytes := do
  let amount ← Act.ofExcept (task.range.effectiveLength task.block)
  if amount = 0 then return []
  else fetch sessions streamer task amount

def streamLines (sessions : SessionKind σ τ) (streamer : Streamer) (task : Task) :
    Act σ (List Line) := do
  let data ← stream sessions streamer task
  return splitLines data task.range.offset

end Stream

/-- The streamer with what a single call chooses. -/
def forCall (streamer : Streamer) (sessionTimeout : Option Binary64) (maxRetries : Option Int) :
    Streamer :=
  { streamer with
    sessionTimeout := sessionTimeout.getD streamer.sessionTimeout
    maxRetries := maxRetries.getD streamer.maxRetries }

end Streamer
end ReplicaRead
