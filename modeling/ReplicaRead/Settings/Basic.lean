import ReplicaRead.Decimal.Binary64

/-!
# Settings

The settings hold what a caller need not give: how long to wait, how often to retry, how much to
read at once, the name of the client, and the length of a piece to view. With them goes the memory
of the machine, which nobody sets.
-/

namespace ReplicaRead

/-- The memory that buffers are set aside in. -/
structure Memory where
  /-- The greatest number of bytes that fit in it at once. -/
  size : Nat
  /-- What fits can be counted in a word. -/
  size_lt : size < 0x8000000000000000
deriving DecidableEq, Repr

/-- A memory of 64 GiB. -/
def Memory.usual : Memory where
  size := 64 * 1024 * 1024 * 1024
  size_lt := by decide

/-- The settings. -/
structure Settings where
  readTimeout : Binary64 := Binary64.ofInt 60
  maxRetries : Int := 2
  bufferSize : Int := 4096
  clientName : String := "blockview"
  /-- The length of a piece to view, where none is asked for. -/
  defaultChunkSize : Int := 32 * 1024
  memory : Memory := .usual
deriving DecidableEq, Repr

end ReplicaRead
