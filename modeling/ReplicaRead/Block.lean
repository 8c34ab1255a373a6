import ReplicaRead.Fault
import ReplicaRead.Text.Numeral
import ReplicaRead.Text.Utf8

/-!
# Blocks, ranges and credentials

Results: the types with their constructors, the clipping of a range to its block, and the length
of the piece of a block that a viewer asks for.
-/

namespace ReplicaRead

/-- A block of a file, as the nodes know it. -/
structure Block where
  id : Int
  stamp : Int
  length : Nat
deriving DecidableEq, Repr

def Block.make (id stamp length : Int) : Except Fault Block :=
  if length < 0 then .error (.negativeBlockLength length) else .ok ⟨id, stamp, length.toNat⟩

/-- The credential for reading a block. It is opaque, and no text shows it. -/
structure Credential where
  token : Bytes := []
deriving DecidableEq

/-- The text of a credential, which is the same for all tokens. -/
def Credential.shown (_ : Credential) : String :=
  "AccessCredential()"

/-- A range of bytes of a block. -/
structure ReadRange where
  offset : Nat
  length : Nat
deriving DecidableEq, Repr

namespace ReadRange

def make (offset length : Int) : Except Fault ReadRange :=
  if offset < 0 then .error .negativeOffset
  else if length < 0 then .error .negativeLength
  else .ok ⟨offset.toNat, length.toNat⟩

/-- The number of bytes of a range within the block: the range is clipped at the end of the block,
but must not start past it. -/
def effectiveLength (r : ReadRange) (block : Block) : Except Fault Nat :=
  if block.length < r.offset then .error (.offsetPastEnd r.offset block.id block.length)
  else .ok (min r.length (block.length - r.offset))

end ReadRange

/-- A wish for the length of a piece of a block. -/
inductive ChunkWish where
  | absent
  | number (n : Int)
  | text (s : String)
deriving DecidableEq, Repr

/-- The length of a piece: the wish if it is positive, else the default. -/
def ChunkWish.size (default : Int) : ChunkWish → Except Fault Int
  | absent => .ok default
  | number n => .ok (if 0 < n then n else default)
  | text s =>
    match Text.integer? s.toList with
    | some n => .ok (if 0 < n then n else default)
    | none => .error (.malformedInteger s)

end ReplicaRead
