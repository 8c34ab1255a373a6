import ReplicaRead.Session.Reader

/-!
# Runs of operations on a reader

Algorithm: operations are performed one after another on one reader and one network. One that ends
with a fault does not keep the next from being performed, on what is left.

Results: `Operation.perform` and `Operation.performAll`.
-/

namespace ReplicaRead
namespace Reader

/-- An operation on a reader. -/
inductive Operation where
  | start (blockId stamp blockLength : Int) (credential : Credential) (offset length : Int)
      (clientName : String)
  | read (length : Int)
  | close
  | readAll (lengths : List Int)
deriving DecidableEq

/-- What an operation hands over when it ends without a fault. -/
inductive Answer where
  | opened
  | data (bs : Bytes)
  | closed
  | pieces (bss : List Bytes)
deriving DecidableEq

namespace Operation

/-- Performs an operation. -/
def perform (mode : Mode) : Operation → Act (Network × Reader) Answer
  | start blockId stamp blockLength credential offset length clientName => do
    let block ← Act.ofExcept (Block.make blockId stamp blockLength)
    Reader.start mode (Reader.request block credential offset length clientName)
    return .opened
  | read length => return .data (← Act.onSnd (Reader.read mode length))
  | close => do
    Act.onSnd (Reader.close mode)
    return .closed
  | readAll lengths => return .pieces (← Act.onSnd (Reader.readAll mode lengths))

/-- The runs of operations, each on what the one before it left. -/
def performAll (mode : Mode) :
    List Operation → Network × Reader → List (Run (Network × Reader) Answer)
  | [], _ => []
  | op :: ops, s =>
    let r := op.perform mode s
    r :: performAll mode ops r.state

end Operation
end Reader
end ReplicaRead
