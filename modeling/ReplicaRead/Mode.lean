/-!
# Modes

Every operation on the network comes in two modes, blocking and asynchronous. They differ in the
wording of some failures, in what they log, and in how they close a connection.
-/

namespace ReplicaRead

/-- How the network is used. -/
inductive Mode where
  /-- Calls block until they are done. -/
  | sync
  /-- Calls are awaited. -/
  | async
deriving DecidableEq, Repr

end ReplicaRead
