import ReplicaRead.Network

/-!
# Probes

A probe finds out whether a node can be reached: it connects and hangs up.

Algorithm: a host name that cannot be encoded counts as a failure of the system, since it can never
have an address. In asynchronous mode a failure of the system on hanging up is logged only, since
the connect itself succeeded.

Results: `probe`, which ends without a value if the node can be reached.
-/

namespace ReplicaRead

/-- Reports a host name that cannot be encoded as a failure of the system. -/
def wrapInvalidHost (host : String) (f : Fault) : Fault :=
  if f.kind = .invalidText then .invalidHost host f else f

/-- Hangs up on a connection made by a probe. -/
def hangUp (mode : Mode) (endpoint : Endpoint) (link : Link) : Act Network Unit := do
  Act.note (.close link.id)
  match mode, link.closeFault with
  | .async, some f =>
    if f.isSystem then
      Act.log .debug .selection (s!"Error while closing probe to {endpoint}: " ++ f.message)
    else Act.raise f
  | _, _ => return

/-- Connects to an endpoint and hangs up. -/
def probe (mode : Mode) (endpoint : Endpoint) (timeout : Binary64) : Act Network Unit := do
  let link ← (Network.connect mode endpoint timeout).recover (fun _ => true) fun f =>
    Act.raise (wrapInvalidHost endpoint.host f)
  hangUp mode endpoint link

end ReplicaRead
