/-!
# Endpoints

An endpoint is the address at which a node hands out block data: a host and a port.

Results: the type, and its text `HOST:PORT`, in which an IPv6 host gets no brackets.
-/

namespace ReplicaRead

/-- The data-transfer address of a node. -/
structure Endpoint where
  host : String
  port : Nat
  one_le_port : 1 ≤ port := by decide
  port_le : port ≤ 65535 := by decide
deriving DecidableEq, Repr

namespace Endpoint

def text (e : Endpoint) : String :=
  e.host ++ ":" ++ toString e.port

instance : ToString Endpoint where
  toString := text

end Endpoint
end ReplicaRead
