import ReplicaRead.Network

/-!
# Recordings

A recording holds what a network has brought so far: the connections in the order of the attempts,
and the draws.

An action depends on a network only through what the network brings. An action that is run again on
a recording therefore repeats what it did, and the first of its notes that the recording has not
seen is what happens next.

Results: `Recording.network`, the network that repeats a recording, and the additions to it.
-/

namespace ReplicaRead

/-- What a network has brought so far. -/
structure Recording where
  /-- The attempts to connect, in order, with what they brought. -/
  connections : List (Endpoint × Script) := []
  draws : List Int := []

namespace Recording

/-- The network that brings what was recorded, and then nothing. -/
def network (r : Recording) : Network where
  scripts endpoint := (r.connections.filter fun c => decide (c.1 = endpoint)).map (·.2)
  draws := r.draws

/-- Adds an attempt to connect. -/
def addConnection (r : Recording) (endpoint : Endpoint) (fault : Option Fault) : Recording :=
  { r with connections := r.connections ++ [(endpoint, { connectFault := fault })] }

/-- Changes what the connection of a number brought. -/
def modifyScript (r : Recording) (link : Nat) (f : Script → Script) : Recording :=
  { r with connections := r.connections.modify link fun c => (c.1, f c.2) }

/-- Adds what a read on a connection brought. -/
def addArrival (r : Recording) (link : Nat) (arrival : Arrival) : Recording :=
  r.modifyScript link fun script => { script with arrivals := script.arrivals ++ [arrival] }

/-- Adds the fault of sending on a connection. -/
def addSendFault (r : Recording) (link : Nat) (fault : Fault) : Recording :=
  r.modifyScript link fun script => { script with sendFault := some fault }

/-- Adds a draw. -/
def addDraw (r : Recording) (d : Int) : Recording :=
  { r with draws := r.draws ++ [d] }

end Recording
end ReplicaRead
