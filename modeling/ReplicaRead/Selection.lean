import ReplicaRead.Act

/-!
# The choice of a replica

A replica is chosen by probing candidates that are drawn at random.

Input: the candidates, in which an endpoint may occur more than once, and a timeout for each probe.

Algorithm: draw one of the candidates not yet found dead and probe it. The first that is reached is
chosen. A failure of the system marks the endpoint dead, so that it is not drawn again; any other
fault ends the choice. The choice fails when the number of failed probes reaches the number of
candidates, or when only dead candidates are left.

Results: `Selection.select`, for any source of draws and any way of probing.
-/

namespace ReplicaRead

/-- How candidates are drawn and probed. -/
structure Prober (σ : Type) where
  draw : (n : Nat) → Act σ (Fin (n + 1))
  probe : Endpoint → Binary64 → Act σ Unit

namespace Selection

/-- What has been found out during a choice. -/
structure Findings where
  /-- The endpoints found dead, the latest first. -/
  dead : List Endpoint := []
  failures : Nat := 0
deriving DecidableEq

/-- The candidates not found dead, in order. -/
def Findings.alive (found : Findings) (candidates : List Endpoint) : List Endpoint :=
  candidates.filter fun e => !found.dead.contains e

/-- The findings after a failed probe. -/
def Findings.bury (found : Findings) (e : Endpoint) : Findings where
  dead := e :: found.dead
  failures := found.failures + 1

/-- What is logged when an endpoint is found dead. -/
def deadMessage (e : Endpoint) (failures total : Nat) (f : Fault) : String :=
  s!"Replica {e} unreachable ({failures}/{total} dead): " ++ f.shown

/-- What is logged when an endpoint is chosen. -/
def chosenMessage (e : Endpoint) (failures : Nat) : String :=
  s!"Selected replica {e} after {failures} failed probe(s)"

section Search

variable {σ : Type}

/-- Draws and probes one of the given candidates, of which there is at least one. The value is the
endpoint if it was reached, and the findings otherwise. -/
def attempt (prober : Prober σ) (total : Nat) (timeout : Binary64) (found : Findings)
    (e : Endpoint) (others : List Endpoint) : Act σ (Findings ⊕ Endpoint) := do
  let i ← prober.draw others.length
  let chosen := (e :: others).get i
  let reached : Act σ (Findings ⊕ Endpoint) := do
    prober.probe chosen timeout
    return .inr chosen
  let outcome ← reached.recover Fault.isSystem fun f => do
    let found := found.bury chosen
    Act.log .warning .selection (deadMessage chosen found.failures total f)
    return .inl found
  match outcome with
  | .inr chosen =>
    Act.log .debug .selection (chosenMessage chosen found.failures)
    return .inr chosen
  | .inl found => return .inl found

/-- Probes candidates until one is reached, with at most `rounds` probes. -/
def search (prober : Prober σ) (candidates : List Endpoint) (timeout : Binary64) :
    (rounds : Nat) → Findings → Act σ Endpoint
  | 0, _ => Act.raise (.noReachableReplica candidates.length)
  | rounds + 1, found =>
    match found.alive candidates with
    | [] => Act.raise (.noReachableReplica candidates.length)
    | e :: others => do
      match ← attempt prober candidates.length timeout found e others with
      | .inr chosen => return chosen
      | .inl found => search prober candidates timeout rounds found

/-- Chooses a candidate that was reached by a probe. -/
def select (prober : Prober σ) (candidates : List Endpoint) (timeout : Binary64) :
    Act σ Endpoint :=
  if candidates.isEmpty then Act.raise .noCandidates
  else search prober candidates timeout candidates.length {}

end Search

end Selection
end ReplicaRead
