import ReplicaRead.Probe
import ReplicaRead.Report
import ReplicaRead.Selection
import ReplicaRead.Stream

/-!
# Viewing a range of a block

Input: the candidates that may hold a replica of the block, and the range.

Algorithm: choose a candidate that a probe reaches, then stream the range from it. A failure after
the choice is final: no other candidate is tried.

Results: `readBlock`.
-/

namespace ReplicaRead

/-- Draws and probes on the network. -/
def networkProber (mode : Mode) : Prober Network where
  draw := Network.draw
  probe := probe mode

/-- How a block is viewed. -/
structure Viewer where
  probeTimeout : Binary64
  streamer : Streamer
deriving DecidableEq, Repr

namespace Viewer

/-- The choices of a caller, completed by the settings. -/
def ofChoices (settings : Settings) (probeTimeout : Option Binary64) (choices : Streamer.Choices) :
    Viewer where
  probeTimeout := probeTimeout.getD settings.readTimeout
  streamer := .ofChoices settings choices

end Viewer

/-- What is to be viewed. -/
structure View where
  candidates : List Endpoint
  block : Block
  credential : Credential
  range : ReadRange
  withLines : Bool := false

/-- Reads a range of a block from a replica that can be reached. -/
def readBlock (mode : Mode) (viewer : Viewer) (view : View) : Act Network ViewResult := do
  let endpoint ← Selection.select (networkProber mode) view.candidates viewer.probeTimeout
  let data ← viewer.streamer.stream (nodeSessions mode)
    ⟨endpoint, view.block, view.credential, view.range⟩
  return .ofData endpoint view.range.offset data view.withLines

end ReplicaRead
