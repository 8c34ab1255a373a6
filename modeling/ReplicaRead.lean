import ReplicaRead.Main
import ReplicaRead.Proofs.Agreement.Operations
import ReplicaRead.Proofs.Agreement.Retrieval
import ReplicaRead.Proofs.Buffering
import ReplicaRead.Proofs.Closing
import ReplicaRead.Proofs.Command.Reporting
import ReplicaRead.Proofs.Connections
import ReplicaRead.Proofs.Endpoint.Rendering
import ReplicaRead.Proofs.Framing.Frames
import ReplicaRead.Proofs.Paging
import ReplicaRead.Proofs.RangeTraffic
import ReplicaRead.Proofs.Reports
import ReplicaRead.Proofs.Retries
import ReplicaRead.Proofs.Secrecy
import ReplicaRead.Proofs.Selection.Exits
import ReplicaRead.Proofs.Selection.Uniformity
import ReplicaRead.Proofs.Session.Lifecycle
import ReplicaRead.Proofs.Session.Standing
import ReplicaRead.Proofs.Text.LineParts
