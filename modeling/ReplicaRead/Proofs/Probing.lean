import ReplicaRead.Proofs.Connecting
import ReplicaRead.Probe

/-!
# Probes on the network

A probe is one attempt to connect and the closing of the connection that was made.

Results: `probe_apply`, one equation for all probes, and `probeFault`, the fault that a probe ends
with.
-/

namespace ReplicaRead

open Act

/-- The fault with which a probe ends, if it does. -/
def probeFault (mode : Mode) (endpoint : Endpoint) (net : Network) : Option Fault :=
  match net.answer endpoint with
  | .error f => some (wrapInvalidHost endpoint.host f)
  | .ok link => link.closingFault mode

/-- What hanging up logs. -/
def hangUpLog (mode : Mode) (endpoint : Endpoint) (link : Link) : List Note :=
  link.swallowed mode fun f =>
    ⟨.debug, .selection, s!"Error while closing probe to {endpoint}: " ++ f.message⟩

/-- What a probe notes after its attempt to connect. -/
def probeNotes (mode : Mode) (endpoint : Endpoint) (net : Network) : List Note :=
  match net.answer endpoint with
  | .error _ => []
  | .ok link => .close link.id :: hangUpLog mode endpoint link

theorem mem_hangUpLog {mode : Mode} {endpoint : Endpoint} {link : Link} {n : Note}
    (hn : n ∈ hangUpLog mode endpoint link) : ∃ m, n = .record ⟨.debug, .selection, m⟩ := by
  obtain ⟨f, rfl⟩ := Link.mem_swallowed hn
  exact ⟨_, rfl⟩

/-- After the attempt a probe closes its connection and may log that. -/
theorem mem_probeNotes {mode : Mode} {endpoint : Endpoint} {net : Network} {n : Note}
    (hn : n ∈ probeNotes mode endpoint net) :
    (∃ id, n = .close id) ∨ ∃ m, n = .record ⟨.debug, .selection, m⟩ := by
  unfold probeNotes at hn
  cases hanswer : net.answer endpoint with
  | error f =>
      rw [hanswer] at hn
      cases hn
  | ok link =>
      rw [hanswer] at hn
      rcases List.mem_cons.1 hn with rfl | hn
      · exact Or.inl ⟨_, rfl⟩
      · exact Or.inr (mem_hangUpLog hn)

theorem hangUp_apply (mode : Mode) (endpoint : Endpoint) (link : Link) (net : Network) :
    hangUp mode endpoint link net =
      ⟨.ofFault (link.closingFault mode), .close link.id :: hangUpLog mode endpoint link, net⟩ := by
  cases mode with
  | sync =>
      rfl
  | async =>
      cases hf : link.closeFault with
      | none =>
          simp [hangUp, hf, Link.closingFault, hangUpLog, Link.swallowed, Outcome.ofFault]
      | some f =>
          by_cases hs : f.isSystem
          · simp [hangUp, hf, hs, Link.closingFault, hangUpLog, Link.swallowed, Outcome.ofFault,
              Option.filter]
          · simp [hangUp, hf, hs, Link.closingFault, hangUpLog, Link.swallowed, Outcome.ofFault,
              Option.filter]

/-- A probe that is begun makes one attempt to connect. -/
theorem probe_apply {mode : Mode} {timeout : Binary64}
    (hbegins : Network.begins mode timeout = true) (endpoint : Endpoint) (net : Network) :
    probe mode endpoint timeout net =
      ⟨.ofFault (probeFault mode endpoint net),
        .connect net.attempts endpoint (Network.shownTimeout mode timeout) ::
          probeNotes mode endpoint net,
        net.afterAttempt endpoint⟩ := by
  have hconnect : Network.connect mode endpoint timeout net = _ :=
    (congrFun (if_pos hbegins) net).trans (Network.attempt_apply mode endpoint timeout net)
  unfold probe probeFault probeNotes
  cases hanswer : net.answer endpoint with
  | error f =>
      rw [hanswer] at hconnect
      refine bind_of_fault ?_
      rw [recover_of_handled hconnect rfl]
      rfl
  | ok link =>
      rw [hanswer] at hconnect
      refine (bind_of_ok (recover_of_ok hconnect)).trans ?_
      rw [hangUp_apply]
      rfl

theorem probe_of_unanswered {mode : Mode} {timeout : Binary64} {endpoint : Endpoint} {net : Network}
    {f : Fault} (hbegins : Network.begins mode timeout = true)
    (hanswer : net.answer endpoint = .error f) :
    probe mode endpoint timeout net =
      ⟨.fault (wrapInvalidHost endpoint.host f),
        [.connect net.attempts endpoint (Network.shownTimeout mode timeout)],
        net.afterAttempt endpoint⟩ := by
  rw [probe_apply hbegins, probeFault, probeNotes, hanswer]
  rfl

theorem probe_of_answered {mode : Mode} {timeout : Binary64} {endpoint : Endpoint} {net : Network}
    {link : Link} (hbegins : Network.begins mode timeout = true)
    (hanswer : net.answer endpoint = .ok link) :
    probe mode endpoint timeout net =
      ⟨.ofFault (link.closingFault mode),
        .connect net.attempts endpoint (Network.shownTimeout mode timeout) ::
          .close link.id :: hangUpLog mode endpoint link,
        net.afterAttempt endpoint⟩ := by
  rw [probe_apply hbegins, probeFault, probeNotes, hanswer]

/-- A probe that is given no time is not begun. -/
theorem probe_of_untimely {mode : Mode} {timeout : Binary64}
    (hbegins : Network.begins mode timeout = false) (endpoint : Endpoint) (net : Network) :
    probe mode endpoint timeout net = ⟨.fault .noTime, [], net⟩ := by
  have hconnect : Network.connect mode endpoint timeout net = ⟨.fault .noTime, [], net⟩ := by
    simp [Network.connect, hbegins]
  unfold probe
  refine bind_of_fault ?_
  rw [recover_of_handled hconnect rfl]
  rfl

/-- The fault of a probe depends only on the scripts of its endpoint. -/
theorem probeFault_congr {net net' : Network} {endpoint : Endpoint}
    (h : net'.scripts endpoint = net.scripts endpoint) (mode : Mode) :
    probeFault mode endpoint net' = probeFault mode endpoint net := by
  unfold probeFault Network.answer
  rw [h]
  cases net.scripts endpoint with
  | nil =>
      rfl
  | cons script rest =>
      cases hf : script.connectFault with
      | none =>
          simp [hf, Script.link, Link.closingFault]
      | some f =>
          simp [hf]

end ReplicaRead
