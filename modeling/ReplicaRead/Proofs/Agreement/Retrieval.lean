import ReplicaRead.Proofs.Agreement.Session
import ReplicaRead.Proofs.Keeping
import ReplicaRead.Proofs.Selection.Runs

/-!
# Agreement of whole calls in both modes

A block is viewed by choosing a replica and reading a range from it. Both parts agree in both
modes, if no awaited call is given no time.

Results: `Selection.select_agrees` and `readBlock_agrees`.
-/

namespace ReplicaRead

open Act

/-! ### The choice -/

theorem quiet_probeNotes (mode : Mode) (endpoint : Endpoint) (net : Network) :
    Quiet (probeNotes mode endpoint net) := by
  intro n hn
  rcases mem_probeNotes hn with ⟨id, rfl⟩ | ⟨m, rfl⟩
  · rfl
  · rfl

/-- Both modes close the connection that was made. -/
theorem wire_probeNotes (mode : Mode) (endpoint : Endpoint) (net : Network) :
    wire (probeNotes mode endpoint net) =
      match net.answer endpoint with
      | .error _ => []
      | .ok link => [.close link.id] := by
  unfold probeNotes
  cases net.answer endpoint with
  | error f =>
      rfl
  | ok link =>
      have hlog : (hangUpLog mode endpoint link).filterMap Note.wire? = [] := by
        refine List.filterMap_eq_nil_iff.2 ?_
        intro n hn
        obtain ⟨m, rfl⟩ := mem_hangUpLog hn
        rfl
      show Note.close link.id :: (hangUpLog mode endpoint link).filterMap Note.wire? = _
      rw [hlog]

/-- Both modes find the same fault, since failures of closing are swallowed. -/
theorem probeFault_agrees {net : Network} (hscripts : net.AllScripts Script.Plain)
    (endpoint : Endpoint) :
    probeFault .sync endpoint net = probeFault .async endpoint net := by
  unfold probeFault
  cases hanswer : net.answer endpoint with
  | error f =>
      rfl
  | ok link =>
      obtain ⟨script, hmem, -, -, rfl⟩ := Network.exists_script_of_answer hanswer
      have hclose : ∀ mode, (script.link net.attempts).closingFault mode = none :=
        Link.closingFault_eq_none (hscripts endpoint script hmem).close
      exact (hclose .sync).trans (hclose .async).symm

namespace Selection

section Keeps

variable {mode : Mode} {timeout : Binary64} (p : Script → Prop)

theorem draw_keeps (n : Nat) :
    ((networkProber mode).draw n).Keeps (Network.AllScripts p) fun n => n.isSession = false := by
  intro net hnet
  have hrun : (networkProber mode).draw n net = _ := Network.draw_apply n net
  rw [hrun]
  refine ⟨hnet, ?_⟩
  intro note hnote
  rw [List.mem_singleton] at hnote
  subst hnote
  rfl

theorem probe_keeps (hbegins : Network.begins mode timeout = true) (e : Endpoint) :
    ((networkProber mode).probe e timeout).Keeps (Network.AllScripts p)
      fun n => n.isSession = false := by
  intro net hnet
  have hrun : (networkProber mode).probe e timeout net = _ := probe_apply hbegins e net
  rw [hrun]
  refine ⟨hnet.afterAttempt e, ?_⟩
  intro note hnote
  rcases List.mem_cons.1 hnote with rfl | hnote
  · rfl
  · exact quiet_probeNotes mode e net note hnote

theorem attempt_keeps_network (hbegins : Network.begins mode timeout = true) (total : Nat)
    (found : Findings) (e : Endpoint) (others : List Endpoint) :
    (attempt (networkProber mode) total timeout found e others).Keeps (Network.AllScripts p)
      fun n => n.isSession = false :=
  attempt_keeps (draw_keeps p) (probe_keeps p hbegins) (fun _ _ => rfl) total found e others

/-- A choice on a network leaves no record of a session, and only uses up scripts. -/
theorem select_keeps_network (hbegins : Network.begins mode timeout = true)
    (candidates : List Endpoint) :
    (select (networkProber mode) candidates timeout).Keeps (Network.AllScripts p)
      fun n => n.isSession = false := by
  unfold select
  split
  · exact .raise _
  · exact search_keeps (draw_keeps p) (probe_keeps p hbegins) (fun _ _ => rfl) candidates _ _

end Keeps

section Agreement

variable {timeout : Binary64} (hbegins : Network.begins .async timeout = true)
include hbegins

theorem attempt_agrees {net : Network} (hscripts : net.AllScripts Script.Plain) (total : Nat)
    (found : Findings) (e : Endpoint) (others : List Endpoint) :
    (attempt (networkProber .sync) total timeout found e others net).Agrees
      (attempt (networkProber .async) total timeout found e others net) := by
  let chosen := (e :: others).get (Network.drawn net.draws others.length)
  let next : Network := { net with draws := net.draws.tail }
  have hdraw : ∀ mode, (networkProber mode).draw others.length net = _ :=
    fun _ => Network.draw_apply others.length net
  have hsync : (networkProber .sync).probe chosen timeout next = _ :=
    probe_apply rfl chosen next
  have hasync : (networkProber .async).probe chosen timeout next = _ :=
    probe_apply hbegins chosen next
  have hsame : probeFault .sync chosen next = probeFault .async chosen next :=
    probeFault_agrees hscripts chosen
  have hwire : ∀ last, wire ([.draw (others.length + 1)] ++ ((.connect next.attempts chosen
        (Network.shownTimeout .sync timeout) :: probeNotes .sync chosen next) ++ last)) =
      wire ([.draw (others.length + 1)] ++ ((.connect next.attempts chosen
        (Network.shownTimeout .async timeout) :: probeNotes .async chosen next) ++ last)) := by
    intro last
    have hprobe := (wire_probeNotes .sync chosen next).trans
      (wire_probeNotes .async chosen next).symm
    have hattempt := congrArg (.connect next.attempts chosen none :: · ++ wire last) hprobe
    rw [wire_append, wire_append, wire_append, wire_append]
    exact hattempt
  rw [hsame] at hsync
  have hquiet := (attempt_keeps_network _ (rfl : Network.begins .sync timeout = true) total found e
    others net hscripts).notes
  have hquiet' := (attempt_keeps_network _ hbegins total found e others net hscripts).notes
  cases hfault : probeFault .async chosen next with
  | none =>
      rw [hfault] at hsync hasync
      rw [attempt_of_reached (hdraw .sync) hsync] at hquiet ⊢
      rw [attempt_of_reached (hdraw .async) hasync] at hquiet' ⊢
      exact .of_quiet (.ok _) (hwire _) rfl hquiet hquiet'
  | some f =>
      rw [hfault] at hsync hasync
      by_cases hsystem : f.isSystem = true
      · rw [attempt_of_buried (hdraw .sync) hsync hsystem] at hquiet ⊢
        rw [attempt_of_buried (hdraw .async) hasync hsystem] at hquiet' ⊢
        exact .of_quiet (.ok _) (hwire _) rfl hquiet hquiet'
      · have hescapes := Bool.eq_false_iff.2 hsystem
        rw [attempt_of_escaped (hdraw .sync) hsync hescapes] at hquiet ⊢
        rw [attempt_of_escaped (hdraw .async) hasync hescapes] at hquiet' ⊢
        have hlast := hwire []
        rw [List.append_nil, List.append_nil] at hlast
        exact .of_quiet (.fault (.refl f)) hlast rfl hquiet hquiet'

/-- The choices of a replica in both modes agree. -/
theorem search_agrees {net : Network} (hscripts : net.AllScripts Script.Plain)
    (candidates : List Endpoint) (rounds : Nat) (found : Findings) :
    (search (networkProber .sync) candidates timeout rounds found net).Agrees
      (search (networkProber .async) candidates timeout rounds found net) := by
  induction rounds generalizing found net with
  | zero =>
      exact raise_agrees _ net
  | succ rounds ih =>
      rw [search, search]
      cases found.alive candidates with
      | nil =>
          exact raise_agrees _ net
      | cons e others =>
          have hkeeps : ∀ mode, Network.begins mode timeout = true →
              (attempt (networkProber mode) candidates.length timeout found e others).Keeps
                (Network.AllScripts Script.Plain) fun n => n.isSession = false :=
            fun mode hmode => attempt_keeps_network _ hmode _ _ _ _
          refine bind_agrees (attempt_agrees hbegins hscripts _ _ _ _)
            (hkeeps .sync rfl net hscripts).notes (hkeeps .async hbegins net hscripts).notes ?_
          intro result
          cases result with
          | inl found =>
              exact ih (hkeeps .sync rfl net hscripts).state found
          | inr chosen =>
              exact pure_agrees chosen _

theorem select_agrees {net : Network} (hscripts : net.AllScripts Script.Plain)
    (candidates : List Endpoint) :
    (select (networkProber .sync) candidates timeout net).Agrees
      (select (networkProber .async) candidates timeout net) := by
  unfold select
  by_cases hempty : candidates.isEmpty = true
  · rw [if_pos hempty, if_pos hempty]
    exact raise_agrees _ net
  · rw [if_neg hempty, if_neg hempty]
    exact search_agrees hbegins hscripts candidates _ _

end Agreement

end Selection

/-! ### The whole call -/

/-- The parameters and networks on which both modes can be compared. -/
structure Viewer.Comparable (viewer : Viewer) (net : Network) : Prop where
  buffer : 0 ≤ viewer.streamer.bufferSize
  retries : 0 ≤ viewer.streamer.maxRetries
  probing : Network.begins .async viewer.probeTimeout = true
  connecting : Network.begins .async viewer.streamer.sessionTimeout = true
  scripts : net.AllScripts Script.Plain

/-- Viewing a block in blocking and in asynchronous mode agrees. -/
theorem readBlock_agrees {viewer : Viewer} {net : Network} (h : viewer.Comparable net)
    (view : View) :
    (readBlock .sync viewer view net).Agrees (readBlock .async viewer view net) := by
  have hkeeps := Selection.select_keeps_network Script.Plain
    (rfl : Network.begins .sync viewer.probeTimeout = true) view.candidates net h.scripts
  have hkeeps' := Selection.select_keeps_network Script.Plain h.probing view.candidates net
    h.scripts
  refine bind_agrees (Selection.select_agrees h.probing h.scripts view.candidates) hkeeps.notes
    hkeeps'.notes ?_
  intro endpoint
  refine bind_pure_agrees ?_ _
  exact Streamer.stream_agrees _ h.buffer h.retries h.connecting hkeeps.state

/-- A node that can be probed, and then hesitates. -/
def patient : Network where
  scripts _ := [{}, { arrivals :=
    [.ok [0], .ok [0, 97], .error (.outside .timeout .silent none), .ok [98, 99]] }]

/-- A view of the whole of a block with three bytes. -/
def threeBytes : View where
  candidates := [.atFirstPort "a", .atFirstPort "b"]
  block := ⟨7, 1, 3⟩
  credential := {}
  range := ⟨0, 3⟩

theorem plain_patient : patient.AllScripts Script.Plain := by
  intro endpoint script hscript
  simp only [patient, List.mem_cons, List.not_mem_nil, or_false] at hscript
  rcases hscript with rfl | rfl
  · exact ⟨nofun, nofun, nofun⟩
  · refine ⟨?_, nofun, nofun⟩
    intro f hf
    simp only [List.mem_cons] at hf
    rcases hf with hf | hf | hf | hf | hf <;> cases hf
    exact nofun

/-- A viewer that gives its probes so much time, has one retry, and reads two bytes at a time. -/
def viewerWithin (probeTimeout : Binary64) : Viewer where
  probeTimeout := probeTimeout
  streamer := {
    sessionTimeout := .ofInt 60
    maxRetries := 1
    bufferSize := 2
    clientName := "viewer" }

/-- A timeout, which only asynchronous mode reports with the endpoint, takes the only retry. -/
theorem readBlock_agrees_patient :
    (readBlock .sync (viewerWithin (.ofInt 1)) threeBytes patient).Agrees
      (readBlock .async (viewerWithin (.ofInt 1)) threeBytes patient) :=
  readBlock_agrees ⟨by decide, by decide, by decide +kernel, by decide +kernel, plain_patient⟩
    threeBytes

/-- An awaited probe that is given no time fails, where a blocking one is made. -/
theorem not_agrees_of_zero :
    patient.AllScripts Script.Plain ∧
      ¬ (readBlock .sync (viewerWithin (.ofInt 0)) threeBytes patient).outcome.Agrees
        (readBlock .async (viewerWithin (.ofInt 0)) threeBytes patient).outcome := by
  refine ⟨plain_patient, ?_⟩
  have hsync : (readBlock .sync (viewerWithin (.ofInt 0)) threeBytes patient).outcome =
      .ok (.ofData (.atFirstPort "a") 0 [97, 98, 99] false) := by
    decide +kernel
  have hasync : (readBlock .async (viewerWithin (.ofInt 0)) threeBytes patient).outcome =
      .fault (.noReachableReplica 2) := by
    decide +kernel
  rw [hsync, hasync]
  intro h
  cases h

end ReplicaRead
