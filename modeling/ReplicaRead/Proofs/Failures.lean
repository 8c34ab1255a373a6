import ReplicaRead.Proofs.Selection.Reaching
import ReplicaRead.Proofs.Session.Handshake

/-!
# The faults that a call can end with

A caller expects two sorts of faults: failures of the system, and values that are not allowed. On a
network that fails only by the system a call ends with a value or with a fault of these sorts, but
for two gaps: a range may be too long for memory, and a request may not fit its frame, which is found
out once there is a connection for it.

Results: `Outcome.IsExpected`; `Streamer.Feasible`, which rules out the two gaps; and
`readBlock_isExpected_iff`.
-/

namespace ReplicaRead

open Act Arrivals

/-- A failure of the system, or a value that is not allowed. -/
def Fault.IsExpected (f : Fault) : Prop :=
  f.isSystem = true ∨ f.kind.isInvalidValue = true

instance (f : Fault) : Decidable f.IsExpected :=
  inferInstanceAs (Decidable (_ ∨ _))

/-- A value, or a fault that is expected. -/
def Outcome.IsExpected {α : Type} : Outcome α → Prop
  | ok _ => True
  | fault f => f.IsExpected
  | unfinished => False

theorem Outcome.isExpected_map {α β : Type} (f : α → β) (o : Outcome α) :
    (o.map f).IsExpected ↔ o.IsExpected := by
  cases o <;> rfl

/-- All faults of a script are failures of the system. -/
structure Script.OnlySystem (script : Script) : Prop extends script.FailsBySystem where
  connect : ∀ f, script.connectFault = some f → f.isSystem = true

/-! ### Reading a range -/

/-- A handshake whose request fits is granted, or it fails by the system. -/
theorem Reader.handshake_fails (mode : Mode) {request : Request} {reader : Reader}
    {script : Script} {id : Nat} (hfits : request.Fits)
    (hlink : reader.link = some (script.link id)) (hscript : script.FailsBySystem) :
    (∃ notes rest, handshake mode request reader =
        ⟨.ok (), notes, reader.holding (script.link id) rest⟩ ∧
      ∀ f, .error f ∈ rest → .error f ∈ script.arrivals) ∨
    ∃ f notes reader', handshake mode request reader = ⟨.fault f, notes, reader'⟩ ∧
      f.isSystem = true := by
  have hanswered := handshake_answered mode hfits hlink hscript
  generalize handshake mode request reader = r at hanswered ⊢
  cases hanswered with
  | granted hreply =>
      exact Or.inl ⟨_, _, rfl, fun f hf => mem_of_unread hf⟩
  | refused hreply hstatus | failed hreply =>
      exact Or.inr ⟨_, _, _, rfl, rfl⟩

namespace Streamer

/-- A range for which a buffer can be set aside, and a request sent if there is a connection. -/
structure Carries (mode : Mode) (streamer : Streamer) (task : Task) (net : Network) (amount : Nat) :
    Prop where
  memory : amount ≤ streamer.memory.size
  request : Network.begins mode streamer.sessionTimeout = true →
    ∀ link, net.answer task.endpoint = .ok link → (streamer.opening task amount).request.Fits

/-- A read that can be carried out: there is nothing to be read, or the range fits. -/
def Feasible (mode : Mode) (streamer : Streamer) (task : Task) (net : Network) : Prop :=
  ∀ amount, task.range.effectiveLength task.block = .ok amount → 1 ≤ amount →
    Carries mode streamer task net amount

section Fetch

variable {mode : Mode} {streamer : Streamer} {task : Task} {net : Network} {amount : Nat}

/-- The two faults for a buffer that cannot be set aside are not expected. -/
theorem loop_of_exceeding (streamer : Streamer) (task : Task)
    (h : streamer.memory.size < amount) :
    ∃ f, streamer.loop task amount = .error f ∧ ¬ f.IsExpected := by
  by_cases hword : Word.InRange 8 amount
  · exact ⟨.outOfMemory, loop_of_large h hword, by decide⟩
  · refine ⟨.countOverflow, ?_, by decide⟩
    unfold loop ReadLoop.make
    rw [if_pos hword]

/-- A fault of connecting is reported as a failure of the system, if it is one. -/
theorem isSystem_of_unanswered {f : Fault} (hscripts : net.AllScripts Script.OnlySystem)
    {e : Endpoint} (hanswer : net.answer e = .error f) : f.isSystem = true := by
  rcases Network.fault_of_answer hanswer with rfl | ⟨script, hmem, hfault⟩
  · rfl
  · exact (hscripts e script hmem).connect f hfault

/-- Collecting from a connection that fails only by the system ends as expected. -/
theorem collect_expected (mode : Mode) {reader : Reader} {link : Link} {endpoint : Endpoint}
    {retries : Int} (amount : Nat) (hlink : reader.link = some link)
    (hbuffer : 1 ≤ reader.bufferSize) (hretries : 0 ≤ retries)
    (hfaults : ∀ f, .error f ∈ link.arrivals → f.isSystem = true)
    (hclose : ∀ f, link.closeFault = some f → f.isSystem = true) :
    ∃ o notes reader', (collect (nodeSessions mode) ⟨endpoint, amount, [], retries⟩).andFinally
      (nodeSessions mode).close reader = ⟨o, notes, reader'⟩ ∧ o.IsExpected := by
  have hexact := collect_exact mode reader endpoint amount hlink hbuffer hfaults hretries
  refine ⟨_, _, _, collect_close _ hlink hclose hexact.ne_unfinished, ?_⟩
  generalize (collect (nodeSessions mode) _ reader).outcome = o at hexact ⊢
  cases hexact with
  | complete hfront hbytes hfailures =>
      trivial
  | unread hmany hfront hfailures hunread hpos hkind hmessage hcause =>
      refine Or.inl ?_
      rw [Fault.isSystem, hkind]
      rfl

/-- A fetch ends as expected exactly if it has a buffer, and a request if it has a connection. -/
theorem fetch_isExpected_iff (hbuffer : 1 ≤ streamer.bufferSize) (hretries : 0 ≤ streamer.maxRetries)
    (hscripts : net.AllScripts Script.OnlySystem) :
    (fetch (nodeSessions mode) streamer task amount net).outcome.IsExpected ↔
      Carries mode streamer task net amount := by
  rcases Nat.lt_or_ge streamer.memory.size amount with hlarge | hmemory
  · obtain ⟨f, hloop, hf⟩ := loop_of_exceeding streamer task hlarge
    unfold fetch
    rw [hloop, ofExcept_error_bind]
    exact iff_of_false hf fun h => Nat.not_lt.2 h.memory hlarge
  let opening := streamer.opening task amount
  have hloop : streamer.loop task amount = _ := loop_of_fits hmemory
  cases hbegins : Network.begins mode streamer.sessionTimeout with
  | false =>
      rw [fetch_of_untimely hloop hbegins]
      refine iff_of_true (Or.inl rfl) ⟨hmemory, ?_⟩
      intro h
      rw [hbegins] at h
      cases h
  | true =>
      cases hanswer : net.answer task.endpoint with
      | error f =>
          have hsystem := isSystem_of_unanswered hscripts hanswer
          rw [fetch_of_unanswered hloop hbegins hanswer]
          have hreport : (Reader.connectReport mode task.endpoint f).isSystem = true := by
            simp [Reader.connectReport, Reader.failsConnect, hsystem]
            rfl
          refine iff_of_true (Or.inl hreport) ⟨hmemory, ?_⟩
          intro _ link h
          rw [hanswer] at h
          cases h
      | ok link =>
          have hstart : Reader.start mode opening.request (net, opening.reader) = _ :=
            Reader.start_of_answered _ hbegins hanswer
          obtain ⟨script, hmem, -, -, rfl⟩ := Network.exists_script_of_answer hanswer
          have hscript := (hscripts _ script hmem).toFailsBySystem
          let reader : Reader := { opening.reader with link := some (script.link net.attempts) }
          by_cases hfits : opening.request.Fits
          · rcases Reader.handshake_fails mode hfits (rfl : reader.link = _) hscript with
              ⟨notes, rest, hhandshake, hrest⟩ | ⟨f, notes, reader', hhandshake, hf⟩
            · rw [hhandshake] at hstart
              obtain ⟨o, notes', reader', hcollect, ho⟩ := collect_expected mode amount
                (Reader.holding_link reader (script.link net.attempts) rest) hbuffer hretries
                (fun f hf => hscript.receive f (hrest f hf)) hscript.close
              rw [fetch_of_opened hloop hstart hcollect]
              exact iff_of_true ho ⟨hmemory, fun _ _ _ => hfits⟩
            · rw [hhandshake] at hstart
              rw [fetch_of_unopened hloop hstart]
              exact iff_of_true (Or.inl hf) ⟨hmemory, fun _ _ _ => hfits⟩
          · rw [Reader.handshake_of_unfit mode hfits] at hstart
            rw [fetch_of_unopened hloop hstart]
            exact iff_of_false (by decide : ¬ Fault.unencodable.IsExpected) fun h =>
              hfits (h.request hbegins _ hanswer)

theorem feasible_iff (hlength : task.range.effectiveLength task.block = .ok amount)
    (hpos : 1 ≤ amount) : Feasible mode streamer task net ↔ Carries mode streamer task net amount := by
  constructor
  · intro h
    exact h amount hlength hpos
  · intro h amount' hlength' _
    rw [hlength] at hlength'
    cases hlength'
    exact h

/-- A read ends as expected exactly if it is feasible. -/
theorem stream_isExpected_iff (hbuffer : 1 ≤ streamer.bufferSize)
    (hretries : 0 ≤ streamer.maxRetries) (hscripts : net.AllScripts Script.OnlySystem) :
    (stream (nodeSessions mode) streamer task net).outcome.IsExpected ↔
      Feasible mode streamer task net := by
  cases hlength : task.range.effectiveLength task.block with
  | error f =>
      have hpast : f.IsExpected := by
        unfold ReadRange.effectiveLength at hlength
        split at hlength
        · cases hlength
          exact Or.inr rfl
        · cases hlength
      rw [stream_of_past _ hlength]
      refine iff_of_true hpast ?_
      intro amount hamount
      rw [hlength] at hamount
      cases hamount
  | ok amount =>
      rcases Nat.eq_zero_or_pos amount with rfl | hpos
      · rw [stream_of_empty _ hlength]
        refine iff_of_true trivial ?_
        intro amount hamount hpos
        rw [hlength] at hamount
        cases hamount
        cases hpos
      · rw [stream_of_length _ hlength hpos, fetch_isExpected_iff hbuffer hretries hscripts,
          feasible_iff hlength hpos]

end Fetch

end Streamer

/-! ### The call -/

/-- What a network that fails only by the system brings is a failure of the system. -/
theorem Selection.Brings.isSystem {net : Network} {f : Fault} (h : Brings net f)
    (hscripts : net.AllScripts Script.OnlySystem) : f.isSystem = true := by
  obtain ⟨e, script, hmem, hconnect | hclose⟩ := h
  · exact (hscripts e script hmem).connect f hconnect
  · exact (hscripts e script hmem).close f hclose

/-- A call can be carried out: it reaches nobody, or the read from the one it reaches is feasible. -/
def Viewer.Feasible (mode : Mode) (viewer : Viewer) (view : View) (net : Network) : Prop :=
  ∀ e notes net', Selection.select (networkProber mode) view.candidates viewer.probeTimeout net =
    ⟨.ok e, notes, net'⟩ →
    viewer.streamer.Feasible mode ⟨e, view.block, view.credential, view.range⟩ net'

/-- A call ends as expected exactly if it is feasible. -/
theorem readBlock_isExpected_iff {mode : Mode} {viewer : Viewer} {view : View} {net : Network}
    (hbuffer : 1 ≤ viewer.streamer.bufferSize) (hretries : 0 ≤ viewer.streamer.maxRetries)
    (hscripts : net.AllScripts Script.OnlySystem) :
    (readBlock mode viewer view net).outcome.IsExpected ↔ viewer.Feasible mode view net := by
  have hends := Selection.select_ends mode view.candidates viewer.probeTimeout net
  unfold readBlock Viewer.Feasible
  generalize hselect : Selection.select (networkProber mode) view.candidates viewer.probeTimeout net
    = r at hends ⊢
  cases hends with
  | @reached e notes net' he hnew hreached =>
      have hleft : net'.AllScripts Script.OnlySystem :=
        fun x script hscript => hscripts x script ((hreached.kept x).subset hscript)
      rw [bind_of_ok hselect, bind_pure_apply]
      refine (Outcome.isExpected_map _ _).trans
        ((Streamer.stream_isExpected_iff hbuffer hretries hleft).trans ⟨?_, ?_⟩)
      · intro h e' notes' net'' heq
        cases heq
        exact h
      · intro h
        exact h e notes net' rfl
  | @unreached f notes net' hf =>
      rw [bind_of_fault hselect]
      refine iff_of_true (Or.inl ?_) nofun
      rcases hf with rfl | rfl
      · rfl
      · rfl
  | @escaped f notes net' hf hbrings =>
      have hsystem := hbrings.isSystem hscripts
      rw [hf] at hsystem
      cases hsystem

end ReplicaRead
