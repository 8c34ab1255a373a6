import ReplicaRead.Proofs.Session.Opening
import ReplicaRead.Proofs.Session.Reading

/-!
# The parts of a read

A range is read in parts: the loop is made, the session is opened, the bytes are collected, and the
session is closed. The read ends where the first of these fails, but an open session is closed in
any case.

Results: `fetch_of_unopened` and `fetch_of_opened`, from the opening of the session, with the cases
`fetch_of_untimely` and `fetch_of_unanswered`, in which no connection is made;
`collect_close`, the ending; and `stream_of_large`, for ranges that do not fit in memory.
-/

namespace ReplicaRead

/-- A range that starts within its block is clipped at the end of the block. -/
theorem ReadRange.effectiveLength_eq_ok_iff {range : ReadRange} {block : Block} {amount : Nat} :
    range.effectiveLength block = .ok amount ↔
      range.offset ≤ block.length ∧ amount = min range.length (block.length - range.offset) := by
  unfold effectiveLength
  by_cases hpast : block.length < range.offset
  · rw [if_pos hpast]
    exact iff_of_false nofun fun h => Nat.not_lt.2 h.1 hpast
  · rw [if_neg hpast, Except.ok.injEq]
    exact ⟨fun h => ⟨Nat.not_lt.1 hpast, h.symm⟩, fun h => h.2.symm⟩

namespace Streamer

open Act

/-! ### The session -/

section Session

variable {mode : Mode} {reader : Reader} {link : Link}

/-- Collecting leaves the connection held, and only reads from it. -/
theorem collect_keeps (mode : Mode) (link : Link) (loop : ReadLoop) :
    (collect (nodeSessions mode) loop).Keeps (ReadLoop.Holds link)
      (ReadLoop.IsReading link.id) := by
  intro reader hreader
  show ((loop.fill _ _ >>= fun loop => Pure.pure loop.received) reader).Keeps _ _
  rw [bind_pure_apply]
  have hfill := ReadLoop.fill_keeps (ReadLoop.read_keeps mode link) (fun _ => rfl)
    (loop.readsAllowed ((nodeSessions mode).supply reader)) loop reader hreader
  exact ⟨hfill.state, hfill.notes⟩

/-- A connection whose closing cannot fail is closed after collecting, and the outcome stays. -/
theorem collect_close (loop : ReadLoop) (h : reader.link = some link)
    (hclose : ∀ f, link.closeFault = some f → f.isSystem = true)
    (hends : (collect (nodeSessions mode) loop reader).outcome ≠ .unfinished) :
    (collect (nodeSessions mode) loop).andFinally (nodeSessions mode).close reader =
      ⟨(collect (nodeSessions mode) loop reader).outcome,
        (collect (nodeSessions mode) loop reader).notes ++
          .close link.id :: Reader.closingLog mode
            (collect (nodeSessions mode) loop reader).state.endpoint link,
        { (collect (nodeSessions mode) loop reader).state with link := none }⟩ := by
  obtain ⟨arrivals, hheld⟩ := (collect_keeps mode link loop reader ⟨_, h⟩).state
  have hclosed := Reader.close_of_held hheld mode
  have hquiet : Link.closingFault mode { link with arrivals } = none :=
    Link.closingFault_eq_none hclose mode
  rw [hquiet] at hclosed
  exact andFinally_of_ok rfl hends hclosed

end Session

/-! ### The loop and the opening -/

section Parts

variable {mode : Mode} {streamer : Streamer} {task : Task} {net : Network} {amount : Nat}

theorem stream_of_length {σ τ : Type} (sessions : SessionKind σ τ)
    (hlength : task.range.effectiveLength task.block = .ok amount) (hpos : 1 ≤ amount) :
    stream sessions streamer task = fetch sessions streamer task amount := by
  funext s
  unfold stream
  rw [hlength, ofExcept_ok_bind, if_neg (Nat.ne_of_gt hpos)]

/-- A range that is empty within its block is read without doing anything. -/
theorem stream_of_empty {σ τ : Type} (sessions : SessionKind σ τ)
    (hlength : task.range.effectiveLength task.block = .ok 0) (s : σ) :
    stream sessions streamer task s = ⟨.ok [], [], s⟩ := by
  unfold stream
  rw [hlength, ofExcept_ok_bind, if_pos rfl]
  rfl

/-- A range that starts past its block fails before anything is done. -/
theorem stream_of_past {σ τ : Type} (sessions : SessionKind σ τ) {f : Fault}
    (hlength : task.range.effectiveLength task.block = .error f) (s : σ) :
    stream sessions streamer task s = ⟨.fault f, [], s⟩ := by
  unfold stream
  rw [hlength, ofExcept_error_bind]

/-- A read does nothing, or it fetches at least one byte, and it does so in both modes. -/
theorem stream_cases (streamer : Streamer) (task : Task) :
    (∃ o, o ≠ .unfinished ∧
      ∀ mode net, stream (nodeSessions mode) streamer task net = ⟨o, [], net⟩) ∨
    ∃ amount, task.range.effectiveLength task.block = .ok amount ∧ 1 ≤ amount ∧
      ∀ mode, stream (nodeSessions mode) streamer task =
        fetch (nodeSessions mode) streamer task amount := by
  cases hlength : task.range.effectiveLength task.block with
  | error f =>
      exact Or.inl ⟨.fault f, nofun, fun mode net => stream_of_past _ hlength net⟩
  | ok amount =>
      by_cases hzero : amount = 0
      · subst hzero
        exact Or.inl ⟨.ok [], nofun, fun mode net => stream_of_empty _ hlength net⟩
      · have hpos : 1 ≤ amount := Nat.one_le_iff_ne_zero.2 hzero
        exact Or.inr ⟨amount, rfl, hpos, fun mode => stream_of_length _ hlength hpos⟩

/-- The loop for a range that fits in memory. -/
theorem loop_of_fits (hmemory : amount ≤ streamer.memory.size) :
    streamer.loop task amount =
      .ok ⟨task.endpoint, amount, [], streamer.maxRetries⟩ :=
  ReadLoop.make_of_fits hmemory task.endpoint streamer.maxRetries

theorem loop_of_large (hmemory : streamer.memory.size < amount) (hword : Word.InRange 8 amount) :
    streamer.loop task amount = .error .outOfMemory := by
  unfold loop ReadLoop.make
  rw [if_neg (not_not_intro hword), if_neg (by omega), if_pos (Int.ofNat_lt.2 hmemory)]

theorem loop_cases (streamer : Streamer) (task : Task) (amount : Nat) :
    (∃ f, streamer.loop task amount = .error f) ∨
      streamer.loop task amount = .ok ⟨task.endpoint, amount, [], streamer.maxRetries⟩ := by
  unfold loop ReadLoop.make
  by_cases hword : Word.InRange 8 amount
  · rw [if_neg (not_not_intro hword), if_neg (by omega)]
    by_cases hmemory : (streamer.memory.size : Int) < amount
    · exact Or.inl ⟨_, if_pos hmemory⟩
    · exact Or.inr (if_neg hmemory)
  · exact Or.inl ⟨_, if_pos hword⟩

/-- A range that does not fit in memory fails before anything is done. -/
theorem stream_of_large {σ τ : Type} (sessions : SessionKind σ τ)
    (hlength : task.range.effectiveLength task.block = .ok amount)
    (hmemory : streamer.memory.size < amount) (hword : Word.InRange 8 amount) (s : σ) :
    stream sessions streamer task s = ⟨.fault .outOfMemory, [], s⟩ := by
  have hpos : 1 ≤ amount := Nat.succ_le_of_lt (Nat.zero_lt_of_lt hmemory)
  rw [stream_of_length _ hlength hpos]
  unfold fetch
  rw [loop_of_large hmemory hword, ofExcept_error_bind]

/-- A session that cannot be opened fails the read. -/
theorem fetch_of_unopened {loop : ReadLoop} {f : Fault} {notes : List Note} {net' : Network}
    {reader' : Reader} (hloop : streamer.loop task amount = .ok loop)
    (hstart : Reader.start mode (streamer.opening task amount).request
        (net, (streamer.opening task amount).reader) = ⟨.fault f, notes, (net', reader')⟩) :
    fetch (nodeSessions mode) streamer task amount net = ⟨.fault f, notes, net'⟩ := by
  have hmaking : (nodeSessions mode).start (streamer.opening task amount) net = _ :=
    making_of_fault hstart
  unfold fetch
  rw [hloop, ofExcept_ok_bind, bind_of_fault hmaking]

/-- A connect that is given no time is not begun. -/
theorem fetch_of_untimely {loop : ReadLoop} (hloop : streamer.loop task amount = .ok loop)
    (hbegins : Network.begins mode streamer.sessionTimeout = false) :
    fetch (nodeSessions mode) streamer task amount net =
      ⟨.fault (.connectFailed mode task.endpoint .noTime), [], net⟩ :=
  fetch_of_unopened hloop (Reader.start_of_untimely _ hbegins)

/-- The attempt to connect fails, and no other is made. -/
theorem fetch_of_unanswered {loop : ReadLoop} {f : Fault}
    (hloop : streamer.loop task amount = .ok loop)
    (hbegins : Network.begins mode streamer.sessionTimeout = true)
    (hanswer : net.answer task.endpoint = .error f) :
    fetch (nodeSessions mode) streamer task amount net =
      ⟨.fault (Reader.connectReport mode task.endpoint f),
        [.connect net.attempts task.endpoint
          (Network.shownTimeout mode streamer.sessionTimeout)],
        net.afterAttempt task.endpoint⟩ :=
  fetch_of_unopened hloop (Reader.start_of_unanswered _ hbegins hanswer)

/-- On an open session the bytes are collected, and the session is closed. -/
theorem fetch_of_opened {loop : ReadLoop} {notes notes' : List Note} {net' : Network}
    {reader reader' : Reader} {o : Outcome Bytes}
    (hloop : streamer.loop task amount = .ok loop)
    (hstart : Reader.start mode (streamer.opening task amount).request
        (net, (streamer.opening task amount).reader) = ⟨.ok (), notes, (net', reader)⟩)
    (hcollect : (collect (nodeSessions mode) loop).andFinally (nodeSessions mode).close reader =
      ⟨o, notes', reader'⟩) :
    fetch (nodeSessions mode) streamer task amount net = ⟨o, notes ++ notes', net'⟩ := by
  have hmaking : (nodeSessions mode).start (streamer.opening task amount) net = _ :=
    making_of_ok hstart
  have hinside : inside reader
      ((collect (nodeSessions mode) loop).andFinally (nodeSessions mode).close) net' =
      ⟨o, notes', net'⟩ := by
    show (⟨_, _, _⟩ : Run Network Bytes) = _
    rw [hcollect]
  unfold fetch
  rw [hloop, ofExcept_ok_bind, bind_of_ok hmaking, hinside]
  rfl

end Parts

end Streamer
end ReplicaRead
