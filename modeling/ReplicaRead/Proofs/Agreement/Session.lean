import ReplicaRead.Proofs.Agreement.Basic
import ReplicaRead.Proofs.Fetching

/-!
# Agreement of reads in both modes

Reading a range goes through the same steps in both modes, on the same connection. The handshake
ends alike although its reads differ, and the read loop meets the same pieces and failures one by
one.

Results: `handshake_agrees`, `fill_agrees` and `stream_agrees`.
-/

namespace ReplicaRead

open Act Arrivals

/-- No read or send of a script is cut off within an exact read, and only failures of the system
come of closing. -/
structure Script.Plain (script : Script) : Prop where
  receive : ∀ f, .error f ∈ script.arrivals → f.kind ≠ .incompleteRead
  send : ∀ f, script.sendFault = some f → f.kind ≠ .incompleteRead
  close : ∀ f, script.closeFault = some f → f.isSystem = true

namespace Reader

theorem connectReport_agrees (endpoint : Endpoint) (f : Fault) :
    (connectReport .sync endpoint f).Agrees (connectReport .async endpoint f) := by
  unfold connectReport
  by_cases hf : failsConnect f = true
  · rw [if_pos hf, if_pos hf]
    exact ⟨rfl, rfl, Or.inl ⟨rfl, rfl⟩⟩
  · rw [if_neg hf, if_neg hf]
    exact .refl f

/-! ### The handshake -/

section Exchange

variable {request : Request}

theorem wire_statusNotes (mode : Mode) (id : Nat) (arrivals : List Arrival) :
    wire (statusNotes mode id arrivals) = [] := by
  refine List.filterMap_eq_nil_iff.2 ?_
  intro n hn
  rcases mem_statusNotes hn with ⟨size, rfl⟩ | rfl
  · rfl
  · rfl

theorem quiet_exchangeNotes (mode : Mode) (request : Request) (link : Link) :
    Quiet (exchangeNotes mode request link) := by
  intro n hn
  rcases mem_exchangeNotes hn with ⟨payload, rfl⟩ | ⟨size, rfl⟩ | rfl
  · rfl
  · rfl
  · rfl

theorem wire_exchangeNotes (request : Request) (link : Link) :
    wire (exchangeNotes .sync request link) = wire (exchangeNotes .async request link) := by
  have hstatus : ∀ mode, (statusNotes mode link.id link.arrivals).filterMap Note.wire? = [] :=
    fun mode => wire_statusNotes mode link.id link.arrivals
  unfold exchangeNotes wire
  split
  · rfl
  · rfl
  · rw [List.filterMap_cons, List.filterMap_cons, hstatus, hstatus]

/-- A reply that is a fault comes from the request, from sending or from receiving. -/
theorem kind_of_reply {script : Script} {id : Nat} {f : Fault} (hscript : script.Plain)
    (hreply : reply request (script.link id) = .fault f) : f.kind ≠ .incompleteRead := by
  unfold reply at hreply
  split at hreply
  · rename_i g hencode
    cases hreply
    rw [Request.encode] at hencode
    split at hencode
    · cases hencode
    · cases hencode
      exact nofun
  · rename_i g _ hsend
    cases hreply
    exact hscript.send _ hsend
  · exact hscript.receive f (mem_of_firstTwo (Or.inl hreply))

end Exchange

/-- How the handshakes in both modes on a connection end: granted, with one reader and the record of
the session as the last note, or with faults that agree, and no data read. -/
inductive Greeted (link : Link) : Run Reader Unit → Run Reader Unit → Prop where
  | granted {notes notes' : List Note} {r r' : Record} {reader : Reader} {arrivals : List Arrival}
      (hheld : reader.link = some { link with arrivals }) (hquiet : Quiet notes)
      (hquiet' : Quiet notes') (hwire : wire notes = wire notes')
      (hrecord : (Note.record r).isSession = true) (hrecord' : (Note.record r').isSession = true) :
      Greeted link ⟨.ok (), notes ++ [.record r], reader⟩ ⟨.ok (), notes' ++ [.record r'], reader⟩
  | failed {f g : Fault} {notes notes' : List Note} {reader : Reader} (hfault : f.Agrees g)
      (hwire : wire notes = wire notes') (hreads : dataReads notes = [])
      (hreads' : dataReads notes' = []) :
      Greeted link ⟨.fault f, notes, reader⟩ ⟨.fault g, notes', reader⟩

theorem wire_closing (mode : Mode) (endpoint : Endpoint) (link : Link) :
    wire (.close link.id :: closingLog mode endpoint link) = [.close link.id] := by
  have hlog : wire (closingLog mode endpoint link) = [] := by
    refine List.filterMap_eq_nil_iff.2 ?_
    intro n hn
    obtain ⟨r, rfl⟩ := mem_closingLog hn
    rfl
  unfold wire at hlog ⊢
  rw [List.filterMap_cons, hlog]
  rfl

theorem reads_closing {mode : Mode} {endpoint : Endpoint} {link : Link} {n : Note}
    (hn : n ∈ .close link.id :: closingLog mode endpoint link) : n.read? = none := by
  rcases List.mem_cons.1 hn with rfl | hn
  · rfl
  · obtain ⟨r, rfl⟩ := mem_closingLog hn
    rfl

theorem Greeted.of_closed {f g : Fault} {notes notes' : List Note} {reader : Reader}
    {link link' : Link} {endpoint : Endpoint} (hfault : f.Agrees g) (hquiet : Quiet notes)
    (hquiet' : Quiet notes') (hwire : wire notes = wire notes') :
    Greeted link' ⟨.fault f, notes ++ .close link.id :: closingLog .sync endpoint link, reader⟩
      ⟨.fault g, notes' ++ .close link.id :: closingLog .async endpoint link, reader⟩ := by
  refine .failed hfault ?_ ?_ ?_
  · rw [wire_append, wire_append, wire_closing, wire_closing, hwire]
  · rw [dataReads_append hquiet]
    exact dataReads_of_unread fun n hn => reads_closing hn
  · rw [dataReads_append hquiet']
    exact dataReads_of_unread fun n hn => reads_closing hn

/-- The handshakes in both modes end alike. -/
theorem handshake_greeted (request : Request) {reader : Reader} {script : Script} {id : Nat}
    (hlink : reader.link = some (script.link id)) (hscript : script.Plain) :
    Greeted (script.link id) (handshake .sync request reader)
      (handshake .async request reader) := by
  let link := script.link id
  have hsync := exchange_of_held hlink .sync request
  have hasync := exchange_of_held hlink .async request
  have hheld := holding_link reader link (unread request link)
  have hquiet := quiet_exchangeNotes .sync request link
  have hquiet' := quiet_exchangeNotes .async request link
  have hwire := wire_exchangeNotes request link
  have hclosing : ∀ mode, ({ link with arrivals := unread request link } : Link).closingFault mode =
      none := Link.closingFault_eq_none hscript.close
  -- What both exchanges meet is the same, except for how a status that is cut off is reported.
  have hfailed : ∀ f g, (reply request link).outcome .sync = .fault f →
      (reply request link).outcome .async = .fault g → failsHandshake .sync f = true →
      failsHandshake .async g = true →
      Greeted link (handshake .sync request reader) (handshake .async request reader) := by
    intro f g hf hg hfails hfails'
    rw [hf] at hsync
    rw [hg] at hasync
    rw [handshake_of_failed hsync hfails hheld, handshake_of_failed hasync hfails' hheld,
      hclosing .sync, hclosing .async]
    exact .of_closed ⟨rfl, rfl, Or.inl ⟨rfl, rfl⟩⟩ hquiet hquiet' hwire
  cases hreply : reply request link with
  | bytes high low =>
      rw [hreply] at hsync hasync
      by_cases hstatus : Status.ofBytes high low = Status.success
      · have hgranted : ∀ mode, (Pair.bytes high low).outcome mode = .ok Status.success :=
          fun mode => congrArg Outcome.ok hstatus
        rw [hgranted] at hsync hasync
        rw [handshake_of_granted hsync, handshake_of_granted hasync]
        exact .granted hheld hquiet hquiet' hwire rfl rfl
      · rw [handshake_of_refused hsync hstatus hheld, handshake_of_refused hasync hstatus hheld,
          hclosing .sync, hclosing .async]
        exact .of_closed (.refl _) hquiet hquiet' hwire
  | fault f =>
      rw [hreply] at hsync hasync hfailed
      by_cases hsystem : f.isSystem = true
      · exact hfailed f f rfl rfl (by simp [failsHandshake, hsystem])
          (by simp [failsHandshake, hsystem])
      · have hkind := kind_of_reply hscript hreply
        have hescaped := handshake_of_escaped hsync (by simp [failsHandshake, hsystem])
        have hescaped' := handshake_of_escaped hasync (by simp [failsHandshake, hsystem, hkind])
        rw [hescaped, hescaped']
        exact .failed (.refl f) hwire (dataReads_of_quiet hquiet) (dataReads_of_quiet hquiet')
  | short got =>
      rw [hreply] at hfailed
      exact hfailed _ _ rfl rfl rfl rfl

end Reader

/-! ### The read loop -/

/-- Runs that read the same data, to outcomes that agree and to one state. -/
structure Run.ReadsAlike {σ α : Type} (r r' : Run σ α) : Prop where
  outcome : r.outcome.Agrees r'.outcome
  reads : r.notes.filterMap Note.read? = r'.notes.filterMap Note.read?
  state : r.state = r'.state

theorem Run.ReadsAlike.prepend {σ α : Type} {r r' : Run σ α} {notes notes' : List Note}
    (h : r.ReadsAlike r') (hreads : notes.filterMap Note.read? = notes'.filterMap Note.read?) :
    (r.prepend notes).ReadsAlike (r'.prepend notes') := by
  refine ⟨h.outcome, ?_, h.state⟩
  rw [prepend_notes, prepend_notes, List.filterMap_append, List.filterMap_append, hreads, h.reads]

namespace ReadLoop

/-- The loops in both modes go in step: they meet the same pieces and failures, and reports of a
failure differ only in what they quote. -/
theorem fill_readsAlike (reads : Nat) (loop : ReadLoop) (reader : Reader) (link : Link)
    (h : reader.link = some link) (hbuffer : 0 ≤ reader.bufferSize) (henough : loop.Enough reads) :
    (fill (nodeSessions .sync).read reads loop reader).ReadsAlike
      (fill (nodeSessions .async).read reads loop reader) := by
  have hdone : ∀ (reads : Nat) (loop : ReadLoop) (reader : Reader), loop.remaining = 0 →
      (fill (nodeSessions .sync).read reads loop reader).ReadsAlike
        (fill (nodeSessions .async).read reads loop reader) := by
    intro reads loop reader hrem
    rw [fill_of_done hrem, fill_of_done hrem]
    exact ⟨.ok loop, rfl, rfl⟩
  induction reads generalizing loop reader link with
  | zero =>
      exact hdone 0 loop reader henough.remaining_eq_zero
  | succ reads ih =>
      by_cases hrem : loop.remaining = 0
      · exact hdone (reads + 1) loop reader hrem
      · rw [fill_of_missing hrem, fill_of_missing hrem]
        have hwanted := wanted_nonneg loop hbuffer
        have hadvanced := Reader.advanced_of_nonneg hwanted reader link
        have next := fun loop' =>
          ih loop' (reader.advanced .async link (loop.wanted reader)) _ rfl hbuffer
        cases hpiece : receivePiece .async (loop.wanted reader) link.arrivals with
        | ok bs =>
            have hsync := (receivePiece_of_nonneg hwanted link.arrivals).trans hpiece
            have hlength := length_le_of_piece hbuffer hpiece
            rw [bind_of_ok (step_of_whole h hbuffer hsync),
              bind_of_ok (step_of_whole h hbuffer hpiece), hadvanced]
            refine Run.ReadsAlike.prepend ?_ rfl
            exact next (loop.taken bs) (henough.of_taken hlength (receivePiece_ok hpiece).2)
        | error f =>
            have hsync := (receivePiece_of_nonneg hwanted link.arrivals).trans hpiece
            by_cases hsystem : f.isSystem = true
            · by_cases hspent : loop.retriesLeft = 0
              · rw [bind_of_fault (step_of_spent h hsync hsystem hspent),
                  bind_of_fault (step_of_spent h hpiece hsystem hspent), hadvanced]
                exact ⟨.fault ⟨rfl, rfl, Or.inr rfl⟩, rfl, rfl⟩
              · rw [bind_of_ok (step_of_charged h hsync hsystem hspent),
                  bind_of_ok (step_of_charged h hpiece hsystem hspent), hadvanced]
                refine Run.ReadsAlike.prepend ?_ rfl
                exact next loop.charged (henough.of_charged hspent)
            · have hescapes := Bool.eq_false_iff.2 hsystem
              rw [bind_of_fault (step_of_escaped h .sync hsync hescapes),
                bind_of_fault (step_of_escaped h .async hpiece hescapes), hadvanced]
              exact ⟨.fault (.refl f), rfl, rfl⟩

end ReadLoop

namespace Streamer

/-! ### Reading a range -/

theorem collect_readsAlike {reader : Reader} {link : Link} {retries : Int} (endpoint : Endpoint)
    (amount : Nat) (h : reader.link = some link) (hbuffer : 0 ≤ reader.bufferSize)
    (hretries : 0 ≤ retries) :
    (collect (nodeSessions .sync) ⟨endpoint, amount, [], retries⟩ reader).ReadsAlike
      (collect (nodeSessions .async) ⟨endpoint, amount, [], retries⟩ reader) := by
  let loop : ReadLoop := ⟨endpoint, amount, [], retries⟩
  have henough : loop.Enough (loop.readsAllowed reader.supply) :=
    ReadLoop.enough_readsAllowed hretries _
  have hfill := ReadLoop.fill_readsAlike _ loop reader link h hbuffer henough
  have hrun : ∀ mode, collect (nodeSessions mode) loop reader = _ := fun mode =>
    bind_pure_apply (loop.fill (nodeSessions mode).read (loop.readsAllowed reader.supply))
      ReadLoop.received reader
  rw [hrun, hrun]
  exact ⟨hfill.outcome.map _, hfill.reads, hfill.state⟩

section Collected

variable {mode : Mode} {reader : Reader} {link : Link} {loop : ReadLoop} {r : Record}

/-- The notes from the record of an opened session on. -/
def collectedNotes (mode : Mode) (loop : ReadLoop) (reader : Reader) (link : Link) (r : Record) :
    List Note :=
  .record r :: ((collect (nodeSessions mode) loop reader).notes ++
    .close link.id :: Reader.closingLog mode
      (collect (nodeSessions mode) loop reader).state.endpoint link)

theorem wire_collectedNotes (h : reader.link = some link) :
    wire (collectedNotes mode loop reader link r) = [.close link.id] := by
  have hreading : wire (collect (nodeSessions mode) loop reader).notes = [] := by
    refine List.filterMap_eq_nil_iff.2 ?_
    intro n hn
    have hnote := (collect_keeps mode link loop reader ⟨_, h⟩).notes n hn
    cases n with
    | receive id size =>
        rfl
    | record r =>
        rfl
    | _ =>
        exact hnote.elim
  show wire (_ ++ _) = _
  rw [wire_append, hreading, Reader.wire_closing]
  rfl

theorem dataReads_collectedNotes (hrecord : (Note.record r).isSession = true) :
    dataReads (collectedNotes mode loop reader link r) =
      (collect (nodeSessions mode) loop reader).notes.filterMap Note.read? := by
  have hclosing : ∀ endpoint, (Note.close link.id :: Reader.closingLog mode endpoint link).filterMap
      Note.read? = [] :=
    fun endpoint => List.filterMap_eq_nil_iff.2 fun n hn => Reader.reads_closing hn
  unfold collectedNotes
  rw [dataReads_cons hrecord]
  show List.filterMap Note.read? (_ ++ _) = _
  rw [List.filterMap_append, hclosing, List.append_nil]

end Collected

/-- Runs on connections that were opened alike agree if they agree from the records on. -/
theorem agrees_of_opened {notes notes' tail tail' : List Note} {r r' : Record} {id : Nat}
    {endpoint : Endpoint} {timeout timeout' : Option Binary64} {o o' : Outcome Bytes}
    {net net' : Network} (hquiet : Quiet notes) (hquiet' : Quiet notes')
    (hwire : wire notes = wire notes')
    (h : (⟨o, .record r :: tail, net⟩ : Run Network Bytes).Agrees ⟨o', .record r' :: tail', net'⟩) :
    (⟨o, (.connect id endpoint timeout :: (notes ++ [.record r])) ++ tail, net⟩ :
      Run Network Bytes).Agrees
      ⟨o', (.connect id endpoint timeout' :: (notes' ++ [.record r'])) ++ tail', net'⟩ := by
  have hattempt : ∀ t, Quiet [.connect id endpoint t] := by
    intro t n hn
    rw [List.mem_singleton] at hn
    subst hn
    rfl
  have hsame : wire [.connect id endpoint timeout] = wire [.connect id endpoint timeout'] := rfl
  have hopened := (h.prepend hwire hquiet hquiet').prepend hsame (hattempt timeout)
    (hattempt timeout')
  simpa using hopened

/-- The ways to read a range in both modes agree. -/
theorem fetch_agrees {streamer : Streamer} {net : Network} (task : Task) (amount : Nat)
    (hbuffer : 0 ≤ streamer.bufferSize) (hretries : 0 ≤ streamer.maxRetries)
    (hbegins : Network.begins .async streamer.sessionTimeout = true)
    (hscripts : net.AllScripts Script.Plain) :
    (fetch (nodeSessions .sync) streamer task amount net).Agrees
      (fetch (nodeSessions .async) streamer task amount net) := by
  rcases loop_cases streamer task amount with ⟨f, hloop⟩ | hloop
  · unfold fetch
    rw [hloop, ofExcept_error_bind, ofExcept_error_bind]
    exact raise_agrees f net
  let opening := streamer.opening task amount
  cases hanswer : net.answer task.endpoint with
  | error f =>
      rw [fetch_of_unanswered hloop rfl hanswer, fetch_of_unanswered hloop hbegins hanswer]
      exact ⟨.fault (Reader.connectReport_agrees _ f), rfl, rfl, rfl⟩
  | ok link =>
      have hsync : Reader.start .sync opening.request (net, opening.reader) = _ :=
        Reader.start_of_answered _ rfl hanswer
      have hasync : Reader.start .async opening.request (net, opening.reader) = _ :=
        Reader.start_of_answered _ hbegins hanswer
      obtain ⟨script, hmem, -, -, rfl⟩ := Network.exists_script_of_answer hanswer
      have hscript := hscripts _ script hmem
      let reader : Reader := { opening.reader with link := some (script.link net.attempts) }
      have hgreeted := Reader.handshake_greeted opening.request (rfl : reader.link = _) hscript
      have hparameters :=
        (Reader.handshake_ends .sync opening.request (rfl : reader.link = _)).parameters_eq
      generalize Reader.handshake .sync opening.request reader = r at hsync hgreeted hparameters
      generalize Reader.handshake .async opening.request reader = r' at hasync hgreeted
      cases hgreeted with
      | granted hheld hquiet hquiet' hwire hrecord hrecord' =>
          have halike := collect_readsAlike task.endpoint amount hheld
            (hparameters.2.symm ▸ hbuffer) hretries
          obtain ⟨hends, hends'⟩ := halike.outcome.ne_unfinished
          rw [fetch_of_opened hloop hsync (collect_close _ hheld hscript.close hends),
            fetch_of_opened hloop hasync (collect_close _ hheld hscript.close hends')]
          refine agrees_of_opened hquiet hquiet' hwire ⟨halike.outcome, ?_, ?_, rfl⟩
          · exact (wire_collectedNotes hheld).trans (wire_collectedNotes hheld).symm
          · exact (dataReads_collectedNotes hrecord).trans
              (halike.reads.trans (dataReads_collectedNotes hrecord').symm)
      | failed hfault hwire hreads hreads' =>
          rw [fetch_of_unopened hloop hsync, fetch_of_unopened hloop hasync]
          refine ⟨.fault hfault, ?_, ?_, rfl⟩
          · exact congrArg (.connect net.attempts task.endpoint none :: ·) hwire
          · exact hreads.trans hreads'.symm

/-- The reads of a range in both modes agree. -/
theorem stream_agrees {streamer : Streamer} {net : Network} (task : Task)
    (hbuffer : 0 ≤ streamer.bufferSize) (hretries : 0 ≤ streamer.maxRetries)
    (hbegins : Network.begins .async streamer.sessionTimeout = true)
    (hscripts : net.AllScripts Script.Plain) :
    (stream (nodeSessions .sync) streamer task net).Agrees
      (stream (nodeSessions .async) streamer task net) := by
  rcases stream_cases streamer task with ⟨o, ho, hrun⟩ | ⟨amount, -, -, hrun⟩
  · rw [hrun, hrun]
    exact .refl ho
  · rw [hrun, hrun]
    exact fetch_agrees task amount hbuffer hretries hbegins hscripts

end Streamer

end ReplicaRead
