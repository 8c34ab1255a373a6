import ReplicaRead.Proofs.Framing.Words
import ReplicaRead.Proofs.Selection.Reaching

/-!
# What a call that succeeds has delivered

A call returns data only from a replica that a probe has reached, and only bytes that the replica
has sent after the two bytes of a granted request, in their order. They come right after these two,
without a gap, if the buffer has a size that is not below zero. This holds for every network,
whatever faults it brings in between.

Results: `ReadLoop.fill_delivers` and `Streamer.stream_delivers`, for the reading of a range;
`Delivered` and `readBlock_delivers`, for the whole call.
-/

namespace ReplicaRead

open Act Arrivals

/-! ### The granting of a request -/

/-- A handshake succeeds only if the status is that of success. -/
theorem Reader.reply_of_granted {mode : Mode} {request : Request} {reader reader' : Reader}
    {link : Link} {notes : List Note} (h : reader.link = some link)
    (hrun : handshake mode request reader = ⟨.ok (), notes, reader'⟩) :
    reply request link = .bytes 0 0 ∧ reader' = reader.holding link (unread request link) := by
  have hexchange := exchange_of_held h mode request
  have hheld := holding_link reader link (unread request link)
  cases hreply : reply request link with
  | bytes high low =>
      rw [hreply] at hexchange
      by_cases hstatus : Status.ofBytes high low = Status.success
      · have houtcome : (Pair.bytes high low).outcome mode = .ok Status.success :=
          congrArg Outcome.ok hstatus
        rw [houtcome] at hexchange
        rw [handshake_of_granted hexchange] at hrun
        obtain ⟨rfl, rfl⟩ := Status.ofBytes_eq_success_iff.1 hstatus
        cases hrun
        exact ⟨rfl, rfl⟩
      · rw [handshake_of_refused hexchange hstatus hheld] at hrun
        cases hrun
  | fault f | short got =>
      have hends := handshake_ends mode request h
      rw [hrun] at hends
      cases hends with
      | granted hgranted =>
          rw [hreply] at hgranted
          cases hgranted

namespace ReadLoop

/-- A loop that ends has appended bytes that arrive, as many as were missing. With a buffer they are
the first. -/
theorem fill_delivers (mode : Mode) (reads : Nat) (loop : ReadLoop) (reader : Reader) (link : Link)
    (h : reader.link = some link) {loop' : ReadLoop}
    (hrun : (fill (nodeSessions mode).read reads loop reader).outcome = .ok loop') :
    ∃ bs, loop'.received = loop.received ++ bs ∧ bs.length = loop.remaining ∧
      Drawn (0 ≤ reader.bufferSize) bs (content link.arrivals) := by
  induction reads generalizing loop reader link with
  | zero =>
      by_cases hrem : loop.remaining = 0
      · rw [fill_of_done hrem] at hrun
        cases hrun
        exact ⟨[], (List.append_nil _).symm, hrem.symm, drawn_nil _ _⟩
      · rw [fill, if_neg hrem] at hrun
        cases hrun
  | succ reads ih =>
      by_cases hrem : loop.remaining = 0
      · rw [fill_of_done hrem] at hrun
        cases hrun
        exact ⟨[], (List.append_nil _).symm, hrem.symm, drawn_nil _ _⟩
      · rw [fill_of_missing hrem] at hrun
        obtain ⟨front, hcontent, hsublist, hall⟩ :=
          content_receiveSized mode (loop.wanted reader) link.arrivals
        have next := fun loop' =>
          ih loop' (reader.advanced mode link (loop.wanted reader)) _ rfl
        rw [hcontent]
        cases hpiece : receivePiece mode (loop.wanted reader) link.arrivals with
        | ok bs =>
            rw [hpiece, used, bytes_map_ok] at hsublist hall
            rw [bind_of_ok (step_of_piece h hpiece)] at hrun
            obtain ⟨rest, hreceived, hlength, hrest⟩ := next _ hrun
            have hfits : (bs.take loop.remaining).length ≤ loop.remaining :=
              List.length_take_le _ _
            have hrem := remaining_taken hfits
            refine ⟨bs.take loop.remaining ++ rest, ?_, ?_, ?_⟩
            · rw [hreceived, taken, List.append_assoc]
            · rw [List.length_append]
              omega
            · refine .append ((List.take_sublist _ bs).trans hsublist) ?_ hrest
              intro hbuffer
              rw [List.take_of_length_le (length_le_of_piece hbuffer hpiece),
                hall (wanted_nonneg loop hbuffer)]
        | error f =>
            -- A failure brings no bytes, and with a buffer it takes none.
            rw [hpiece, used, bytes_error_cons, bytes_nil] at hsublist hall
            by_cases hsystem : f.isSystem = true
            · by_cases hspent : loop.retriesLeft = 0
              · rw [bind_of_fault (step_of_spent h hpiece hsystem hspent)] at hrun
                cases hrun
              · rw [bind_of_ok (step_of_charged h hpiece hsystem hspent)] at hrun
                obtain ⟨rest, hreceived, hlength, hrest⟩ := next loop.charged hrun
                have hskipped := hrest.append hsublist fun hbuffer =>
                  hall (wanted_nonneg loop hbuffer)
                exact ⟨rest, hreceived, hlength, hskipped⟩
            · rw [bind_of_fault (step_of_escaped h mode hpiece (Bool.eq_false_iff.2 hsystem))]
                at hrun
              cases hrun

end ReadLoop

namespace Streamer

/-! ### Reading a range -/

section Reading

variable {mode : Mode} {streamer : Streamer} {task : Task} {net : Network} {amount : Nat}

/-- What is collected and returned after closing are bytes that arrive, and with a buffer the
first. -/
theorem collect_delivers {loop : ReadLoop} {reader : Reader} {link : Link} {data : Bytes}
    (h : reader.link = some link) (hstart : loop.received = [])
    (hrun : ((collect (nodeSessions mode) loop).andFinally (nodeSessions mode).close
      reader).outcome = .ok data) :
    data.length = loop.remaining ∧
      Drawn (0 ≤ reader.bufferSize) data (content link.arrivals) := by
  have hcollect : collect (nodeSessions mode) loop reader = _ :=
    bind_pure_apply (loop.fill (nodeSessions mode).read (loop.readsAllowed reader.supply))
      ReadLoop.received reader
  have hends : (collect (nodeSessions mode) loop reader).outcome ≠ .unfinished := by
    intro hunfinished
    simp [andFinally, hunfinished] at hrun
  obtain ⟨-, -, hvalue⟩ := andFinally_of_ends hends (nodeSessions mode).close
  have hdata := (hvalue data hrun).1
  rw [hcollect] at hdata
  obtain ⟨loop', hfill, rfl⟩ := Outcome.map_eq_ok_iff.1 hdata
  obtain ⟨bs, hreceived, hlength, hdrawn⟩ := ReadLoop.fill_delivers mode _ loop reader link h hfill
  rw [hstart, List.nil_append] at hreceived
  rw [hreceived]
  exact ⟨hlength, hdrawn⟩

/-- A fetch that returns data has read it behind the status. -/
theorem fetch_delivers {link : Link} {data : Bytes}
    (hloop : streamer.loop task amount = .ok ⟨task.endpoint, amount, [], streamer.maxRetries⟩)
    (hbegins : Network.begins mode streamer.sessionTimeout = true)
    (hanswer : net.answer task.endpoint = .ok link)
    (hrun : (fetch (nodeSessions mode) streamer task amount net).outcome = .ok data) :
    data.length = amount ∧
      Drawn (0 ≤ streamer.bufferSize) (0 :: 0 :: data) (content link.arrivals) := by
  let opening := streamer.opening task amount
  have hstart : Reader.start mode opening.request (net, opening.reader) = _ :=
    Reader.start_of_answered _ hbegins hanswer
  cases hhandshake : Reader.handshake mode opening.request
      { opening.reader with link := some link } with
  | mk outcome notes reader =>
      rw [hhandshake] at hstart
      cases outcome with
      | ok value =>
          obtain ⟨hreply, rfl⟩ := Reader.reply_of_granted rfl hhandshake
          obtain ⟨taken, -, hcontent, htaken⟩ := Reader.content_unread opening.request link
          rw [htaken 0 0 hreply] at hcontent
          rw [fetch_of_opened hloop hstart rfl] at hrun
          obtain ⟨hlength, hdrawn⟩ := collect_delivers rfl rfl hrun
          refine ⟨hlength, ?_⟩
          rw [hcontent]
          exact hdrawn.append (List.Sublist.refl [0, 0]) fun _ => rfl
      | fault f =>
          rw [fetch_of_unopened hloop hstart] at hrun
          cases hrun
      | unfinished =>
          have hends := Reader.handshake_ends mode opening.request
            (rfl : ({ opening.reader with link := some link } : Reader).link = some link)
          rw [hhandshake] at hends
          cases hends

/-- The events of a read that returns data from an endpoint with the given scripts, at most `buffer`
bytes at a time. -/
inductive Fetched (buffer : Int) (scripts : List Script) (e : Endpoint) :
    Bytes → List Note → Prop where
  | nothing : Fetched buffer scripts e [] []
  /-- The data came behind the status, on one connection. It came right behind it without a gap,
  unless the buffer has a size below zero and lets a read lose bytes. -/
  | read {script : Script} {rest : List Script} {id : Nat} {timeout : Option Binary64}
      {talk : List Note} {data : Bytes} (hscripts : scripts = script :: rest)
      (hconnect : script.connectFault = none) (htalk : ∀ n ∈ talk, n.link? = some id)
      (hdata : Drawn (0 ≤ buffer) (0 :: 0 :: data) (content script.arrivals)) :
      Fetched buffer scripts e data (.connect id e timeout :: talk)

/-- A read that returns data has returned as many bytes as the range has within the block. -/
theorem stream_delivers {data : Bytes}
    (hrun : (stream (nodeSessions mode) streamer task net).outcome = .ok data) :
    task.range.effectiveLength task.block = .ok data.length ∧
      Fetched streamer.bufferSize (net.scripts task.endpoint) task.endpoint data
        (events (stream (nodeSessions mode) streamer task net).notes) := by
  cases hlength : task.range.effectiveLength task.block with
  | error f =>
      rw [stream_of_past _ hlength] at hrun
      cases hrun
  | ok amount =>
      rcases Nat.eq_zero_or_pos amount with rfl | hpos
      · rw [stream_of_empty _ hlength] at hrun ⊢
        cases hrun
        exact ⟨rfl, .nothing⟩
      rw [stream_of_length _ hlength hpos] at hrun ⊢
      rcases loop_cases streamer task amount with ⟨f, hloop⟩ | hloop
      · unfold fetch at hrun
        rw [hloop, ofExcept_error_bind] at hrun
        cases hrun
      cases hbegins : Network.begins mode streamer.sessionTimeout with
      | false =>
          rw [fetch_of_untimely hloop hbegins] at hrun
          cases hrun
      | true =>
          cases hanswer : net.answer task.endpoint with
          | error f =>
              rw [fetch_of_unanswered hloop hbegins hanswer] at hrun
              cases hrun
          | ok link =>
              obtain ⟨hdata, hdrawn⟩ := fetch_delivers hloop hbegins hanswer hrun
              obtain ⟨o, talk, hfetch, htalk⟩ := fetch_converses hloop hbegins hanswer
              rw [hfetch]
              obtain ⟨script, -, hhead, hfault, rfl⟩ := Network.exists_script_of_answer hanswer
              obtain ⟨rest, hscripts⟩ := List.head?_eq_some_iff.1 hhead
              exact ⟨congrArg Except.ok hdata.symm,
                .read hscripts hfault (fun n hn => (htalk.link_of_event n hn).1) hdrawn⟩

end Reading

end Streamer

/-! ### The call -/

/-- The events of a call that returns data from an endpoint: a probe of it, the only one, makes a
connection and closes it, and then the range is read. -/
inductive Delivered (buffer : Int) (net : Network) (e : Endpoint) : Bytes → List Note → Prop where
  | read {script : Script} {rest : List Script} {before after : List Note} {id : Nat}
      {timeout : Option Binary64} {data : Bytes} (hscripts : net.scripts e = script :: rest)
      (hconnect : script.connectFault = none) (hbefore : ∀ n ∈ before, n.connect? ≠ some e)
      (hfetched : Streamer.Fetched buffer rest e data after) :
      Delivered buffer net e data (before ++ .connect id e timeout :: .close id :: after)

/-- A call that returns a result has read all bytes of the range from a candidate that it reached. -/
theorem readBlock_delivers {mode : Mode} {viewer : Viewer} {view : View} {net : Network}
    {result : ViewResult} (hrun : (readBlock mode viewer view net).outcome = .ok result) :
    ∃ e ∈ view.candidates, ∃ data, result = .ofData e view.range.offset data view.withLines ∧
      view.range.effectiveLength view.block = .ok data.length ∧
      Delivered viewer.streamer.bufferSize net e data
        (events (readBlock mode viewer view net).notes) := by
  have hends := Selection.select_ends mode view.candidates viewer.probeTimeout net
  generalize hselect : Selection.select (networkProber mode) view.candidates viewer.probeTimeout net
    = r at hends
  unfold readBlock at hrun ⊢
  cases hends with
  | @reached e probes net₁ he hnew hreached =>
      rw [bind_of_ok hselect, bind_pure_apply] at hrun ⊢
      obtain ⟨data, hstream, rfl⟩ := Outcome.map_eq_ok_iff.1 hrun
      obtain ⟨hlength, hfetched⟩ := Streamer.stream_delivers hstream
      obtain ⟨script, hscripts, hconnect⟩ := hreached.script
      obtain ⟨before, id, timeout, hevents, hbefore⟩ := hreached.probed
      refine ⟨e, he, data, rfl, hlength, ?_⟩
      rw [Run.prepend_notes, events_append, hevents, List.append_assoc]
      exact .read hscripts hconnect hbefore hfetched
  | unreached hf =>
      rw [bind_of_fault hselect] at hrun
      cases hrun
  | escaped hf hbrings =>
      rw [bind_of_fault hselect] at hrun
      cases hrun

end ReplicaRead
