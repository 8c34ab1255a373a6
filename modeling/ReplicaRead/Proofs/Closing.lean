import ReplicaRead.Proofs.RangeRead

/-!
# The closing of connections

A range is read over at most one connection. Every way out of the reading closes it once, but for
one: a request with a field that does not fit its place is found out after the connection has been
made, by a fault that nobody handles.

Results: `Closes`, which counts the closings among notes; `Reader.handshake_closes`, the ways out of
a handshake; and `Streamer.stream_closesAll_iff`, when all connections are closed.
-/

namespace ReplicaRead

open Act Arrivals

/-- The notes of a session on a connection, with `n` closings of it. -/
structure Closes (id n : Nat) (notes : List Note) : Prop where
  count : notes.count (.close id) = n
  attempts : ∀ m ∈ notes, m.connect? = none

namespace Closes

theorem of_silent {id : Nat} {notes : List Note}
    (h : ∀ m ∈ notes, m ≠ .close id ∧ m.connect? = none) : Closes id 0 notes := by
  refine ⟨List.count_eq_zero.2 ?_, fun m hm => (h m hm).2⟩
  intro hmem
  exact (h _ hmem).1 rfl

theorem append {id m n : Nat} {notes notes' : List Note} (h : Closes id m notes)
    (h' : Closes id n notes') : Closes id (m + n) (notes ++ notes') := by
  refine ⟨?_, ?_⟩
  · rw [List.count_append, h.count, h'.count]
  · intro k hk
    rcases List.mem_append.1 hk with hk | hk
    · exact h.attempts k hk
    · exact h'.attempts k hk

theorem after_silent {id n : Nat} {notes notes' : List Note} (h : Closes id 0 notes)
    (h' : Closes id n notes') : Closes id n (notes ++ notes') := by
  have happend := h.append h'
  rw [Nat.zero_add] at happend
  exact happend

theorem closing (mode : Mode) (endpoint : Endpoint) (link : Link) :
    Closes link.id 1 (.close link.id :: Reader.closingLog mode endpoint link) := by
  have hlog : Closes link.id 0 (Reader.closingLog mode endpoint link) := by
    refine of_silent ?_
    intro m hm
    obtain ⟨r, rfl⟩ := Reader.mem_closingLog hm
    exact ⟨Note.noConfusion, rfl⟩
  have hclose : Closes link.id 1 [.close link.id] := by
    refine ⟨List.count_singleton_self, ?_⟩
    intro m hm
    rw [List.mem_singleton] at hm
    subst hm
    rfl
  exact hclose.append hlog

end Closes

/-- All faults of a script after connecting are failures of the system. -/
structure Script.FailsBySystem (script : Script) : Prop where
  receive : ∀ f, .error f ∈ script.arrivals → f.isSystem = true
  send : ∀ f, script.sendFault = some f → f.isSystem = true
  close : ∀ f, script.closeFault = some f → f.isSystem = true

namespace Reader

section Handshake

variable {request : Request} {reader : Reader} {script : Script} {id : Nat}

theorem closes_exchangeNotes (mode : Mode) (request : Request) (link : Link) :
    Closes link.id 0 (exchangeNotes mode request link) := by
  refine Closes.of_silent ?_
  intro m hm
  rcases mem_exchangeNotes hm with ⟨payload, rfl⟩ | ⟨size, rfl⟩ | rfl
  · exact ⟨Note.noConfusion, rfl⟩
  · exact ⟨Note.noConfusion, rfl⟩
  · exact ⟨Note.noConfusion, rfl⟩

/-- An exchange of a request that fits fails only in ways that fail the handshake. -/
theorem failsHandshake_of_reply {mode : Mode} {payload : Bytes} {f : Fault}
    (hencode : request.encode = .ok payload) (hscript : script.FailsBySystem)
    (houtcome : (reply request (script.link id)).outcome mode = .fault f) :
    failsHandshake mode f = true := by
  have hsystem : ∀ g, g.isSystem = true → failsHandshake mode g = true := by
    intro g hg
    simp [failsHandshake, hg]
  unfold reply at houtcome
  rw [hencode] at houtcome
  cases hsend : script.sendFault with
  | some g =>
      simp only [Script.link, hsend] at houtcome
      cases houtcome
      exact hsystem f (hscript.send f hsend)
  | none =>
      simp only [Script.link, hsend] at houtcome
      cases hpair : (firstTwo script.arrivals).1 with
      | bytes high low =>
          rw [hpair] at houtcome
          cases houtcome
      | fault g =>
          rw [hpair] at houtcome
          cases houtcome
          exact hsystem f (hscript.receive f (mem_of_firstTwo (Or.inl hpair)))
      | short got =>
          rw [hpair] at houtcome
          cases mode with
          | sync | async =>
              cases houtcome
              rfl

/-- A handshake whose request fits is granted and closes nothing, or it fails and closes its
connection once. -/
theorem handshake_closes (mode : Mode) {payload : Bytes} (hencode : request.encode = .ok payload)
    (hlink : reader.link = some (script.link id)) (hscript : script.FailsBySystem) :
    (∃ notes rest, handshake mode request reader =
        ⟨.ok (), notes, reader.holding (script.link id) rest⟩ ∧ Closes id 0 notes ∧
      (∀ f, .error f ∈ rest → .error f ∈ script.arrivals)) ∨
    (∃ f notes reader', handshake mode request reader = ⟨.fault f, notes, reader'⟩ ∧
      Closes id 1 notes) := by
  have hends := handshake_ends mode request hlink
  have hexchange := closes_exchangeNotes mode request (script.link id)
  generalize handshake mode request reader = r at hends ⊢
  cases hends with
  | granted hreply =>
      refine Or.inl ⟨_, _, rfl, ?_, fun f hf => mem_of_unread hf⟩
      refine hexchange.append (Closes.of_silent ?_)
      intro m hm
      rw [List.mem_singleton] at hm
      subst hm
      exact ⟨Note.noConfusion, rfl⟩
  | closed =>
      exact Or.inr ⟨_, _, _, rfl,
        hexchange.after_silent (Closes.closing mode reader.endpoint (script.link id))⟩
  | escaped houtcome hf =>
      rw [failsHandshake_of_reply hencode hscript houtcome] at hf
      cases hf

/-- A request that does not fit is found out on the connection, which is left as it is. -/
theorem handshake_of_unfit (mode : Mode) (hfits : ¬ request.Fits) :
    handshake mode request reader = ⟨.fault .unencodable, [], reader⟩ := by
  have hexchange := exchange_of_unencodable mode (Request.encode_of_not_fits hfits) reader
  have hescapes : failsHandshake mode .unencodable = false := by
    cases mode with
    | sync =>
        rfl
    | async =>
        rfl
  exact handshake_of_escaped hexchange hescapes

end Handshake

end Reader

namespace Streamer

/-! ### Reading a range -/

variable {streamer : Streamer} {net : Network}

/-- A run ends, and has closed the connections that it made as often as `n` says. -/
structure Closed (scripts : Endpoint → List Script) (n : Nat) (r : Run Network Bytes) : Prop where
  ends : r.outcome ≠ .unfinished
  count : ∀ id ∈ Network.made scripts r.notes, r.notes.count (.close id) = n

/-- A run that fails before it attempts to connect. -/
theorem Closed.of_silent {scripts : Endpoint → List Script} {n : Nat} {o : Outcome Bytes}
    {net : Network} (ho : o ≠ .unfinished) : Closed scripts n ⟨o, [], net⟩ :=
  ⟨ho, by simp [Network.made]⟩

/-- A run whose attempt makes no connection. -/
theorem Closed.of_unanswered {n : Nat} {endpoint : Endpoint} {f : Fault} {o : Outcome Bytes}
    {id : Nat} {timeout : Option Binary64} {net' : Network}
    (hanswer : net.answer endpoint = .error f) (ho : o ≠ .unfinished) :
    Closed net.scripts n ⟨o, [.connect id endpoint timeout], net'⟩ := by
  have hmade : Network.made net.scripts [.connect id endpoint timeout] = [] :=
    Network.made_of_unanswered hanswer (by simp) id timeout
  refine ⟨ho, ?_⟩
  intro i hi
  rw [hmade] at hi
  cases hi

/-- A run whose attempt makes a connection that it closes `n` times. -/
theorem Closed.of_answered {n : Nat} {endpoint : Endpoint} {link : Link} {o : Outcome Bytes}
    {id : Nat} {timeout : Option Binary64} {notes : List Note} {net' : Network}
    (hanswer : net.answer endpoint = .ok link) (ho : o ≠ .unfinished) (h : Closes id n notes) :
    Closed net.scripts n ⟨o, .connect id endpoint timeout :: notes, net'⟩ := by
  have hmade : Network.made net.scripts (.connect id endpoint timeout :: notes) = [id] :=
    Network.made_of_answered hanswer h.attempts id timeout
  refine ⟨ho, ?_⟩
  intro i hi
  rw [hmade, List.mem_singleton] at hi
  subst hi
  rw [List.count_cons_of_ne Note.noConfusion, h.count]

/-- Collecting from a session and closing it. -/
theorem collect_closes (mode : Mode) {reader : Reader} {link : Link} {endpoint : Endpoint}
    {amount : Nat} {retries : Int} (hlink : reader.link = some link)
    (hbuffer : 1 ≤ reader.bufferSize) (hretries : 0 ≤ retries)
    (hfaults : ∀ f, .error f ∈ link.arrivals → f.isSystem = true)
    (hclose : ∀ f, link.closeFault = some f → f.isSystem = true) :
    ∃ o notes reader', (collect (nodeSessions mode) ⟨endpoint, amount, [], retries⟩).andFinally
        (nodeSessions mode).close reader = ⟨o, notes, reader'⟩ ∧ o ≠ .unfinished ∧
      Closes link.id 1 notes := by
  have hexact := collect_exact mode reader endpoint amount hlink hbuffer hfaults hretries
  have hends := hexact.ne_unfinished
  refine ⟨_, _, _, collect_close _ hlink hclose hends, hends, ?_⟩
  refine Closes.after_silent (Closes.of_silent ?_) (Closes.closing mode _ link)
  intro m hm
  have hreading := (collect_keeps mode link ⟨endpoint, amount, [], retries⟩ reader ⟨_, hlink⟩).notes
    m hm
  cases m with
  | receive id size =>
      exact ⟨Note.noConfusion, rfl⟩
  | record r =>
      exact ⟨Note.noConfusion, rfl⟩
  | _ =>
      exact hreading.elim

/-- Every way out of a fetch closes the connection once if the request fits, and leaves it open
otherwise. -/
theorem fetch_closed (mode : Mode) (task : Task) (amount : Nat) (hbuffer : 1 ≤ streamer.bufferSize)
    (hretries : 0 ≤ streamer.maxRetries)
    (hscripts : Network.AllScripts Script.FailsBySystem net) :
    Closed net.scripts (if (streamer.opening task amount).request.Fits then 1 else 0)
      (fetch (nodeSessions mode) streamer task amount net) := by
  rcases loop_cases streamer task amount with ⟨f, hloop⟩ | hloop
  · unfold fetch
    rw [hloop, ofExcept_error_bind]
    exact Closed.of_silent nofun
  let opening := streamer.opening task amount
  cases hbegins : Network.begins mode streamer.sessionTimeout with
  | false =>
      rw [fetch_of_untimely hloop hbegins]
      exact Closed.of_silent nofun
  | true =>
      cases hanswer : net.answer task.endpoint with
      | error f =>
          rw [fetch_of_unanswered hloop hbegins hanswer]
          exact Closed.of_unanswered hanswer nofun
      | ok link =>
          have hstart : Reader.start mode opening.request (net, opening.reader) = _ :=
            Reader.start_of_answered _ hbegins hanswer
          obtain ⟨script, hmem, -, -, rfl⟩ := Network.exists_script_of_answer hanswer
          have hscript := hscripts _ script hmem
          let reader : Reader := { opening.reader with link := some (script.link net.attempts) }
          by_cases hfits : opening.request.Fits
          · obtain ⟨payload, hencode⟩ := (Request.encode_eq_ok_iff _).2 hfits
            rw [if_pos hfits]
            rcases Reader.handshake_closes mode hencode (rfl : reader.link = _) hscript with
              ⟨notes, rest, hhandshake, hnotes, hrest⟩ | ⟨f, notes, reader', hhandshake, hnotes⟩
            · rw [hhandshake] at hstart
              obtain ⟨o, notes', reader', hcollect, ho, hnotes'⟩ :=
                collect_closes mode (Reader.holding_link reader (script.link net.attempts) rest)
                  hbuffer hretries (fun f hf => hscript.receive f (hrest f hf)) hscript.close
              rw [fetch_of_opened hloop hstart hcollect]
              exact Closed.of_answered hanswer ho (hnotes.after_silent hnotes')
            · rw [hhandshake] at hstart
              rw [fetch_of_unopened hloop hstart]
              exact Closed.of_answered hanswer nofun hnotes
          · rw [Reader.handshake_of_unfit mode hfits] at hstart
            rw [if_neg hfits, fetch_of_unopened hloop hstart]
            exact Closed.of_answered hanswer nofun (Closes.of_silent (by simp))

/-- A run has closed every connection that it made exactly once. -/
def ClosesAll (scripts : Endpoint → List Script) (r : Run Network Bytes) : Prop :=
  ∀ id ∈ Network.made scripts r.notes, r.notes.count (.close id) = 1

/-- A run that closes its connections as often as `n` says closes all once if there are none, or if
`n` is one. -/
theorem Closed.closesAll_iff {scripts : Endpoint → List Script} {n : Nat} {r : Run Network Bytes}
    (h : Closed scripts n r) :
    ClosesAll scripts r ↔ Network.made scripts r.notes = [] ∨ n = 1 := by
  constructor
  · intro hall
    cases hmade : Network.made scripts r.notes with
    | nil =>
        exact Or.inl rfl
    | cons id ids =>
        have hmem : id ∈ Network.made scripts r.notes := by
          rw [hmade]
          exact List.mem_cons_self
        exact Or.inr ((h.count id hmem).symm.trans (hall id hmem))
  · rintro (hmade | rfl)
    · intro id hid
      rw [hmade] at hid
      cases hid
    · exact h.count

/-- Reading a range ends. It closes every connection that it made exactly once, if and only if it
made none or the request for the range fits. -/
theorem stream_closesAll_iff (mode : Mode) (task : Task) (hbuffer : 1 ≤ streamer.bufferSize)
    (hretries : 0 ≤ streamer.maxRetries)
    (hscripts : Network.AllScripts Script.FailsBySystem net) :
    (stream (nodeSessions mode) streamer task net).outcome ≠ .unfinished ∧
      (ClosesAll net.scripts (stream (nodeSessions mode) streamer task net) ↔
        Network.made net.scripts (stream (nodeSessions mode) streamer task net).notes = [] ∨
          ∀ amount, task.range.effectiveLength task.block = .ok amount →
            (streamer.opening task amount).request.Fits) := by
  rcases stream_cases streamer task with ⟨o, ho, hrun⟩ |
    ⟨amount, hlength, -, hrun⟩
  · rw [hrun]
    exact ⟨ho, fun _ => Or.inl rfl, fun _ => nofun⟩
  · rw [hrun]
    have hclosed := fetch_closed mode task amount hbuffer hretries hscripts
    refine ⟨hclosed.ends, hclosed.closesAll_iff.trans (or_congr_right ?_)⟩
    constructor
    · intro hn amount' hlength'
      rw [hlength] at hlength'
      cases hlength'
      refine Classical.byContradiction fun hfits => ?_
      rw [if_neg hfits] at hn
      cases hn
    · intro hfits
      exact if_pos (hfits amount hlength)

/-- A block whose number does not fit a request. -/
def wideBlock : Task :=
  ⟨.atFirstPort "a", ⟨9223372036854775808, 0, 1⟩, {}, ⟨0, 1⟩⟩

/-- A node that grants every request, and supplies one byte. -/
def willing : Network where
  scripts _ := [{ arrivals := [.ok [0, 0], .ok [97]] }]

theorem failsBySystem_willing : willing.AllScripts Script.FailsBySystem := by
  intro endpoint script hscript
  have heq : script = { arrivals := [.ok [0, 0], .ok [97]] } := List.mem_singleton.1 hscript
  subst heq
  refine ⟨?_, nofun, nofun⟩
  intro f hf
  simp at hf

/-- The law for a request that does not fit, on a network where every request is granted. -/
theorem stream_closesAll_iff_willing :
    (stream (nodeSessions .async) modest wideBlock willing).outcome ≠ .unfinished ∧
      (ClosesAll willing.scripts (stream (nodeSessions .async) modest wideBlock willing) ↔
        Network.made willing.scripts
            (stream (nodeSessions .async) modest wideBlock willing).notes = [] ∨
          ∀ amount, wideBlock.range.effectiveLength wideBlock.block = .ok amount →
            (modest.opening wideBlock amount).request.Fits) :=
  stream_closesAll_iff .async wideBlock (by decide) (by decide) failsBySystem_willing

/-- The connection is made, the request does not fit, and the connection is left open. -/
theorem not_closesAll_wideBlock :
    1 ≤ modest.bufferSize ∧ 0 ≤ modest.maxRetries ∧ willing.AllScripts Script.FailsBySystem ∧
      ¬ ClosesAll willing.scripts (stream (nodeSessions .sync) modest wideBlock willing) := by
  refine ⟨by decide, by decide, failsBySystem_willing, ?_⟩
  intro h
  have hmade : 0 ∈ Network.made willing.scripts
      (stream (nodeSessions .sync) modest wideBlock willing).notes := by decide +kernel
  have hopen :
      (stream (nodeSessions .sync) modest wideBlock willing).notes.count (.close 0) = 0 := by
    decide +kernel
  rw [h 0 hmade] at hopen
  cases hopen

end Streamer
end ReplicaRead
