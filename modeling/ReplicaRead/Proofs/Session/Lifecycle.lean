import ReplicaRead.Proofs.Session.Calls

/-!
# The accounts of a reader and the lives of its connections

A reader counts the bytes that it has read and the reads that it has made. Each connection is made
by an attempt, sees at most one request and one status, then data is read, and in the end it may be
closed. All this is kept by every call, whatever it meets: a reader that is opened again drops the
connection it holds, and what fails leaves the counts of bytes as they are.

Algorithm: seen from one connection, a call does not touch it, begins it, reads from it or closes
it. What is true of the connection before the call and what the call does give what is true after.

Results: `touch_of_does`, what a call does to one connection; `Tracked.step` and `Ordered.step`, by
which the life of a connection and the order of its data are kept; and `performAll_lawful`.
-/

namespace ReplicaRead
namespace Reader

open Act Arrivals

/-- The notes that deal with the connection `id`. -/
def talk (id : Nat) (notes : List Note) : List Note :=
  notes.filter fun n => n.link? = some id

namespace Entry

/-- Whether data is read from the connection `id`. -/
def readsFrom (id : Nat) (e : Entry) : Bool :=
  e.call.isRead && e.before.2.heldId = some id

/-- The number of bytes that a read asks for. -/
def wanted (e : Entry) : Int :=
  match e.call with
  | .read length => min length e.before.2.bufferSize
  | _ => 0

end Entry

/-- A call opens the reader on a connection, with a handshake that succeeds. -/
structure Call.Opens (call : Call) (s : Network × Reader) (r : Run (Network × Reader) Bytes)
    (link : Link) : Prop where
  start : call.isStart = true
  done : r.outcome = .ok []
  answer : s.1.answer s.2.endpoint = .ok link

/-- An entry opens the reader on a connection. -/
def Entry.Opens (mode : Mode) (e : Entry) (link : Link) : Prop :=
  e.call.Opens e.before (e.run mode) link

/-! ### The life of a connection -/

/-- The reads of a status. -/
inductive Greeting (id : Nat) : Mode → List Note → Prop where
  | whole : Greeting id .sync [.receive id 2]
  | halves : Greeting id .sync [.receive id 2, .receive id 1]
  | exact : Greeting id .async [.receiveExactly id 2]

/-- The beginning of a connection: an attempt to connect, at most one request, and at most one
status. -/
inductive Begun (mode : Mode) (id : Nat) : List Note → Prop where
  | connected {endpoint : Endpoint} {timeout : Option Binary64} :
      Begun mode id [.connect id endpoint timeout]
  | sent {endpoint : Endpoint} {timeout : Option Binary64} {payload : Bytes} :
      Begun mode id [.connect id endpoint timeout, .send id payload]
  | greeted {endpoint : Endpoint} {timeout : Option Binary64} {payload : Bytes}
      {status : List Note} (hstatus : Greeting id mode status) :
      Begun mode id (.connect id endpoint timeout :: .send id payload :: status)

/-- The life of a connection on which reads of the given sizes are made. -/
inductive Life (mode : Mode) (id : Nat) (sizes : List Int) : List Note → Prop where
  | unmet (hsizes : sizes = []) : Life mode id sizes []
  | met {opening : List Note} (hbegun : Begun mode id opening) :
      Life mode id sizes (opening ++ sizes.map (.receive id))
  | closed {opening : List Note} (hbegun : Begun mode id opening) :
      Life mode id sizes (opening ++ sizes.map (.receive id) ++ [.close id])

theorem greeting_statusNotes (mode : Mode) (id : Nat) (arrivals : List Arrival) :
    Greeting id mode (statusNotes mode id arrivals) := by
  unfold statusNotes
  split
  · exact .halves
  · exact .whole
  · exact .exact

/-- An attempt and an exchange begin a connection. -/
theorem begun_exchangeNotes (mode : Mode) (request : Request) (link : Link) (endpoint : Endpoint)
    (timeout : Option Binary64) :
    Begun mode link.id (.connect link.id endpoint timeout :: exchangeNotes mode request link) := by
  unfold exchangeNotes
  split
  · exact .connected
  · exact .sent
  · exact .greeted (greeting_statusNotes mode link.id link.arrivals)

/-! ### Notes of one connection -/

section Talk

variable {id : Nat} {notes : List Note}

theorem talk_append (id : Nat) (notes notes' : List Note) :
    talk id (notes ++ notes') = talk id notes ++ talk id notes' :=
  List.filter_append notes notes'

theorem talk_of_own (h : ∀ n ∈ notes, n.link? = some id) : talk id notes = notes :=
  List.filter_eq_self.2 fun n hn => decide_eq_true (h n hn)

theorem talk_of_foreign (h : ∀ n ∈ notes, n.link? ≠ some id) : talk id notes = [] :=
  List.filter_eq_nil_iff.2 fun n hn => by simpa using h n hn

/-- Notes of a connection are kept for that connection and for no other. -/
theorem talk_of_link {i : Nat} (h : ∀ n ∈ notes, n.link? = some i) (id : Nat) :
    talk id notes = if i = id then notes else [] := by
  by_cases hid : i = id
  · rw [if_pos hid]
    exact talk_of_own fun n hn => (h n hn).trans (congrArg some hid)
  · rw [if_neg hid]
    exact talk_of_foreign fun n hn => by simpa [h n hn] using hid

theorem talk_singleton {i : Nat} {n : Note} (h : n.link? = some i) (id : Nat) :
    talk id [n] = if i = id then [n] else [] :=
  talk_of_link (fun _ hm => (List.mem_singleton.1 hm).symm ▸ h) id

theorem link_of_exchangeNotes {mode : Mode} {request : Request} {link : Link} {n : Note}
    (hn : n ∈ exchangeNotes mode request link) : n.link? = some link.id := by
  rcases mem_exchangeNotes hn with ⟨payload, rfl⟩ | ⟨size, rfl⟩ | rfl
  · rfl
  · rfl
  · rfl

theorem link_of_closingLog {mode : Mode} {endpoint : Endpoint} {link : Link} {n : Note}
    (hn : n ∈ closingLog mode endpoint link) : n.link? = none := by
  obtain ⟨r, rfl⟩ := mem_closingLog hn
  rfl

theorem talk_closing (id : Nat) (mode : Mode) (endpoint : Endpoint) (link : Link) :
    talk id (.close link.id :: closingLog mode endpoint link) =
      talk id [.close link.id] := by
  have hlog : talk id (closingLog mode endpoint link) = [] := by
    refine talk_of_foreign ?_
    intro n hn
    rw [link_of_closingLog hn]
    exact nofun
  rw [← List.singleton_append, talk_append, hlog, List.append_nil]

end Talk

namespace HandshakeEnds

variable {mode : Mode} {request : Request} {reader : Reader} {link : Link} {r : Run Reader Unit}

/-- After the exchange a connection may be closed. -/
theorem exists_closing (h : HandshakeEnds mode request reader link r) (id : Nat) :
    ∃ closing, talk id r.notes = talk id (exchangeNotes mode request link) ++ closing ∧
      (closing = [] ∨ closing = talk id [.close link.id] ∧ r.state.link = none) := by
  cases h with
  | granted hreply =>
      refine ⟨[], ?_, Or.inl rfl⟩
      rw [talk_append]
      rfl
  | closed =>
      refine ⟨talk id [.close link.id], ?_, Or.inr ⟨rfl, rfl⟩⟩
      rw [talk_append, talk_closing]
  | escaped houtcome hf =>
      exact ⟨[], (List.append_nil _).symm, Or.inl rfl⟩

/-- After a handshake that succeeds all bytes but the status are left. -/
theorem content_of_link (h : HandshakeEnds mode request reader link r) (hok : r.outcome = .ok ())
    {held : Link} (hheld : r.state.link = some held) :
    content held.arrivals = (content link.arrivals).drop 2 := by
  cases h with
  | granted hreply =>
      cases hheld
      obtain ⟨taken, -, hcontent, htaken⟩ := content_unread request link
      rw [hcontent, htaken _ _ hreply]
      rfl
  | closed | escaped houtcome hf =>
      cases hok

end HandshakeEnds

/-! ### What a call does to one connection -/

/-- The ways in which a call deals with the connection `id`. -/
inductive Touch (mode : Mode) (id : Nat) (call : Call) (s : Network × Reader)
    (r : Run (Network × Reader) Bytes) : Prop where
  /-- It leaves the connection alone. -/
  | apart (htalk : talk id r.notes = []) (hreads : Entry.readsFrom id ⟨call, s⟩ = false)
      (hheld : ∀ link, r.state.2.link = some link → link.id = id → s.2.link = some link)
      (hattempts : s.1.attempts ≤ r.state.1.attempts)
      (hopens : ∀ link, call.Opens s r link → link.id ≠ id)
  /-- It begins the connection, and may close it at once. -/
  | begins {opening closing : List Note} (hid : s.1.attempts = id)
      (hattempts : r.state.1.attempts = id + 1) (hbegun : Begun mode id opening)
      (htalk : talk id r.notes = opening ++ closing)
      (hclosing : closing = [] ∨ closing = [.close id] ∧ r.state.2.link = none)
      (hreads : Entry.readsFrom id ⟨call, s⟩ = false)
      (hopens : ∀ link held, call.Opens s r link → r.state.2.link = some held →
        content held.arrivals = (content link.arrivals).drop 2)
  | reads {link link' : Link} (hlink : s.2.link = some link) (hid : link.id = id)
      (hlink' : r.state.2.link = some link') (hreads : Entry.readsFrom id ⟨call, s⟩ = true)
      (hattempts : r.state.1.attempts = s.1.attempts)
      (htalk : talk id r.notes = [.receive id (Entry.wanted ⟨call, s⟩)])
      (hcontent : ∃ taken, content link.arrivals = taken ++ content link'.arrivals ∧
        (brought r).Sublist taken ∧ (0 ≤ Entry.wanted ⟨call, s⟩ → brought r = taken))
      (hopens : ∀ link, ¬ call.Opens s r link)
  | closes (hheld : s.2.heldId = some id) (hlink : r.state.2.link = none)
      (hreads : Entry.readsFrom id ⟨call, s⟩ = false)
      (hattempts : r.state.1.attempts = s.1.attempts) (htalk : talk id r.notes = [.close id])
      (hopens : ∀ link, ¬ call.Opens s r link)

theorem brought_of_piece (mode : Mode) (reader : Reader) (piece : Except Fault Bytes)
    (notes : List Note) (s : Network × Reader) :
    brought ⟨.ofExcept (piece.mapError (report mode reader.endpoint reader.timeout)), notes, s⟩ =
      bytes (used piece) := by
  cases piece with
  | ok bs =>
      exact (bytes_map_ok bs).symm
  | error f =>
      rfl

/-- Every call deals with every connection in one of these ways. -/
theorem touch_of_does {mode : Mode} {call : Call} {s : Network × Reader}
    {r : Run (Network × Reader) Bytes} (h : call.Does mode s r) (id : Nat) :
    Touch mode id call s r := by
  cases h with
  | untimely hbegins =>
      exact .apart rfl rfl (fun link hlink _ => hlink) (Nat.le_refl _) fun link hopens =>
        nomatch hopens.done
  | @unanswered request net reader f hanswer =>
      by_cases hid : net.attempts = id
      · subst hid
        refine .begins rfl rfl .connected ((talk_singleton rfl _).trans (if_pos rfl)) (Or.inl rfl)
          rfl fun link held hopens => nomatch hopens.done
      · exact .apart ((talk_singleton rfl id).trans (if_neg hid)) rfl (fun link hlink _ => hlink)
          (Nat.le_succ _) fun link hopens => nomatch hopens.done
  | @answered request net reader link r hbegins hanswer hends =>
      have hmade := Network.id_of_answer hanswer
      obtain ⟨closing, htalk, hclosing⟩ := hends.exists_closing id
      rw [talk_of_link fun _ => link_of_exchangeNotes] at htalk
      rw [← hmade, ← List.singleton_append]
      by_cases hid : link.id = id
      · subst hid
        rw [if_pos rfl] at htalk
        rw [talk_singleton rfl, if_pos rfl] at hclosing
        have hbegun := begun_exchangeNotes mode request link reader.endpoint
          (Network.shownTimeout mode reader.timeout)
        refine .begins hmade.symm (congrArg (· + 1) hmade.symm) hbegun ?_ hclosing rfl ?_
        · rw [talk_append, talk_singleton rfl, if_pos rfl, htalk]
          rfl
        · intro link' held hopens hheld
          cases hanswer.symm.trans hopens.answer
          obtain ⟨_, hok, -⟩ := Outcome.map_eq_ok_iff.1 hopens.done
          exact hends.content_of_link hok hheld
      · rw [if_neg hid] at htalk
        refine .apart ?_ rfl ?_ (Nat.le_succ _) ?_
        · rw [talk_append, talk_singleton rfl, if_neg hid, htalk]
          rcases hclosing with rfl | ⟨rfl, -⟩
          · rfl
          · rw [talk_singleton rfl, if_neg hid]
            rfl
        · intro held hheld hheldId
          obtain ⟨arrivals, rfl⟩ := hends.exists_arrivals hheld
          exact absurd hheldId hid
        · intro link' hopens
          cases hanswer.symm.trans hopens.answer
          exact hid
  | readUnheld hlink =>
      refine .apart rfl ?_ (fun link hlink _ => hlink) (Nat.le_refl _) fun link hopens =>
        nomatch hopens.done
      simp [Entry.readsFrom, heldId, hlink]
  | @readHeld length net reader link hlink =>
      by_cases hid : link.id = id
      · subst hid
        refine .reads hlink rfl rfl ?_ rfl ((talk_singleton rfl _).trans (if_pos rfl)) ?_
          fun link hopens => nomatch hopens.start
        · simp [Entry.readsFrom, Call.isRead, heldId, hlink]
        · rw [brought_of_piece]
          exact content_receiveSized mode _ link.arrivals
      · refine .apart ((talk_singleton rfl id).trans (if_neg hid)) ?_ ?_ (Nat.le_refl _)
          fun link hopens => nomatch hopens.start
        · simpa [Entry.readsFrom, Call.isRead, heldId, hlink] using hid
        · intro link' hlink' hid'
          cases hlink'
          exact absurd hid' hid
  | closeUnheld hlink =>
      exact .apart rfl rfl (fun link hlink _ => hlink) (Nat.le_refl _) fun link hopens =>
        nomatch hopens.start
  | @closeHeld net reader link hlink =>
      by_cases hid : link.id = id
      · subst hid
        refine .closes (heldId_eq_some_iff.2 ⟨link, hlink, rfl⟩) rfl rfl rfl ?_ fun link hopens =>
          nomatch hopens.start
        rw [talk_closing, talk_singleton rfl, if_pos rfl]
      · refine .apart ?_ rfl nofun (Nat.le_refl _) fun link hopens => nomatch hopens.start
        rw [talk_closing, talk_singleton rfl, if_neg hid]

/-! ### The life of a connection -/

/-- What is known of the connection `id` in the state after some calls. -/
inductive Tracked (mode : Mode) (id : Nat) (sizes : List Int) (trace : List Note)
    (s : Network × Reader) : Prop where
  | unmet (hsizes : sizes = []) (htrace : trace = []) (hheld : s.2.heldId ≠ some id)
  | met {opening : List Note} (hbegun : Begun mode id opening)
      (htrace : trace = opening ++ sizes.map (.receive id)) (hid : id < s.1.attempts)
  | closed {opening : List Note} (hbegun : Begun mode id opening)
      (htrace : trace = opening ++ sizes.map (.receive id) ++ [.close id])
      (hid : id < s.1.attempts) (hheld : s.2.heldId ≠ some id)

theorem Tracked.life {mode : Mode} {id : Nat} {sizes : List Int} {trace : List Note}
    {s : Network × Reader} (h : Tracked mode id sizes trace s) : Life mode id sizes trace := by
  cases h with
  | unmet hsizes htrace hheld =>
      rw [htrace]
      exact .unmet hsizes
  | met hbegun htrace hid =>
      rw [htrace]
      exact .met hbegun
  | closed hbegun htrace hid hheld =>
      rw [htrace]
      exact .closed hbegun

/-- The reads from the connection `id`. -/
def readsOn (id : Nat) (h : List Entry) : List Entry :=
  h.filter (Entry.readsFrom id)

/-- The notes of calls that deal with the connection `id`. -/
def traceOf (mode : Mode) (id : Nat) (h : List Entry) : List Note :=
  talk id (h.flatMap fun e => (e.run mode).notes)

section Append

variable {id : Nat} {e : Entry} (h : List Entry)

theorem readsOn_append_of_read (he : e.readsFrom id = true) :
    readsOn id (h ++ [e]) = readsOn id h ++ [e] := by
  rw [readsOn, List.filter_append, List.filter_cons_of_pos he]
  rfl

theorem readsOn_append_of_other (he : e.readsFrom id = false) :
    readsOn id (h ++ [e]) = readsOn id h := by
  rw [readsOn, List.filter_append, List.filter_cons_of_neg (Bool.eq_false_iff.1 he)]
  exact List.append_nil _

theorem traceOf_append (mode : Mode) (id : Nat) (e : Entry) :
    traceOf mode id (h ++ [e]) = traceOf mode id h ++ talk id (e.run mode).notes := by
  rw [traceOf, List.flatMap_append, talk_append, List.flatMap_singleton]
  rfl

end Append

/-- A call keeps track of the connection. -/
theorem Tracked.step {mode : Mode} {id : Nat} {h : List Entry} {s : Network × Reader} {call : Call}
    (htracked : Tracked mode id ((readsOn id h).map Entry.wanted) (traceOf mode id h) s)
    (htouch : Touch mode id call s (call.perform mode s)) :
    Tracked mode id ((readsOn id (h ++ [⟨call, s⟩])).map Entry.wanted)
      (traceOf mode id (h ++ [⟨call, s⟩])) (call.perform mode s).state := by
  have hnotes : (Entry.run mode ⟨call, s⟩).notes = (call.perform mode s).notes := rfl
  rw [traceOf_append, hnotes]
  cases htouch with
  | apart htalk hreads hheld hattempts hopens =>
      have hheldId : s.2.heldId ≠ some id → (call.perform mode s).state.2.heldId ≠ some id := by
        intro hne hafter
        obtain ⟨link, hlink, hid⟩ := heldId_eq_some_iff.1 hafter
        exact hne (heldId_eq_some_iff.2 ⟨link, hheld link hlink hid, hid⟩)
      rw [readsOn_append_of_other h hreads, htalk, List.append_nil]
      cases htracked with
      | unmet hsizes htrace hunheld =>
          exact .unmet hsizes htrace (hheldId hunheld)
      | met hbegun htrace hid =>
          exact .met hbegun htrace (Nat.lt_of_lt_of_le hid hattempts)
      | closed hbegun htrace hid hunheld =>
          exact .closed hbegun htrace (Nat.lt_of_lt_of_le hid hattempts) (hheldId hunheld)
  | begins hid hattempts hbegun htalk hclosing hreads hopens =>
      rw [readsOn_append_of_other h hreads, htalk]
      cases htracked with
      | unmet hsizes htrace hunheld =>
          rw [hsizes, htrace, List.nil_append]
          rcases hclosing with rfl | ⟨rfl, hlink⟩
          · exact .met hbegun rfl (hattempts ▸ Nat.lt_succ_self id)
          · refine .closed hbegun ?_ (hattempts ▸ Nat.lt_succ_self id) ?_
            · rw [List.map_nil, List.append_nil]
            · simp [heldId, hlink]
      | met hbegun' htrace hmet | closed hbegun' htrace hmet hunheld =>
          -- Attempts are numbered, so a connection that was met does not begin again.
          exact absurd hid (Nat.ne_of_gt hmet)
  | @reads link link' hlink hid hlink' hreads hattempts htalk hcontent hopens =>
      have hheld : s.2.heldId = some id := heldId_eq_some_iff.2 ⟨link, hlink, hid⟩
      rw [readsOn_append_of_read h hreads, htalk]
      cases htracked with
      | met hbegun htrace hmet =>
          refine .met hbegun ?_ (hattempts ▸ hmet)
          rw [htrace, List.append_assoc, List.map_append, List.map_append]
          rfl
      | unmet _ _ hunheld | closed _ _ _ hunheld =>
          exact absurd hheld hunheld
  | closes hheld hlink hreads hattempts htalk hopens =>
      rw [readsOn_append_of_other h hreads, htalk]
      cases htracked with
      | met hbegun htrace hmet =>
          refine .closed hbegun ?_ (hattempts ▸ hmet) ?_
          · rw [htrace]
          · simp [heldId, hlink]
      | unmet _ _ hunheld | closed _ _ _ hunheld =>
          exact absurd hheld hunheld

/-! ### The order of the data -/

/-- Reads have taken away the bytes that they returned. If none of the sizes is below zero, nothing
else has been taken away. -/
structure Takes (mode : Mode) (reads : List Entry) (taken : Bytes) : Prop where
  sublist : (reads.flatMap (Entry.data mode)).Sublist taken
  all : (∀ e ∈ reads, 0 ≤ e.wanted) → reads.flatMap (Entry.data mode) = taken

theorem Takes.append {mode : Mode} {reads : List Entry} {e : Entry} {before taken : Bytes}
    (h : Takes mode reads before) (hsublist : (e.data mode).Sublist taken)
    (hall : 0 ≤ e.wanted → e.data mode = taken) : Takes mode (reads ++ [e]) (before ++ taken) := by
  constructor
  · rw [List.flatMap_append, List.flatMap_singleton]
    exact h.sublist.append hsublist
  · intro hwanted
    obtain ⟨hreads, he⟩ := List.forall_mem_append.1 hwanted
    rw [List.flatMap_append, List.flatMap_singleton, h.all hreads,
      hall (he e (List.mem_singleton_self e))]

/-- What was taken from a connection after its status, and what is left, is what arrives. -/
def Ordered (mode : Mode) (id : Nat) (h : List Entry) (s : Network × Reader) : Prop :=
  ∀ e ∈ h, ∀ link, e.Opens mode link → link.id = id → id < s.1.attempts ∧
    ∃ taken left, (content link.arrivals).drop 2 = taken ++ left ∧ Takes mode (readsOn id h) taken ∧
      ∀ held, s.2.link = some held → held.id = id → content held.arrivals = left

/-- A call keeps the order of the data. -/
theorem Ordered.step {mode : Mode} {id : Nat} {h : List Entry} {s : Network × Reader} {call : Call}
    (hordered : Ordered mode id h s)
    (htracked : Tracked mode id ((readsOn id h).map Entry.wanted) (traceOf mode id h) s)
    (htouch : Touch mode id call s (call.perform mode s)) :
    Ordered mode id (h ++ [⟨call, s⟩]) (call.perform mode s).state := by
  intro e he opened hopened hid
  rw [List.mem_append, List.mem_singleton] at he
  cases htouch with
  | apart htalk hreads hheld hattempts hopens =>
      rw [readsOn_append_of_other h hreads]
      rcases he with he | rfl
      · obtain ⟨hlt, taken, left, hcontent, htaken, hleft⟩ := hordered e he opened hopened hid
        refine ⟨Nat.lt_of_lt_of_le hlt hattempts, taken, left, hcontent, htaken, ?_⟩
        intro held hlink hheldId
        exact hleft held (hheld held hlink hheldId) hheldId
      · exact absurd hid (hopens opened hopened)
  | begins hnext hattempts hbegun htalk hclosing hreads hopens =>
      rw [readsOn_append_of_other h hreads]
      rcases he with he | rfl
      · obtain ⟨hlt, -⟩ := hordered e he opened hopened hid
        exact absurd hnext (Nat.ne_of_gt hlt)
      · -- Nothing was read before the connection began, so all but its status is left.
        have hunread : readsOn id h = [] := by
          cases htracked with
          | unmet hsizes htrace hunheld =>
              exact List.map_eq_nil_iff.1 hsizes
          | met _ _ hmet | closed _ _ hmet _ =>
              exact absurd hnext (Nat.ne_of_gt hmet)
        rw [hunread]
        exact ⟨hattempts ▸ Nat.lt_succ_self id, [], _, rfl, ⟨List.Sublist.refl [], fun _ => rfl⟩,
          fun held hlink _ => hopens opened held hopened hlink⟩
  | @reads link link' hlink hlinkId hlink' hreads hattempts htalk hcontent hopens =>
      rw [readsOn_append_of_read h hreads]
      rcases he with he | rfl
      · obtain ⟨hlt, taken, left, hbefore, htaken, hleft⟩ := hordered e he opened hopened hid
        obtain ⟨piece, hpiece, hsublist, hall⟩ := hcontent
        refine ⟨hattempts ▸ hlt, taken ++ piece, content link'.arrivals, ?_,
          htaken.append hsublist hall, ?_⟩
        · rw [hbefore, ← hleft link hlink hlinkId, hpiece, List.append_assoc]
        · intro held hheld _
          cases hlink'.symm.trans hheld
          rfl
      · exact absurd hopened (hopens opened)
  | closes hheld hlink hreads hattempts htalk hopens =>
      rw [readsOn_append_of_other h hreads]
      rcases he with he | rfl
      · obtain ⟨hlt, taken, left, hbefore, htaken, hleft⟩ := hordered e he opened hopened hid
        refine ⟨hattempts ▸ hlt, taken, left, hbefore, htaken, ?_⟩
        intro held hheldAfter
        cases hlink.symm.trans hheldAfter
      · exact absurd hopened (hopens opened)

/-! ### The accounts -/

/-- What a call adds to the counts. -/
structure Counts (call : Call) (s : Network × Reader) (r : Run (Network × Reader) Bytes) :
    Prop where
  fetched : r.state.2.bytesFetched = s.2.bytesFetched + (brought r).length
  made : r.state.2.readsMade =
    s.2.readsMade + if call.isRead && s.2.link.isSome then 1 else 0
  size : r.state.2.bufferSize = s.2.bufferSize

theorem counts_of_does {mode : Mode} {call : Call} {s : Network × Reader}
    {r : Run (Network × Reader) Bytes} (h : call.Does mode s r) : Counts call s r := by
  cases h with
  | untimely | unanswered | closeUnheld =>
      exact ⟨rfl, rfl, rfl⟩
  | answered hbegins hanswer hends =>
      cases hends with
      | granted | closed | escaped =>
          exact ⟨rfl, rfl, rfl⟩
  | readUnheld hlink =>
      refine ⟨rfl, ?_, rfl⟩
      simp [hlink]
  | readHeld hlink =>
      refine ⟨?_, ?_, rfl⟩
      · rw [brought_of_piece]
        rfl
      · simp [advanced, Call.isRead, hlink]
  | @closeHeld net reader link hlink =>
      refine ⟨?_, rfl, rfl⟩
      cases link.closingFault mode with
      | none | some f =>
          rfl

/-- The counts after some calls. -/
structure Counted (mode : Mode) (bufferSize : Int) (h : List Entry) (s : Network × Reader) :
    Prop where
  fetched : s.2.bytesFetched = (h.flatMap (Entry.data mode)).length
  made : s.2.readsMade = h.countP fun e => e.call.isRead && e.before.2.link.isSome
  size : s.2.bufferSize = bufferSize
  sizes : ∀ e ∈ h, e.before.2.bufferSize = bufferSize

theorem Counted.step {mode : Mode} {bufferSize : Int} {h : List Entry} {s : Network × Reader}
    {call : Call} (hcounted : Counted mode bufferSize h s)
    (hcounts : Counts call s (call.perform mode s)) :
    Counted mode bufferSize (h ++ [⟨call, s⟩]) (call.perform mode s).state := by
  refine ⟨?_, ?_, hcounts.size.trans hcounted.size, ?_⟩
  · rw [hcounts.fetched, hcounted.fetched, List.flatMap_append, List.flatMap_singleton,
      List.length_append]
    rfl
  · rw [hcounts.made, hcounted.made, List.countP_append, List.countP_singleton]
  · exact List.forall_mem_append.2 ⟨hcounted.sizes, List.forall_mem_singleton.2 hcounted.size⟩

/-! ### Single calls -/

/-- A read that fails does not change the count of bytes. -/
theorem bytesFetched_of_failed {call : Call} {s : Network × Reader}
    {r : Run (Network × Reader) Bytes} (h : Counts call s r) (hfailed : ∀ bs, r.outcome ≠ .ok bs) :
    r.state.2.bytesFetched = s.2.bytesFetched := by
  have hnothing : brought r = [] := by
    unfold brought
    split
    · rename_i bs hok
      exact absurd hok (hfailed bs)
    · rfl
  rw [h.fetched, hnothing]
  rfl

/-- A read or a closing that meets no connection does nothing. -/
theorem idle_of_does {mode : Mode} {call : Call} {s : Network × Reader}
    {r : Run (Network × Reader) Bytes} (h : call.Does mode s r) (hstart : call.isStart = false)
    (hlink : s.2.link = none) : r.notes = [] ∧ r.state = s := by
  cases h with
  | readUnheld | closeUnheld =>
      exact ⟨rfl, rfl⟩
  | readHeld hheld | closeHeld hheld =>
      cases hlink.symm.trans hheld
  | untimely | unanswered | answered =>
      cases hstart

/-- A read that succeeds returns bytes, and no more than it asks for, unless it is an awaited read
to the end. -/
theorem length_of_does {mode : Mode} {length : Int} {s : Network × Reader}
    {r : Run (Network × Reader) Bytes} {bs : Bytes} (h : (Call.read length).Does mode s r)
    (hok : r.outcome = .ok bs) :
    1 ≤ bs.length ∧ ((bs.length : Int) ≤ min length s.2.bufferSize ∨
      mode = .async ∧ min length s.2.bufferSize < 0) := by
  cases h with
  | readUnheld =>
      cases hok
  | @readHeld _ net reader link hlink =>
      cases hpiece : receivePiece mode (min length reader.bufferSize) link.arrivals with
      | error f =>
          rw [hpiece] at hok
          cases hok
      | ok got =>
          rw [hpiece] at hok
          cases hok
          exact ⟨List.length_pos_iff.2 (receivePiece_ok hpiece).2, length_le_of_receivePiece hpiece⟩

/-! ### Every run -/

/-- Every entry is a call in a state that other calls lead to. -/
theorem kept_of_entries (mode : Mode) (net : Network) (endpoint : Endpoint) (timeout : Binary64)
    (bufferSize : Int) (id : Nat) (calls : List Call) :
    let s : Network × Reader := (net, { endpoint, timeout, bufferSize })
    let h := entries mode calls s
    Counted mode bufferSize h (reached mode s h) ∧
      Tracked mode id ((readsOn id h).map Entry.wanted) (traceOf mode id h) (reached mode s h) ∧
      Ordered mode id h (reached mode s h) := by
  intro s h
  refine holds_of_entries (P := fun h s => Counted mode bufferSize h s ∧
    Tracked mode id ((readsOn id h).map Entry.wanted) (traceOf mode id h) s ∧
    Ordered mode id h s) ?nil ?concat calls
  case nil =>
    have hnone : s.2.heldId ≠ some id := (Option.some_ne_none id).symm
    exact ⟨⟨rfl, rfl, rfl, fun e he => absurd he List.not_mem_nil⟩, .unmet rfl rfl hnone,
      fun e he => absurd he List.not_mem_nil⟩
  case concat =>
    intro h s call hkept
    obtain ⟨hcounted, htracked, hordered⟩ := hkept
    have hdoes := call.perform_does mode s
    have htouch := touch_of_does hdoes id
    exact ⟨hcounted.step (counts_of_does hdoes), htracked.step htouch,
      hordered.step htracked htouch⟩

/-- What is true of a reader after some calls, from the state in which it was made. -/
structure Lawful (mode : Mode) (s : Network × Reader) (h : List Entry) : Prop where
  /-- The count of bytes is the number of the bytes that were returned. -/
  fetched : (reached mode s h).2.bytesFetched = (h.flatMap (Entry.data mode)).length
  /-- The count of reads is the number of the reads that met a connection. -/
  made : (reached mode s h).2.readsMade =
    h.countP fun e => e.call.isRead && e.before.2.link.isSome
  /-- A read that fails does not change the count of bytes. -/
  failed : ∀ e ∈ h, e.call.isRead = true → (∀ bs, (e.run mode).outcome ≠ .ok bs) →
    (e.after mode).2.bytesFetched = e.before.2.bytesFetched
  /-- A read or a closing that meets no connection does nothing. -/
  idle : ∀ e ∈ h, e.call.isStart = false → e.before.2.link = none →
    (e.run mode).notes = [] ∧ e.after mode = e.before
  /-- A read that succeeds returns bytes, and no more than it is allowed to, unless it is an awaited
  read to the end. -/
  pieces : ∀ e ∈ h, ∀ length bs, e.call = .read length → (e.run mode).outcome = .ok bs →
    1 ≤ bs.length ∧ ((bs.length : Int) ≤ min length s.2.bufferSize ∨
      mode = .async ∧ min length s.2.bufferSize < 0)
  /-- Each connection begins, is read from and is closed at most once, in this order. -/
  lives : ∀ id, Life mode id ((readsOn id h).map Entry.wanted) (traceOf mode id h)
  /-- What is read from an opened connection comes after the status, in order. It is what comes
  first there, if there was no read to the end, which may lose bytes. -/
  ordered : ∀ e ∈ h, ∀ link, e.Opens mode link →
    Drawn (∀ x ∈ readsOn link.id h, 0 ≤ x.wanted) ((readsOn link.id h).flatMap (Entry.data mode))
      ((content link.arrivals).drop 2)

/-- A reader keeps its accounts and the order of its connections at every point of every run. -/
theorem performAll_lawful (mode : Mode) (ops : List Operation) (net : Network)
    (endpoint : Endpoint) (timeout : Binary64) (bufferSize : Int) :
    let s : Network × Reader := (net, { endpoint, timeout, bufferSize })
    Composed mode s (Operation.performAll mode ops s) (history mode ops s) ∧
      ∀ done, done <+: history mode ops s → Lawful mode s done := by
  intro s
  refine ⟨performAll_composed mode ops s, ?_⟩
  intro done hdone
  obtain ⟨rest, hrest⟩ := hdone
  obtain ⟨calls, -, rfl, -⟩ := exists_calls_of_split hrest.symm
  have hkept := fun id => kept_of_entries mode net endpoint timeout bufferSize id calls
  obtain ⟨hcounted, -⟩ := hkept 0
  refine ⟨hcounted.fetched, hcounted.made, ?failed, ?idle, ?pieces, ?lives, ?ordered⟩
  case failed =>
    intro e he hread hfailed
    exact bytesFetched_of_failed (counts_of_does (e.call.perform_does mode e.before)) hfailed
  case idle =>
    intro e he hstart hlink
    exact idle_of_does (e.call.perform_does mode e.before) hstart hlink
  case pieces =>
    intro e he length bs hcall hok
    have hdoes := e.call.perform_does mode e.before
    rw [hcall] at hdoes
    have hlength := length_of_does hdoes (by rw [← hcall]; exact hok)
    rwa [hcounted.sizes e he] at hlength
  case lives =>
    intro id
    exact (hkept id).2.1.life
  case ordered =>
    intro e he link hopens
    obtain ⟨-, taken, left, hcontent, htaken, -⟩ := (hkept link.id).2.2 e he link hopens rfl
    rw [hcontent]
    exact ⟨htaken.sublist.trans (List.sublist_append_left taken left),
      fun hwanted => (htaken.all hwanted).symm ▸ List.prefix_append taken left⟩

end Reader
end ReplicaRead
