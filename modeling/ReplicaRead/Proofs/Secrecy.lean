import Mathlib.Data.List.Forall2
import ReplicaRead.Proofs.Agreement.Retrieval
import ReplicaRead.Proofs.Fetching
import ReplicaRead.Proofs.Framing.Frames
import ReplicaRead.Proofs.Probing
import ReplicaRead.Proofs.Session.Traffic
import ReplicaRead.Retrieval

/-!
# The secrecy of tokens

A token travels at the end of the request, and nothing else depends on it. So two calls that differ
in the token alone cannot be told apart but by the ends of what they send.

Algorithm: two runs are compared part by part. Most parts send nothing, and do not know the token;
for them a run is compared with itself. Only the exchange of the request for the status differs.

Results: `Run.Conceals`, what two runs have in common that differ in the token, and
`readBlock_conceals`.
-/

namespace ReplicaRead

open Act

/-- The notes are the same, or both send a request, of the same fields with one token or the other
behind its length. -/
inductive Note.Conceals (token token' : Bytes) : Note → Note → Prop where
  | same {n : Note} (h : n.sent? = none) : Conceals token token' n n
  | sent (id : Nat) (fields : Bytes) :
      Conceals token token' (.send id (fields ++ Word.ofNat 4 token.length ++ token))
        (.send id (fields ++ Word.ofNat 4 token'.length ++ token'))

/-- The runs end alike and in one state, and differ only in the tokens that they send. -/
structure Run.Conceals {σ α : Type} (token token' : Bytes) (r r' : Run σ α) : Prop where
  outcome : r.outcome = r'.outcome
  notes : List.Forall₂ (Note.Conceals token token') r.notes r'.notes
  state : r.state = r'.state

section Rules

variable {σ τ α β : Type} {token token' : Bytes}

/-! ### Actions that send nothing -/

namespace Act

/-- An action that sends nothing. -/
def Silent (p : Act σ α) : Prop :=
  p.Keeps (fun _ => True) fun n => n.sent? = none

theorem Silent.of_notes {p : Act σ α} (h : ∀ s, ∀ n ∈ (p s).notes, n.sent? = none) : p.Silent :=
  fun s _ => ⟨trivial, h s⟩

theorem Silent.andFinally {p : Act σ α} {last : Act σ Unit} (hp : p.Silent) (hlast : last.Silent) :
    (p.andFinally last).Silent := by
  refine .of_notes fun s n hn => ?_
  rcases andFinally_notes p last s with hnotes | hnotes
  · rw [hnotes] at hn
    exact (hp s trivial).notes n hn
  · rw [hnotes] at hn
    rcases List.mem_append.1 hn with hn | hn
    · exact (hp s trivial).notes n hn
    · exact (hlast _ trivial).notes n hn

theorem Silent.inside {p : Act τ α} (hp : p.Silent) (t : τ) : (Act.inside t p : Act σ α).Silent :=
  .of_notes fun _ => (hp t trivial).notes

/-- A run in which nothing is sent does not know the token. -/
theorem Silent.conceals {p : Act σ α} (hp : p.Silent) (s : σ) :
    (p s).Conceals token token' (p s) := by
  exact ⟨rfl, List.forall₂_same.2 fun n hn => .same ((hp s trivial).notes n hn), rfl⟩

end Act

/-! ### Runs that differ in the token -/

theorem Run.Conceals.prepend {r r' : Run σ α} {notes notes' : List Note}
    (h : r.Conceals token token' r')
    (hnotes : List.Forall₂ (Note.Conceals token token') notes notes') :
    (r.prepend notes).Conceals token token' (r'.prepend notes') :=
  ⟨h.outcome, List.rel_append hnotes h.notes, h.state⟩

theorem Act.bind_conceals {p q : Act σ α} {f g : α → Act σ β} {s : σ}
    (h : (p s).Conceals token token' (q s))
    (hnext : ∀ a s, (f a s).Conceals token token' (g a s)) :
    ((p >>= f) s).Conceals token token' ((q >>= g) s) := by
  obtain ⟨houtcome, hnotes, hstate⟩ := h
  cases hp : p s with
  | mk o notes t =>
      cases hq : q s with
      | mk o' notes' t' =>
          rw [hp, hq] at houtcome hnotes hstate
          cases houtcome
          cases hstate
          cases o with
          | ok a =>
              rw [bind_of_ok hp, bind_of_ok hq]
              exact (hnext a t).prepend hnotes
          | fault e =>
              rw [bind_of_fault hp, bind_of_fault hq]
              exact ⟨rfl, hnotes, rfl⟩
          | unfinished =>
              rw [bind_of_unfinished hp, bind_of_unfinished hq]
              exact ⟨rfl, hnotes, rfl⟩

theorem Act.recover_conceals {p q : Act σ α} {handled : Fault → Bool} {handler : Fault → Act σ α}
    {s : σ} (h : (p s).Conceals token token' (q s)) (hhandler : ∀ e, (handler e).Silent) :
    (p.recover handled handler s).Conceals token token' (q.recover handled handler s) := by
  obtain ⟨houtcome, hnotes, hstate⟩ := h
  cases hp : p s with
  | mk o notes t =>
      cases hq : q s with
      | mk o' notes' t' =>
          rw [hp, hq] at houtcome hnotes hstate
          cases houtcome
          cases hstate
          cases o with
          | ok a =>
              rw [recover_of_ok hp, recover_of_ok hq]
              exact ⟨rfl, hnotes, rfl⟩
          | fault e =>
              cases he : handled e with
              | true =>
                  rw [recover_of_handled hp he, recover_of_handled hq he]
                  exact ((hhandler e).conceals t).prepend hnotes
              | false =>
                  rw [recover_of_unhandled hp he, recover_of_unhandled hq he]
                  exact ⟨rfl, hnotes, rfl⟩
          | unfinished =>
              rw [recover_of_unfinished hp, recover_of_unfinished hq]
              exact ⟨rfl, hnotes, rfl⟩

theorem Act.making_conceals {p q : Act (σ × τ) Unit} {s : σ} {t : τ}
    (h : (p (s, t)).Conceals token token' (q (s, t))) :
    (making t p s).Conceals token token' (making t q s) := by
  obtain ⟨houtcome, hnotes, hstate⟩ := h
  cases hp : p (s, t) with
  | mk o notes u =>
      cases hq : q (s, t) with
      | mk o' notes' u' =>
          rw [hp, hq] at houtcome hnotes hstate
          cases houtcome
          cases hstate
          unfold making
          rw [hp, hq]
          cases o with
          | ok a | fault e | unfinished =>
              exact ⟨rfl, hnotes, rfl⟩

end Rules

/-! ### The request -/

/-- A request and the same with another token both have no frame, or they have frames that differ
only in the token and its length, which come last. -/
theorem Request.encode_token {request : Request} {token' : Bytes}
    (h : request.token.length < Word.count 4) (h' : token'.length < Word.count 4) :
    (request.encode = .error .unencodable ∧
      { request with token := token' }.encode = .error .unencodable) ∨
    ∃ fields, request.encode =
        .ok (fields ++ Word.ofNat 4 request.token.length ++ request.token) ∧
      { request with token := token' }.encode =
        .ok (fields ++ Word.ofNat 4 token'.length ++ token') := by
  by_cases hfits : request.Fits
  · obtain ⟨payload, hencode⟩ := (encode_eq_ok_iff request).2 hfits
    obtain ⟨blockId, stamp, offset, length, name, token, hblock, hstamp, hoffset, hlength, hname,
      htoken, rfl⟩ := encode?_eq_some_iff.1 (encode_eq_ok_iff_encode?.1 hencode)
    let fields := Word.ofNat 2 (Word.wrap 2 version) ++ (Word.ofNat 1 opcode ++ (blockId ++
      (stamp ++ (offset ++ (length ++ name)))))
    have hcounted : ∀ t : Bytes, t.length < Word.count 4 →
        { request with token := t }.encode =
          .ok (fields ++ Word.ofNat 4 t.length ++ t) := by
      intro t ht
      refine encode_eq_ok_iff_encode?.2 (encode?_eq_some_iff.2 ⟨blockId, stamp, offset, length,
        name, _, hblock, hstamp, hoffset, hlength, hname, if_pos ht, ?_⟩)
      simp only [fields, List.append_assoc]
    exact Or.inr ⟨fields, hcounted request.token h, hcounted token' h'⟩
  · refine Or.inl ⟨encode_of_not_fits hfits, encode_of_not_fits ?_⟩
    intro hother
    exact hfits ⟨hother.blockId, hother.stamp, hother.offset, hother.length, hother.clientName, h⟩

namespace Reader

/-! ### Sessions -/

theorem silent_close (mode : Mode) : (close mode).Silent := by
  refine .of_notes fun reader n hn => ?_
  cases hlink : reader.link with
  | none =>
      rw [close_of_unheld hlink] at hn
      cases hn
  | some link =>
      rw [close_of_held hlink] at hn
      rcases List.mem_cons.1 hn with rfl | hn
      · rfl
      · obtain ⟨r, rfl⟩ := mem_closingLog hn
        rfl

theorem silent_read (mode : Mode) (length : Int) : (read mode length).Silent := by
  refine .of_notes fun reader n hn => ?_
  cases hlink : reader.link with
  | none =>
      rw [read_of_unheld hlink] at hn
      cases hn
  | some link =>
      rw [read_of_held hlink, List.mem_singleton] at hn
      subst hn
      rfl

section Opening

variable {request : Request} {token' : Bytes}
variable (h : request.token.length < Word.count 4) (h' : token'.length < Word.count 4)
include h h'

/-- The exchange is where the token is sent. -/
theorem exchange_conceals (mode : Mode) {reader : Reader} {link : Link}
    (hlink : reader.link = some link) :
    (exchange mode request reader).Conceals request.token token'
      (exchange mode { request with token := token' } reader) := by
  have hstatus : List.Forall₂ (Note.Conceals request.token token')
      (statusNotes mode link.id link.arrivals) (statusNotes mode link.id link.arrivals) := by
    refine List.forall₂_same.2 ?_
    intro n hn
    rcases mem_statusNotes hn with ⟨size, rfl⟩ | rfl
    · exact .same rfl
    · exact .same rfl
  rcases Request.encode_token h h' with ⟨hencode, hencode'⟩ | ⟨fields, hencode, hencode'⟩
  · rw [exchange_of_unencodable mode hencode, exchange_of_unencodable mode hencode']
    exact ⟨rfl, .nil, rfl⟩
  · cases hsend : link.sendFault with
    | some f =>
        rw [exchange_of_unsent hlink mode hencode hsend,
          exchange_of_unsent hlink mode hencode' hsend]
        exact ⟨rfl, .cons (.sent link.id fields) .nil, rfl⟩
    | none =>
        rw [exchange_of_sent hlink mode hencode hsend, exchange_of_sent hlink mode hencode' hsend]
        exact ⟨rfl, .cons (.sent link.id fields) hstatus, rfl⟩

theorem handshake_conceals (mode : Mode) {reader : Reader} {link : Link}
    (hlink : reader.link = some link) :
    (handshake mode request reader).Conceals request.token token'
      (handshake mode { request with token := token' } reader) := by
  have hfail : ∀ {α : Type} (f : Fault), (do close mode; raise f : Act Reader α).Silent :=
    fun f => (silent_close mode).bind fun _ => .raise f
  unfold handshake
  rw [get_bind, get_bind]
  refine bind_conceals (recover_conceals (exchange_conceals h h' mode hlink) fun _ => hfail _) ?_
  intro status reader'
  refine Silent.conceals ?_ reader'
  split
  · exact .note rfl
  · exact hfail _

/-- Opening a reader does not show the token but in the request. -/
theorem start_conceals (mode : Mode) (net : Network) (reader : Reader) :
    (start mode request (net, reader)).Conceals request.token token'
      (start mode { request with token := token' } (net, reader)) := by
  cases hbegins : Network.begins mode reader.timeout with
  | false =>
      rw [start_of_untimely _ hbegins, start_of_untimely _ hbegins]
      exact ⟨rfl, .nil, rfl⟩
  | true =>
      cases hanswer : net.answer reader.endpoint with
      | error f =>
          rw [start_of_unanswered _ hbegins hanswer, start_of_unanswered _ hbegins hanswer]
          exact ⟨rfl, .cons (.same rfl) .nil, rfl⟩
      | ok link =>
          have hhandshake := handshake_conceals h h' mode
            (rfl : ({ reader with link := some link } : Reader).link = some link)
          rw [start_of_answered _ hbegins hanswer, start_of_answered _ hbegins hanswer,
            hhandshake.outcome, hhandshake.state]
          exact ⟨rfl, .cons (.same rfl) hhandshake.notes, rfl⟩

end Opening

end Reader

/-! ### Choosing and reading -/

theorem silent_probe (mode : Mode) (endpoint : Endpoint) (timeout : Binary64) :
    (probe mode endpoint timeout).Silent := by
  refine .of_notes fun net n hn => ?_
  cases hbegins : Network.begins mode timeout with
  | false =>
      rw [probe_of_untimely hbegins] at hn
      cases hn
  | true =>
      rw [probe_apply hbegins] at hn
      rcases List.mem_cons.1 hn with rfl | hn
      · rfl
      · rcases mem_probeNotes hn with ⟨id, rfl⟩ | ⟨m, rfl⟩
        · rfl
        · rfl

theorem Selection.silent_select (mode : Mode) (candidates : List Endpoint) (timeout : Binary64) :
    (select (networkProber mode) candidates timeout).Silent := by
  have hdraw : ∀ n, ((networkProber mode).draw n).Silent := by
    intro n
    refine .of_notes fun net note hnote => ?_
    have hrun : (networkProber mode).draw n net = _ := Network.draw_apply n net
    rw [hrun, List.mem_singleton] at hnote
    subst hnote
    rfl
  unfold select
  split
  · exact .raise _
  · exact search_keeps hdraw (fun e => silent_probe mode e timeout) (fun _ _ => rfl) candidates _ _

namespace Streamer

theorem silent_collect (mode : Mode) (loop : ReadLoop) :
    (collect (nodeSessions mode) loop).Silent := by
  refine .of_notes fun reader => ?_
  have hrun : collect (nodeSessions mode) loop reader = _ :=
    bind_pure_apply (loop.fill (nodeSessions mode).read (loop.readsAllowed reader.supply))
      ReadLoop.received reader
  have hread : ∀ n, ((nodeSessions mode).read n).Silent := fun n => Reader.silent_read mode n
  rw [hrun]
  exact (ReadLoop.fill_keeps hread (fun _ => rfl) _ loop reader trivial).notes

/-- Reading a range does not show the token but in the request. -/
theorem stream_conceals {task : Task} {credential' : Credential} (mode : Mode)
    (streamer : Streamer) (net : Network) (h : task.credential.token.length < Word.count 4)
    (h' : credential'.token.length < Word.count 4) :
    (stream (nodeSessions mode) streamer task net).Conceals task.credential.token credential'.token
      (stream (nodeSessions mode) streamer { task with credential := credential' } net) := by
  unfold stream
  refine bind_conceals (Silent.conceals (.ofExcept _) net) ?_
  intro amount net
  split
  · exact Silent.conceals (.pure _) net
  · refine bind_conceals (Silent.conceals (.ofExcept _) net) ?_
    intro loop net
    have hrequest : (streamer.opening task amount).request.token.length < Word.count 4 := h
    refine bind_conceals (making_conceals (Reader.start_conceals hrequest h' mode net _)) ?_
    intro reader net
    have hclose : (nodeSessions mode).close.Silent := Reader.silent_close mode
    exact (((silent_collect mode loop).andFinally hclose).inside reader).conceals net

end Streamer

/-- The token is never shown. Two calls that differ in the credential end alike, with the same value
or the same fault and causes, log the same, and do the same on the network, except that each sends
its own token at the end of the request. -/
theorem readBlock_conceals {credential credential' : Credential} (mode : Mode) (viewer : Viewer)
    (view : View) (net : Network) (h : credential.token.length < 2 ^ 32)
    (h' : credential'.token.length < 2 ^ 32) :
    (readBlock mode viewer { view with credential := credential } net).Conceals credential.token
      credential'.token (readBlock mode viewer { view with credential := credential' } net) := by
  unfold readBlock
  refine bind_conceals ((Selection.silent_select mode _ _).conceals net) ?_
  intro endpoint net
  let task : Streamer.Task := ⟨endpoint, view.block, credential, view.range⟩
  have htask : task.credential.token.length < Word.count 4 := h
  refine bind_conceals (Streamer.stream_conceals mode _ net htask h') ?_
  intro data net
  exact Silent.conceals (.pure _) net

/-- A call with a token and one without it on a network that hesitates, where both are sent. -/
theorem readBlock_conceals_patient :
    ([107, 101, 121] : Bytes).length < 2 ^ 32 ∧ ([] : Bytes).length < 2 ^ 32 ∧
      (readBlock .async (viewerWithin (.ofInt 1))
        { threeBytes with credential := ⟨[107, 101, 121]⟩ } patient).Conceals [107, 101, 121] []
      (readBlock .async (viewerWithin (.ofInt 1))
        { threeBytes with credential := ⟨[]⟩ } patient) ∧
      (sends (readBlock .async (viewerWithin (.ofInt 1))
        { threeBytes with credential := ⟨[107, 101, 121]⟩ } patient).notes).length = 1 := by
  have h : ([107, 101, 121] : Bytes).length < 2 ^ 32 := by decide
  have h' : ([] : Bytes).length < 2 ^ 32 := by decide
  exact ⟨h, h', readBlock_conceals .async _ threeBytes patient h h', by decide +kernel⟩

end ReplicaRead
