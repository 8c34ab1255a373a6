import ReplicaRead.Proofs.Fetching

/-!
# The traffic on a connection

What is done on a connection is told from the notes: which attempts were made, what was sent, and,
by repeating the reads, how many bytes were taken. A session talks in a fixed order. The exchange
comes first and takes the status; if the request is granted, reads of data follow, each of which
asks for what is missing, but at most for as much as the buffer holds.

Results: `Asking` and `Conversation`, the order of the notes of a session; `Conversation.read` and
`Conversation.volume_le`, what is asked for and how much is taken; and `Streamer.fetch_converses`:
every fetch on a connection is such a conversation, whatever faults are met.
-/

namespace ReplicaRead

open Act Arrivals

/-! ### Attempts, requests and reads among notes -/

/-- The number and the endpoint of an attempt to connect. -/
def Note.attempt? : Note → Option (Nat × Endpoint)
  | connect id endpoint _ => some (id, endpoint)
  | _ => none

/-- What was sent, with the connection. -/
def Note.sent? : Note → Option (Nat × Bytes)
  | send id payload => some (id, payload)
  | _ => none

/-- The attempts to connect among notes. -/
def connects (notes : List Note) : List (Nat × Endpoint) :=
  notes.filterMap Note.attempt?

/-- What was sent, in order. -/
def sends (notes : List Note) : List (Nat × Bytes) :=
  notes.filterMap Note.sent?

/-- What is left to arrive on a connection after the reads among notes. -/
def Arrivals.left (mode : Mode) (arrivals : List Arrival) : List Note → List Arrival
  | [] => arrivals
  | .receive _ size :: notes => left mode (receiveSized mode size arrivals).2 notes
  | .receiveExactly _ size :: notes => left mode (receiveExactly size [] arrivals).2 notes
  | _ :: notes => left mode arrivals notes

theorem Arrivals.left_append (mode : Mode) (arrivals : List Arrival) (notes notes' : List Note) :
    left mode arrivals (notes ++ notes') = left mode (left mode arrivals notes) notes' := by
  induction notes generalizing arrivals with
  | nil =>
      rfl
  | cons n notes ih =>
      cases n <;> exact ih _

/-- The notes of a session that send nothing and read nothing: its log, and its closing. -/
def Note.IsIdle (id : Nat) : Note → Prop
  | .close i => i = id
  | .record _ => True
  | _ => False

theorem Note.IsIdle.eq {id : Nat} {n : Note} (h : n.IsIdle id) :
    n = .close id ∨ ∃ r, n = .record r := by
  cases n with
  | close i =>
      exact Or.inl (congrArg Note.close h)
  | record r =>
      exact Or.inr ⟨r, rfl⟩
  | _ =>
      exact h.elim

theorem Arrivals.left_cons_of_idle {id : Nat} {n : Note} (hn : n.IsIdle id) (mode : Mode)
    (arrivals : List Arrival) (notes : List Note) :
    left mode arrivals (n :: notes) = left mode arrivals notes := by
  rcases hn.eq with rfl | ⟨r, rfl⟩
  · rfl
  · rfl

theorem Arrivals.left_of_idle {id : Nat} {notes : List Note} (h : ∀ n ∈ notes, n.IsIdle id)
    (mode : Mode) (arrivals : List Arrival) : left mode arrivals notes = arrivals := by
  induction notes with
  | nil =>
      rfl
  | cons n notes ih =>
      rw [left_cons_of_idle (h n List.mem_cons_self)]
      exact ih fun m hm => h m (List.mem_cons_of_mem _ hm)

theorem Reader.idle_closing (mode : Mode) (endpoint : Endpoint) (link : Link) :
    ∀ n ∈ .close link.id :: closingLog mode endpoint link, n.IsIdle link.id := by
  intro n hn
  rcases List.mem_cons.1 hn with rfl | hn
  · rfl
  · obtain ⟨r, rfl⟩ := mem_closingLog hn
    trivial

/-! ### The status -/

namespace Reader

theorem left_statusNotes (mode : Mode) (id : Nat) (arrivals : List Arrival) :
    left mode arrivals (statusNotes mode id arrivals) = (firstTwo arrivals).2 := by
  cases mode with
  | async =>
      exact congrArg Prod.snd (receiveExactly_two arrivals)
  | sync =>
      match arrivals with
      | .ok [high] :: rest =>
          match rest with
          | [] | .error f :: rest | .ok [] :: rest | .ok [low] :: rest
          | .ok (low :: b :: bs) :: rest =>
              simp [statusNotes, left, receiveSized, Arrivals.receive, firstTwo, second]
      | [] | .error f :: rest | .ok [] :: rest | .ok [high, low] :: rest
      | .ok (high :: low :: b :: bs) :: rest =>
          simp [statusNotes, left, receiveSized, Arrivals.receive, firstTwo]

/-- The reads of an exchange leave what the exchange leaves. -/
theorem left_exchangeNotes (mode : Mode) (request : Request) (link : Link) :
    left mode link.arrivals (exchangeNotes mode request link) = unread request link := by
  unfold exchangeNotes unread
  cases request.encode with
  | error f =>
      rfl
  | ok payload =>
      cases link.sendFault with
      | some f =>
          rfl
      | none =>
          exact left_statusNotes mode link.id link.arrivals

/-- A read of the status asks for as many of its two bytes as have not been taken. -/
theorem read_statusNotes {mode : Mode} {id : Nat} {arrivals : List Arrival}
    {before after : List Note} {i : Nat} {size : Int}
    (h : statusNotes mode id arrivals = before ++ .receive i size :: after) :
    ∃ taken : Nat, volume arrivals = volume (left mode arrivals before) + taken ∧ taken < 2 ∧
      size = 2 - taken := by
  cases before with
  | nil =>
      refine ⟨0, rfl, Nat.zero_lt_two, ?_⟩
      unfold statusNotes at h
      split at h <;> cases h <;> rfl
  | cons n before =>
      -- A read that is not the first follows on a first byte.
      unfold statusNotes at h
      split at h
      · cases before with
        | nil =>
            cases h
            refine ⟨1, ?_, Nat.one_lt_two, rfl⟩
            rw [volume_ok_cons, Nat.add_comm]
            rfl
        | cons m before =>
            simp at h
      · simp at h
      · simp at h

theorem read_exchangeNotes {mode : Mode} {request : Request} {link : Link}
    {before after : List Note} {i : Nat} {size : Int}
    (h : exchangeNotes mode request link = before ++ .receive i size :: after) :
    ∃ taken : Nat, volume link.arrivals = volume (left mode link.arrivals before) + taken ∧
      taken < 2 ∧ size = 2 - taken := by
  unfold exchangeNotes at h
  split at h
  · simp at h
  · cases before <;> simp at h
  · cases before with
    | nil =>
        cases h
    | cons n before =>
        rw [List.cons_append, List.cons.injEq] at h
        obtain ⟨rfl, hstatus⟩ := h
        obtain ⟨taken, hvolume, hsize⟩ := read_statusNotes hstatus
        exact ⟨taken, hvolume, hsize⟩

/-- An exchange takes at most two bytes, and two if it brings a status. -/
theorem volume_unread (request : Request) (link : Link) :
    volume link.arrivals ≤ volume (unread request link) + 2 ∧
      ∀ high low, reply request link = .bytes high low →
        volume link.arrivals = volume (unread request link) + 2 := by
  obtain ⟨taken, hlength, hcontent, htaken⟩ := content_unread request link
  have hvolume : volume link.arrivals = taken.length + volume (unread request link) := by
    rw [volume_eq_length, hcontent, List.length_append, volume_eq_length]
  refine ⟨by omega, ?_⟩
  intro high low hreply
  rw [hvolume, htaken high low hreply, Nat.add_comm]
  rfl

theorem sends_exchangeNotes (mode : Mode) (request : Request) (link : Link) :
    sends (exchangeNotes mode request link) =
      (request.encode.toOption.map fun payload => (link.id, payload)).toList := by
  have hstatus : sends (statusNotes mode link.id link.arrivals) = [] := by
    refine List.filterMap_eq_nil_iff.2 ?_
    intro n hn
    rcases mem_statusNotes hn with ⟨size, rfl⟩ | rfl
    · rfl
    · rfl
  unfold exchangeNotes
  cases request.encode with
  | error f =>
      rfl
  | ok payload =>
      cases link.sendFault with
      | some f =>
          rfl
      | none =>
          exact congrArg ((link.id, payload) :: ·) hstatus

end Reader

/-! ### The reads of data -/

/-- Reads of what is missing, at most `buffer` bytes at a time, among notes that read nothing. -/
inductive Asking (mode : Mode) (id : Nat) (buffer : Int) :
    List Arrival → Nat → List Note → Prop where
  | ended {arrivals : List Arrival} {missing : Nat} : Asking mode id buffer arrivals missing []
  /-- A read takes some of the missing bytes, or none, if there is a buffer. -/
  | asked {arrivals : List Arrival} {missing missing' : Nat} {notes : List Note}
      (hmissing : 0 < missing) (hle : missing' ≤ missing)
      (hvolume : 0 ≤ buffer → volume arrivals + missing' =
        volume (receiveSized mode (min (missing : Int) buffer) arrivals).2 + missing)
      (hrest : Asking mode id buffer (receiveSized mode (min (missing : Int) buffer) arrivals).2
        missing' notes) :
      Asking mode id buffer arrivals missing (.receive id (min (missing : Int) buffer) :: notes)
  | idle {arrivals : List Arrival} {missing : Nat} {n : Note} {notes : List Note}
      (hn : n.IsIdle id) (hrest : Asking mode id buffer arrivals missing notes) :
      Asking mode id buffer arrivals missing (n :: notes)

namespace Asking

variable {mode : Mode} {id : Nat} {buffer : Int} {arrivals : List Arrival} {missing : Nat}
  {notes : List Note}

theorem of_idle (hnotes : ∀ n ∈ notes, n.IsIdle id) :
    Asking mode id buffer arrivals missing notes := by
  induction notes with
  | nil =>
      exact .ended
  | cons n notes ih =>
      exact .idle (hnotes n List.mem_cons_self)
        (ih fun m hm => hnotes m (List.mem_cons_of_mem _ hm))

theorem append_idle (h : Asking mode id buffer arrivals missing notes) {tail : List Note}
    (htail : ∀ n ∈ tail, n.IsIdle id) : Asking mode id buffer arrivals missing (notes ++ tail) := by
  induction h with
  | ended =>
      exact .of_idle htail
  | asked hmissing hle hvolume hrest ih =>
      exact .asked hmissing hle hvolume ih
  | idle hn hrest ih =>
      exact .idle hn ih

theorem mem (h : Asking mode id buffer arrivals missing notes) {n : Note} (hn : n ∈ notes) :
    (∃ size, n = .receive id size) ∨ n.IsIdle id := by
  induction h with
  | ended =>
      cases hn
  | asked hmissing hle hvolume hrest ih =>
      rcases List.mem_cons.1 hn with rfl | hn
      · exact Or.inl ⟨_, rfl⟩
      · exact ih hn
  | idle hidle hrest ih =>
      rcases List.mem_cons.1 hn with rfl | hn
      · exact Or.inr hidle
      · exact ih hn

/-- A read asks for what is missing after the bytes taken before it. -/
theorem read (h : Asking mode id buffer arrivals missing notes) (hbuffer : 0 ≤ buffer)
    {before after : List Note} {i : Nat} {size : Int} (hsplit : notes = before ++ .receive i size :: after) :
    ∃ received, volume arrivals = volume (left mode arrivals before) + received ∧
      received < missing ∧ size = min ((missing : Int) - received) buffer := by
  induction h generalizing before with
  | ended =>
      simp at hsplit
  | @asked arrivals missing missing' notes hmissing hle hvolume hrest ih =>
      cases before with
      | nil =>
          cases hsplit
          refine ⟨0, rfl, hmissing, ?_⟩
          rw [Int.natCast_zero, Int.sub_zero]
      | cons n before =>
          cases hsplit
          obtain ⟨received, hbefore, hreceived, hsize⟩ := ih rfl
          have htaken := hvolume hbuffer
          refine ⟨received + (missing - missing'), ?_, by omega, ?_⟩
          · show _ = volume (left mode (receiveSized mode _ _).2 before) + _
            omega
          · rw [hsize]
            omega
  | idle hn hrest ih =>
      cases before with
      | nil =>
          cases hsplit
          exact hn.elim
      | cons n before =>
          cases hsplit
          rw [left_cons_of_idle hn]
          exact ih rfl

/-- No more bytes are taken than were missing. -/
theorem volume_le (h : Asking mode id buffer arrivals missing notes) (hbuffer : 0 ≤ buffer) :
    volume arrivals ≤ volume (left mode arrivals notes) + missing := by
  induction h with
  | ended =>
      exact Nat.le_add_right _ _
  | @asked arrivals missing missing' notes hmissing hle hvolume hrest ih =>
      have htaken := hvolume hbuffer
      show _ ≤ volume (left mode (receiveSized mode _ _).2 notes) + _
      omega
  | idle hn hrest ih =>
      rw [left_cons_of_idle hn]
      exact ih

end Asking

/-- Whatever the loop meets, it asks for what is missing. -/
theorem ReadLoop.fill_asking (mode : Mode) (reads : Nat) (loop : ReadLoop) (reader : Reader)
    (link : Link) (h : reader.link = some link) :
    Asking mode link.id reader.bufferSize link.arrivals loop.remaining
      (fill (nodeSessions mode).read reads loop reader).notes := by
  induction reads generalizing loop reader link with
  | zero =>
      by_cases hrem : loop.remaining = 0
      · rw [fill_of_done hrem]
        exact .ended
      · rw [fill, if_neg hrem]
        exact .ended
  | succ reads ih =>
      by_cases hrem : loop.remaining = 0
      · rw [fill_of_done hrem]
        exact .ended
      · rw [fill_of_missing hrem]
        have hmissing := Nat.pos_of_ne_zero hrem
        have hvolume : 0 ≤ reader.bufferSize → _ := fun hbuffer =>
          volume_receive (wanted_nonneg loop hbuffer) mode link.arrivals
        have next := fun loop' =>
          ih loop' (reader.advanced mode link (loop.wanted reader)) _ rfl
        cases hpiece : receivePiece mode (loop.wanted reader) link.arrivals with
        | ok bs =>
            have hfits : (bs.take loop.remaining).length ≤ loop.remaining :=
              List.length_take_le _ _
            have htaken := remaining_taken hfits
            have hbrought : 0 ≤ reader.bufferSize →
                volume link.arrivals + (loop.taken (bs.take loop.remaining)).remaining =
                  volume (receiveSized mode (loop.wanted reader) link.arrivals).2 +
                    loop.remaining := by
              intro hbuffer
              have hwhole := hvolume hbuffer
              rw [List.take_of_length_le (length_le_of_piece hbuffer hpiece)] at htaken ⊢
              rw [hpiece, used, bytes_map_ok] at hwhole
              omega
            rw [bind_of_ok (step_of_piece h hpiece)]
            exact .asked hmissing (by omega) hbrought (next _)
        | error f =>
            -- A failure takes no bytes, and as much is missing after it as before.
            have hlost : 0 ≤ reader.bufferSize → volume link.arrivals + loop.remaining =
                volume (receiveSized mode (loop.wanted reader) link.arrivals).2 +
                  loop.remaining := by
              intro hbuffer
              have hnothing := hvolume hbuffer
              rw [hpiece, used, bytes_error_cons, bytes_nil, List.length_nil, Nat.zero_add]
                at hnothing
              rw [hnothing]
            by_cases hsystem : f.isSystem = true
            · by_cases hspent : loop.retriesLeft = 0
              · rw [bind_of_fault (step_of_spent h hpiece hsystem hspent)]
                exact .asked hmissing (Nat.le_refl _) hlost .ended
              · rw [bind_of_ok (step_of_charged h hpiece hsystem hspent)]
                exact .asked hmissing (Nat.le_refl _) hlost (.idle trivial (next loop.charged))
            · rw [bind_of_fault (step_of_escaped h mode hpiece (Bool.eq_false_iff.2 hsystem))]
              exact .asked hmissing (Nat.le_refl _) hlost .ended

/-- So do collecting and closing. -/
theorem Streamer.collect_asking (mode : Mode) (loop : ReadLoop) {reader : Reader} {link : Link}
    (h : reader.link = some link) :
    Asking mode link.id reader.bufferSize link.arrivals loop.remaining
      ((collect (nodeSessions mode) loop).andFinally (nodeSessions mode).close reader).notes := by
  obtain ⟨arrivals, hheld⟩ := (collect_keeps mode link loop reader ⟨_, h⟩).state
  have hclose : (nodeSessions mode).close (collect (nodeSessions mode) loop reader).state = _ :=
    Reader.close_of_held hheld mode
  have hcollect : Asking mode link.id reader.bufferSize link.arrivals loop.remaining
      (collect (nodeSessions mode) loop reader).notes := by
    have hrun : collect (nodeSessions mode) loop reader = _ :=
      bind_pure_apply (loop.fill (nodeSessions mode).read (loop.readsAllowed reader.supply))
        ReadLoop.received reader
    rw [hrun]
    exact ReadLoop.fill_asking mode _ loop reader link h
  rcases andFinally_notes (collect (nodeSessions mode) loop) (nodeSessions mode).close reader with
    hnotes | hnotes
  · rw [hnotes]
    exact hcollect
  · rw [hnotes, hclose]
    exact hcollect.append_idle (Reader.idle_closing mode _ link)

/-! ### Whole conversations -/

/-- A note of two parts is in the first, or it comes after the first. -/
theorem split_append {notes notes' before after : List Note} {n : Note}
    (h : notes ++ notes' = before ++ n :: after) :
    (∃ within, notes = before ++ n :: within) ∨
      ∃ between, before = notes ++ between ∧ notes' = between ++ n :: after := by
  rcases List.append_eq_append_iff.1 h with ⟨between, hbefore, hrest⟩ | ⟨within, hnotes, hrest⟩
  · exact Or.inr ⟨between, hbefore, hrest⟩
  · cases within with
    | nil =>
        rw [List.append_nil] at hnotes
        exact Or.inr ⟨[], by rw [hnotes, List.append_nil], hrest.symm⟩
    | cons m within =>
        cases hrest
        exact Or.inl ⟨within, hnotes⟩

/-- The notes of a session on a connection that was made, for a request of `amount` bytes. -/
inductive Conversation (mode : Mode) (request : Request) (link : Link) (buffer : Int)
    (amount : Nat) : List Note → Prop where
  /-- The request is not granted. -/
  | unopened {rest : List Note} (hrest : ∀ n ∈ rest, n.IsIdle link.id) :
      Conversation mode request link buffer amount
        (Reader.exchangeNotes mode request link ++ rest)
  /-- The request is granted, which is logged, and data is read. -/
  | opened {r : Record} {high low : UInt8} {rest : List Note}
      (hreply : Reader.reply request link = .bytes high low)
      (hrest : Asking mode link.id buffer (Reader.unread request link) amount rest) :
      Conversation mode request link buffer amount
        (Reader.exchangeNotes mode request link ++ .record r :: rest)

namespace Conversation

variable {mode : Mode} {request : Request} {link : Link} {buffer : Int} {amount : Nat}
variable {notes : List Note}

/-- All is done on the one connection, and no other is attempted. -/
theorem mem (h : Conversation mode request link buffer amount notes) {n : Note} (hn : n ∈ notes) :
    (∃ payload, n = .send link.id payload) ∨ (∃ size, n = .receive link.id size) ∨
      n = .receiveExactly link.id 2 ∨ n.IsIdle link.id := by
  have hexchange : n ∈ Reader.exchangeNotes mode request link →
      (∃ payload, n = .send link.id payload) ∨ (∃ size, n = .receive link.id size) ∨
        n = .receiveExactly link.id 2 ∨ n.IsIdle link.id := by
    intro hn
    rcases Reader.mem_exchangeNotes hn with hsend | hreceive | hstatus
    · exact Or.inl hsend
    · exact Or.inr (Or.inl hreceive)
    · exact Or.inr (Or.inr (Or.inl hstatus))
  cases h with
  | unopened hrest =>
      rcases List.mem_append.1 hn with hn | hn
      · exact hexchange hn
      · exact Or.inr (Or.inr (Or.inr (hrest n hn)))
  | opened hreply hrest =>
      rcases List.mem_append.1 hn with hn | hn
      · exact hexchange hn
      · rcases List.mem_cons.1 hn with rfl | hn
        · exact Or.inr (Or.inr (Or.inr trivial))
        · rcases hrest.mem hn with hreceive | hidle
          · exact Or.inr (Or.inl hreceive)
          · exact Or.inr (Or.inr (Or.inr hidle))

theorem link_eq (h : Conversation mode request link buffer amount notes) {id : Nat} {size : Int}
    (hn : .receive id size ∈ notes) : id = link.id := by
  rcases h.mem hn with ⟨payload, hn⟩ | ⟨size', hn⟩ | hn | hn
  · cases hn
  · cases hn
    rfl
  · cases hn
  · exact hn.elim

theorem connects_eq_nil (h : Conversation mode request link buffer amount notes) :
    connects notes = [] := by
  refine List.filterMap_eq_nil_iff.2 ?_
  intro n hn
  rcases h.mem hn with ⟨payload, rfl⟩ | ⟨size, rfl⟩ | rfl | hidle
  · rfl
  · rfl
  · rfl
  · rcases hidle.eq with rfl | ⟨r, rfl⟩
    · rfl
    · rfl

/-- The request is sent, if it has a frame, and nothing else is. -/
theorem sends_eq (h : Conversation mode request link buffer amount notes) :
    sends notes = (request.encode.toOption.map fun payload => (link.id, payload)).toList := by
  have hidle : ∀ n : Note, n.IsIdle link.id → n.sent? = none := by
    intro n hn
    rcases hn.eq with rfl | ⟨r, rfl⟩
    · rfl
    · rfl
  have happend : ∀ rest, (∀ n ∈ rest, n.sent? = none) →
      sends (Reader.exchangeNotes mode request link ++ rest) =
        (request.encode.toOption.map fun payload => (link.id, payload)).toList := by
    intro rest hrest
    have hnone : rest.filterMap Note.sent? = [] := List.filterMap_eq_nil_iff.2 hrest
    rw [← Reader.sends_exchangeNotes mode request link, sends, List.filterMap_append, hnone,
      List.append_nil]
    rfl
  cases h with
  | unopened hrest =>
      exact happend _ fun n hn => hidle n (hrest n hn)
  | opened hreply hrest =>
      refine happend _ ?_
      intro n hn
      rcases List.mem_cons.1 hn with rfl | hn
      · rfl
      · rcases hrest.mem hn with ⟨size, rfl⟩ | hn
        · rfl
        · exact hidle n hn

/-- A read asks for what is missing of the status, or, once the status has been taken, for what is
missing of the data, but at most for as much as the buffer holds. -/
theorem read (h : Conversation mode request link buffer amount notes) (hbuffer : 0 ≤ buffer)
    {before after : List Note} {id : Nat} {size : Int}
    (hsplit : notes = before ++ .receive id size :: after) :
    id = link.id ∧ ∃ taken : Nat,
      volume link.arrivals = volume (left mode link.arrivals before) + taken ∧
        (taken < 2 ∧ size = 2 - taken ∨ ∃ received : Nat, taken = 2 + received ∧
          received < amount ∧ size = min ((amount : Int) - received) buffer) := by
  refine ⟨h.link_eq (hsplit ▸ List.mem_append_right _ List.mem_cons_self), ?_⟩
  cases h with
  | unopened hrest =>
      rcases split_append hsplit with ⟨within, hexchange⟩ | ⟨between, -, rfl⟩
      · obtain ⟨taken, hvolume, hstatus⟩ := Reader.read_exchangeNotes hexchange
        exact ⟨taken, hvolume, Or.inl hstatus⟩
      · exact (hrest _ (List.mem_append_right _ List.mem_cons_self)).elim
  | opened hreply hrest =>
      rcases split_append hsplit with ⟨within, hexchange⟩ | ⟨between, hbefore, heq⟩
      · obtain ⟨taken, hvolume, hstatus⟩ := Reader.read_exchangeNotes hexchange
        exact ⟨taken, hvolume, Or.inl hstatus⟩
      · cases between with
        | nil =>
            cases heq
        | cons n between =>
            cases heq
            obtain ⟨received, hvolume, hreceived, hsize⟩ := hrest.read hbuffer rfl
            have hleft : left mode link.arrivals before =
                left mode (Reader.unread request link) between := by
              rw [hbefore, left_append, Reader.left_exchangeNotes]
              rfl
            have hstatus := (Reader.volume_unread request link).2 _ _ hreply
            refine ⟨2 + received, ?_, Or.inr ⟨received, rfl, hreceived, hsize⟩⟩
            rw [hleft, hstatus, hvolume]
            omega

/-- At most the status and the data asked for are taken. -/
theorem volume_le (h : Conversation mode request link buffer amount notes) (hbuffer : 0 ≤ buffer) :
    volume link.arrivals ≤ volume (left mode link.arrivals notes) + (2 + amount) := by
  have hstatus := (Reader.volume_unread request link).1
  cases h with
  | unopened hrest =>
      rw [left_append, Reader.left_exchangeNotes, left_of_idle hrest]
      omega
  | @opened r high low rest hreply hrest =>
      have hdata : volume (Reader.unread request link) ≤
          volume (left mode (Reader.unread request link) (.record r :: rest)) + amount :=
        hrest.volume_le hbuffer
      rw [left_append, Reader.left_exchangeNotes]
      omega

end Conversation

namespace Streamer

variable {mode : Mode} {streamer : Streamer} {task : Task} {net : Network} {amount : Nat}

/-- A fetch on a connection that is made is a conversation, and no other attempt follows. -/
theorem fetch_converses {link : Link}
    (hloop : streamer.loop task amount = .ok ⟨task.endpoint, amount, [], streamer.maxRetries⟩)
    (hbegins : Network.begins mode streamer.sessionTimeout = true)
    (hanswer : net.answer task.endpoint = .ok link) :
    ∃ o talk, fetch (nodeSessions mode) streamer task amount net =
        ⟨o, .connect net.attempts task.endpoint
          (Network.shownTimeout mode streamer.sessionTimeout) :: talk,
          net.afterAttempt task.endpoint⟩ ∧
      Conversation mode (streamer.opening task amount).request link streamer.bufferSize amount
        talk := by
  let opening := streamer.opening task amount
  have hstart : Reader.start mode opening.request (net, opening.reader) = _ :=
    Reader.start_of_answered _ hbegins hanswer
  have hends := Reader.handshake_ends mode opening.request
    (rfl : ({ opening.reader with link := some link } : Reader).link = some link)
  generalize Reader.handshake mode opening.request { opening.reader with link := some link } = r
    at hstart hends
  cases hends with
  | granted hreply =>
      let loop : ReadLoop := ⟨task.endpoint, amount, [], streamer.maxRetries⟩
      have hasking := collect_asking mode loop
        (Reader.holding_link opening.reader link (Reader.unread opening.request link))
      generalize hcollect : (collect (nodeSessions mode) loop).andFinally (nodeSessions mode).close
        (opening.reader.holding link (Reader.unread opening.request link)) = r' at hasking
      have hfetch := fetch_of_opened hloop hstart hcollect
      rw [List.cons_append, List.append_assoc] at hfetch
      exact ⟨_, _, hfetch, .opened hreply hasking⟩
  | closed =>
      exact ⟨_, _, fetch_of_unopened hloop hstart,
        .unopened (Reader.idle_closing mode opening.reader.endpoint link)⟩
  | escaped houtcome hf =>
      refine ⟨_, _, fetch_of_unopened hloop hstart, ?_⟩
      rw [← List.append_nil (Reader.exchangeNotes mode opening.request link)]
      exact .unopened nofun

end Streamer
end ReplicaRead
