import ReplicaRead.Proofs.Arrivals
import ReplicaRead.Proofs.Connecting
import ReplicaRead.Session.Reader

/-!
# The steps of a session

A reader that holds a connection goes through the same steps in both modes: it sends, reads two
bytes of status, reads data and closes. Each step is described by one equation, in which the mode
is left only where it makes a difference: in which reads bring the status, in how a fault is
reported, and in what closing can end with.

Results: `receiveStatus_of_held`, `exchange_of_held`, `read_of_held` and `close_of_held`, one
equation for each step on a connection that is held.
-/

namespace ReplicaRead

/-- What becomes of a fault that a read of data meets. -/
def Reader.report (mode : Mode) (endpoint : Endpoint) (timeout : Binary64) (f : Fault) : Fault :=
  match mode with
  | .sync => f
  | .async => if f.kind = .timeout then .noDataWithin endpoint timeout f else f

/-- The outcome of reading a status. -/
def Arrivals.Pair.outcome (mode : Mode) : Arrivals.Pair → Outcome Int
  | .bytes high low => .ok (Status.ofBytes high low)
  | .fault f => .fault f
  | .short got =>
    match mode with
    | .sync => .fault (.closedEarly got 2)
    | .async => .fault (.incomplete got 2)

theorem Arrivals.Pair.exists_of_outcome_eq_ok {mode : Mode} {pair : Pair} {status : Int}
    (h : pair.outcome mode = .ok status) : ∃ high low, pair = .bytes high low := by
  cases pair with
  | bytes high low =>
      exact ⟨high, low, rfl⟩
  | fault f =>
      cases h
  | short got =>
      cases mode with
      | sync =>
          cases h
      | async =>
          cases h

theorem Arrivals.Pair.outcome_ne_unfinished (mode : Mode) (pair : Pair) :
    pair.outcome mode ≠ .unfinished := by
  cases pair with
  | bytes high low | fault f =>
      exact nofun
  | short got =>
      cases mode with
      | sync =>
          exact nofun
      | async =>
          exact nofun

/-- The outcome of reading exactly two bytes. -/
def Arrivals.Pair.exactly : Arrivals.Pair → Arrival
  | .bytes high low => .ok [high, low]
  | .fault f => .error f
  | .short got => .error (.incomplete got 2)

/-- A read that has all the bytes it wants leaves the rest alone. -/
theorem Arrivals.receiveExactly_of_le {wanted : Nat} {got : Bytes} (h : wanted ≤ got.length)
    (arrivals : List Arrival) :
    receiveExactly wanted got arrivals = (.ok got, arrivals) := by
  match arrivals with
  | [] =>
      simp [receiveExactly, h]
  | .error f :: rest =>
      simp [receiveExactly, h]
  | .ok bs :: rest =>
      simp [receiveExactly, Nat.sub_eq_zero_of_le h]

/-- A read of exactly two bytes brings what two reads would. -/
theorem Arrivals.receiveExactly_two (arrivals : List Arrival) :
    receiveExactly 2 [] arrivals = ((firstTwo arrivals).1.exactly, (firstTwo arrivals).2) := by
  match arrivals with
  | .ok [high] :: rest =>
      match rest with
      | [] | .error f :: rest | .ok [] :: rest | .ok [low] :: rest | .ok (low :: b :: bs) :: rest =>
          simp [receiveExactly, receiveExactly_of_le, firstTwo, second, Pair.exactly]
  | [] | .error f :: rest | .ok [] :: rest | .ok [high, low] :: rest
  | .ok (high :: low :: b :: bs) :: rest =>
      simp [receiveExactly, receiveExactly_of_le, firstTwo, Pair.exactly]

namespace Reader

open Act

/-- The reader with a connection on which `arrivals` are left to arrive. -/
def holding (reader : Reader) (link : Link) (arrivals : List Arrival) : Reader :=
  { reader with link := some { link with arrivals } }

@[simp] theorem holding_link (reader : Reader) (link : Link) (arrivals : List Arrival) :
    (reader.holding link arrivals).link = some { link with arrivals } := rfl

theorem report_kind (mode : Mode) (endpoint : Endpoint) (timeout : Binary64) (f : Fault) :
    (report mode endpoint timeout f).kind = f.kind := by
  cases mode with
  | sync =>
      rfl
  | async =>
      by_cases h : f.kind = .timeout
      · simp only [report, h, if_true]
        rfl
      · simp only [report, h, if_false]

theorem report_isSystem (mode : Mode) (endpoint : Endpoint) (timeout : Binary64) (f : Fault) :
    (report mode endpoint timeout f).isSystem = f.isSystem := by
  rw [Fault.isSystem, Fault.isSystem, report_kind]

/-- Only a timeout is reported otherwise than it is met. -/
theorem report_of_escaped {f : Fault} (hf : f.isSystem = false) (mode : Mode) (endpoint : Endpoint)
    (timeout : Binary64) : report mode endpoint timeout f = f := by
  cases mode with
  | sync =>
      rfl
  | async =>
      refine if_neg ?_
      intro hkind
      rw [Fault.isSystem, hkind] at hf
      cases hf

theorem exchange_of_unencodable (mode : Mode) {request : Request} {f : Fault}
    (hencode : request.encode = .error f) (reader : Reader) :
    exchange mode request reader = ⟨.fault f, [], reader⟩ := by
  unfold exchange
  rw [hencode, ofExcept_error_bind]

/-- The reader after a read of data. -/
def advanced (reader : Reader) (mode : Mode) (link : Link) (size : Int) : Reader :=
  { reader with
    readsMade := reader.readsMade + 1
    bytesFetched := reader.bytesFetched +
      (Arrivals.bytes (Arrivals.used (Arrivals.receivePiece mode size link.arrivals))).length
    link := some { link with arrivals := (Arrivals.receiveSized mode size link.arrivals).2 } }

/-- A size that is not below zero is read alike in both modes. -/
theorem advanced_of_nonneg {size : Int} (hsize : 0 ≤ size) (reader : Reader) (link : Link) :
    reader.advanced .sync link size = reader.advanced .async link size := by
  rw [advanced, advanced, Arrivals.receivePiece_of_nonneg hsize,
    Arrivals.receiveSized_of_nonneg hsize, Arrivals.receiveSized_of_nonneg hsize]

/-- What the closing of a connection logs. -/
def closingLog (mode : Mode) (endpoint : Endpoint) (link : Link) : List Note :=
  link.swallowed mode fun f =>
    ⟨.debug, .session .async, s!"Error while closing session on {endpoint}: " ++ f.message⟩

theorem mem_closingLog {mode : Mode} {endpoint : Endpoint} {link : Link} {n : Note}
    (hn : n ∈ closingLog mode endpoint link) : ∃ r, n = .record r := by
  obtain ⟨f, rfl⟩ := Link.mem_swallowed hn
  exact ⟨_, rfl⟩

/-- The notes of reading a status. In blocking mode a status that comes in two pieces takes two
reads. -/
def statusNotes (mode : Mode) (id : Nat) (arrivals : List Arrival) : List Note :=
  match mode, arrivals with
  | .sync, .ok [_] :: _ => [.receive id 2, .receive id 1]
  | .sync, _ => [.receive id 2]
  | .async, _ => [.receiveExactly id 2]

theorem mem_statusNotes {mode : Mode} {id : Nat} {arrivals : List Arrival} {n : Note}
    (hn : n ∈ statusNotes mode id arrivals) :
    (∃ size, n = .receive id size) ∨ n = .receiveExactly id 2 := by
  unfold statusNotes at hn
  split at hn <;> simp only [List.mem_cons, List.not_mem_nil, or_false] at hn
  · rcases hn with rfl | rfl
    · exact Or.inl ⟨2, rfl⟩
    · exact Or.inl ⟨1, rfl⟩
  · exact Or.inl ⟨2, hn⟩
  · exact Or.inr hn

/-- The status that a request gets, or what comes in its place. -/
def reply (request : Request) (link : Link) : Arrivals.Pair :=
  match request.encode, link.sendFault with
  | .error f, _ => .fault f
  | .ok _, some f => .fault f
  | .ok _, none => (Arrivals.firstTwo link.arrivals).1

/-- What is left to arrive after the exchange. -/
def unread (request : Request) (link : Link) : List Arrival :=
  match request.encode, link.sendFault with
  | .ok _, none => (Arrivals.firstTwo link.arrivals).2
  | _, _ => link.arrivals

/-- A fault that is left to arrive is one of those that arrive. -/
theorem mem_of_unread {request : Request} {link : Link} {f : Fault}
    (h : .error f ∈ unread request link) : .error f ∈ link.arrivals := by
  unfold unread at h
  split at h
  · exact Arrivals.mem_of_firstTwo (Or.inr h)
  · exact h

/-- An exchange takes away at most two bytes from the front, and these two if they are a status. -/
theorem content_unread (request : Request) (link : Link) :
    ∃ taken, taken.length ≤ 2 ∧
      Arrivals.content link.arrivals = taken ++ Arrivals.content (unread request link) ∧
      ∀ high low, reply request link = .bytes high low → taken = [high, low] := by
  unfold unread reply
  cases request.encode with
  | error f =>
      exact ⟨[], Nat.zero_le 2, rfl, nofun⟩
  | ok payload =>
      cases link.sendFault with
      | some f =>
          exact ⟨[], Nat.zero_le 2, rfl, nofun⟩
      | none =>
          exact Arrivals.content_firstTwo link.arrivals

def exchangeNotes (mode : Mode) (request : Request) (link : Link) : List Note :=
  match request.encode, link.sendFault with
  | .error _, _ => []
  | .ok payload, some _ => [.send link.id payload]
  | .ok payload, none => .send link.id payload :: statusNotes mode link.id link.arrivals

/-- The notes of an exchange: what is sent comes first, and the reads of the status follow. -/
theorem mem_exchangeNotes {mode : Mode} {request : Request} {link : Link} {n : Note}
    (hn : n ∈ exchangeNotes mode request link) :
    (∃ payload, n = .send link.id payload) ∨ (∃ size, n = .receive link.id size) ∨
      n = .receiveExactly link.id 2 := by
  unfold exchangeNotes at hn
  split at hn
  · cases hn
  · exact Or.inl ⟨_, List.mem_singleton.1 hn⟩
  · rcases List.mem_cons.1 hn with rfl | hn
    · exact Or.inl ⟨_, rfl⟩
    · exact Or.inr (mem_statusNotes hn)

/-! ### Nothing held -/

section Unheld

variable {reader : Reader} (h : reader.link = none)
include h

theorem read_of_unheld (mode : Mode) (length : Int) :
    read mode length reader = ⟨.fault .notOpen, [], reader⟩ := by
  unfold read
  rw [get_bind, h]
  rfl

theorem close_of_unheld (mode : Mode) : close mode reader = ⟨.ok (), [], reader⟩ := by
  unfold close
  rw [get_bind, h]
  rfl

end Unheld

section Held

variable {reader : Reader} {link : Link} (h : reader.link = some link)
include h

/-! ### Receiving -/

theorem receive_of_held (mode : Mode) (size : Int) :
    receive mode size reader =
      ⟨.ofExcept (Arrivals.receiveSized mode size link.arrivals).1, [.receive link.id size],
        reader.holding link (Arrivals.receiveSized mode size link.arrivals).2⟩ := by
  simp [receive, h, keep, holding]

theorem receiveExactly_of_held (size : Nat) :
    receiveExactly size reader =
      ⟨.ofExcept (Arrivals.receiveExactly size [] link.arrivals).1,
        [.receiveExactly link.id size],
        reader.holding link (Arrivals.receiveExactly size [] link.arrivals).2⟩ := by
  simp [receiveExactly, h, keep, holding]

/-- The second byte of a status that comes in two pieces. -/
theorem receiveLow_of_held (high : UInt8) :
    (do
      match ← receive .sync 1 with
      | [] => raise (.closedEarly 1 2)
      | low :: _ => return Status.ofBytes high low) reader =
      ⟨(Arrivals.second high link.arrivals).1.outcome .sync, [.receive link.id 1],
        reader.holding link (Arrivals.second high link.arrivals).2⟩ := by
  have hlow := receive_of_held h .sync 1
  match harr : link.arrivals with
  | .error f :: rest =>
      rw [harr] at hlow
      rw [bind_of_fault hlow]
      rfl
  | [] | .ok [] :: rest | .ok [low] :: rest | .ok (low :: b :: bs) :: rest =>
      rw [harr] at hlow
      rw [bind_of_ok hlow]
      rfl

theorem receiveStatusSync_of_held :
    receiveStatusSync reader =
      ⟨(Arrivals.firstTwo link.arrivals).1.outcome .sync,
        statusNotes .sync link.id link.arrivals,
        reader.holding link (Arrivals.firstTwo link.arrivals).2⟩ := by
  have hfirst := receive_of_held h .sync 2
  unfold receiveStatusSync
  match harr : link.arrivals with
  | .error f :: rest =>
      rw [harr] at hfirst
      rw [bind_of_fault hfirst]
      rfl
  | .ok [high] :: rest =>
      rw [harr] at hfirst
      rw [bind_of_ok hfirst]
      have hlow := receiveLow_of_held (holding_link reader link rest) high
      exact congrArg (Run.prepend [.receive link.id 2]) hlow
  | [] | .ok [] :: rest | .ok [high, low] :: rest | .ok (high :: low :: b :: bs) :: rest =>
      rw [harr] at hfirst
      rw [bind_of_ok hfirst]
      rfl

theorem receiveStatusAsync_of_held :
    receiveStatusAsync reader =
      ⟨(Arrivals.firstTwo link.arrivals).1.outcome .async,
        statusNotes .async link.id link.arrivals,
        reader.holding link (Arrivals.firstTwo link.arrivals).2⟩ := by
  have hstatus := receiveExactly_of_held h 2
  rw [Arrivals.receiveExactly_two] at hstatus
  unfold receiveStatusAsync
  match hpair : (Arrivals.firstTwo link.arrivals).1 with
  | .bytes high low =>
      rw [hpair] at hstatus
      rw [bind_of_ok hstatus]
      rfl
  | .fault f | .short got =>
      rw [hpair] at hstatus
      rw [bind_of_fault hstatus]
      rfl

theorem receiveStatus_of_held (mode : Mode) :
    receiveStatus mode reader =
      ⟨(Arrivals.firstTwo link.arrivals).1.outcome mode, statusNotes mode link.id link.arrivals,
        reader.holding link (Arrivals.firstTwo link.arrivals).2⟩ := by
  cases mode with
  | sync =>
      exact receiveStatusSync_of_held h
  | async =>
      exact receiveStatusAsync_of_held h

/-! ### The exchange of a request for a status -/

theorem exchange_of_unsent (mode : Mode) {request : Request} {payload : Bytes} {f : Fault}
    (hencode : request.encode = .ok payload) (hsend : link.sendFault = some f) :
    exchange mode request reader = ⟨.fault f, [.send link.id payload], reader⟩ := by
  have hsent : send payload reader = ⟨.fault f, [.send link.id payload], reader⟩ := by
    simp [send, h, hsend]
  unfold exchange
  rw [hencode, ofExcept_ok_bind, bind_of_fault hsent]

theorem exchange_of_sent (mode : Mode) {request : Request} {payload : Bytes}
    (hencode : request.encode = .ok payload) (hsend : link.sendFault = none) :
    exchange mode request reader =
      ⟨(Arrivals.firstTwo link.arrivals).1.outcome mode,
        .send link.id payload :: statusNotes mode link.id link.arrivals,
        reader.holding link (Arrivals.firstTwo link.arrivals).2⟩ := by
  have hsent : send payload reader = ⟨.ok (), [.send link.id payload], reader⟩ := by
    simp [send, h, hsend]
  unfold exchange
  rw [hencode, ofExcept_ok_bind, bind_of_ok hsent, receiveStatus_of_held h mode]
  rfl

/-- Every exchange on a held connection. -/
theorem exchange_of_held (mode : Mode) (request : Request) :
    exchange mode request reader =
      ⟨(reply request link).outcome mode, exchangeNotes mode request link,
        reader.holding link (unread request link)⟩ := by
  have hheld : reader.holding link link.arrivals = reader := by
    cases reader
    cases h
    rfl
  unfold reply unread exchangeNotes
  cases hencode : request.encode with
  | error f =>
      rw [exchange_of_unencodable mode hencode]
      exact congrArg _ hheld.symm
  | ok payload =>
      cases hsend : link.sendFault with
      | some f =>
          rw [exchange_of_unsent h mode hencode hsend]
          exact congrArg _ hheld.symm
      | none =>
          exact exchange_of_sent h mode hencode hsend

/-! ### Closing -/

theorem close_of_held (mode : Mode) :
    close mode reader =
      ⟨.ofFault (Link.closingFault mode link),
        .close link.id :: closingLog mode reader.endpoint link,
        { reader with link := none }⟩ := by
  cases mode with
  | sync =>
      simp [close, h, Link.closingFault, closingLog, Link.swallowed, Outcome.ofFault]
  | async =>
      cases hf : link.closeFault with
      | none =>
          simp [close, h, hf, Link.closingFault, closingLog, Link.swallowed, Outcome.ofFault]
      | some f =>
          by_cases hs : f.isSystem
          · simp [close, h, hf, settleClose, hs, Link.closingFault, closingLog, Link.swallowed,
              Outcome.ofFault, Option.filter]
          · simp [close, h, hf, settleClose, hs, Link.closingFault, closingLog, Link.swallowed,
              Outcome.ofFault, Option.filter]

/-- A fault that is raised after closing gives way to a fault of closing. -/
theorem close_raise_of_held {α : Type} (mode : Mode) (f : Fault) :
    (do close mode; raise f : Act Reader α) reader =
      ⟨.fault ((Link.closingFault mode link).getD f),
        .close link.id :: closingLog mode reader.endpoint link,
        { reader with link := none }⟩ := by
  have hclose := close_of_held h mode
  cases hc : Link.closingFault mode link with
  | none =>
      rw [hc] at hclose
      rw [bind_of_ok hclose]
      simp
  | some g =>
      rw [hc] at hclose
      rw [bind_of_fault hclose]
      rfl

/-! ### Reading data -/

theorem receiveData_of_held (mode : Mode) (size : Int) :
    receiveData mode size reader =
      ⟨.ofExcept ((Arrivals.receiveSized mode size link.arrivals).1.mapError
          (report mode reader.endpoint reader.timeout)),
        [.receive link.id size],
        reader.holding link (Arrivals.receiveSized mode size link.arrivals).2⟩ := by
  have hread := receive_of_held h mode size
  cases mode with
  | sync =>
      show receive .sync size reader = _
      rw [hread]
      cases (Arrivals.receiveSized .sync size link.arrivals).1 <;> rfl
  | async =>
      show (receive .async size).recover _ _ reader = _
      cases harr : (Arrivals.receiveSized .async size link.arrivals).1 with
      | ok bs =>
          rw [harr] at hread
          exact recover_of_ok hread
      | error f =>
          rw [harr] at hread
          by_cases hf : f.kind = .timeout
          · have hb : (f.kind == .timeout) = true := beq_iff_eq.2 hf
            have hreport : report .async reader.endpoint reader.timeout f =
                .noDataWithin reader.endpoint reader.timeout f := if_pos hf
            rw [recover_of_handled hread hb, ← hreport]
            rfl
          · have hb : (f.kind == .timeout) = false := beq_eq_false_iff_ne.2 hf
            have hreport : report .async reader.endpoint reader.timeout f = f := if_neg hf
            rw [recover_of_unhandled hread hb]
            show _ = (⟨.fault (report .async reader.endpoint reader.timeout f), _, _⟩ :
              Run Reader Bytes)
            rw [hreport]

theorem read_of_held (mode : Mode) (length : Int) :
    read mode length reader =
      ⟨.ofExcept ((Arrivals.receivePiece mode (min length reader.bufferSize)
          link.arrivals).mapError (report mode reader.endpoint reader.timeout)),
        [.receive link.id (min length reader.bufferSize)],
        reader.advanced mode link (min length reader.bufferSize)⟩ := by
  let counted : Reader := { reader with readsMade := reader.readsMade + 1 }
  have hcounted : counted.link = some link := h
  have hdata := receiveData_of_held hcounted mode (min length reader.bufferSize)
  have hrun : read mode length reader =
      (receiveData mode (min length reader.bufferSize) >>= fun data =>
        if data.isEmpty then raise .prematureEnd
        else do
          countBytes data
          return data) counted := by
    unfold read
    rw [get_bind, h]
    rfl
  rw [hrun]
  unfold advanced Arrivals.receivePiece
  cases harr : (Arrivals.receiveSized mode (min length reader.bufferSize) link.arrivals).1 with
  | error f =>
      rw [harr] at hdata
      rw [bind_of_fault hdata]
      rfl
  | ok bs =>
      rw [harr] at hdata
      rw [bind_of_ok hdata]
      cases bs with
      | nil =>
          cases mode with
          | sync =>
              rfl
          | async =>
              rfl
      | cons b bs =>
          have hbytes := Arrivals.bytes_map_ok (b :: bs)
          simp only [Except.bind, Arrivals.piece, Arrivals.used, hbytes]
          rfl

end Held

end Reader
end ReplicaRead
