import ReplicaRead.Proofs.Retries

/-!
# The buffer of the read loop

A read loop can be kept in a buffer, which has the length of the range from the start and is
written in place. Pieces are cut and written at positions that are computed. A position below zero
counts from the end and one that lies outside is moved, so a wrong position would not fail: it
would make the buffer longer or shorter.

Input: a loop of any length, with any budget, and calls in any order: pieces that are to be
accepted, and failures that are to be paid for. A call that fails is not the last.

Algorithm: a piece is cut to what is missing and written over what comes after the bytes read so
far. A failure takes a retry, or is final if none is left.

Results: `afterCalls_onLoop`, what a loop comes to by calls; `onBuffer_inBuffer`, by which loop and
buffer answer each call alike; and `filled_after_calls`, what holds of the buffer at any time.
-/

namespace ReplicaRead

/-! ### Positions -/

namespace Bytes

/-- The place of a position among `length` bytes. -/
def place (length : Nat) (i : Int) : Nat :=
  if i < 0 then (length + i).toNat else min i.toNat length

/-- The bytes before a position. -/
def upTo (bs : Bytes) (stop : Int) : Bytes :=
  bs.take (place bs.length stop)

/-- The bytes with a piece in place of those from one position to another. If the positions are in
the wrong order, the piece is inserted at the first. -/
def overwrite (bs : Bytes) (start stop : Int) (piece : Bytes) : Bytes :=
  bs.take (place bs.length start) ++ piece ++
    bs.drop (max (place bs.length start) (place bs.length stop))

theorem place_of_nat (length i : Nat) : place length i = min i length := by
  rw [place, if_neg (by omega), Int.toNat_natCast]

theorem upTo_of_nat (bs : Bytes) (stop : Nat) : bs.upTo stop = bs.take stop := by
  rw [upTo, place_of_nat, ← List.take_eq_take_min]

/-- A piece that fits takes the place of as many bytes as it has. -/
theorem overwrite_of_fits {front piece back : Bytes} (h : piece.length ≤ back.length) :
    (front ++ back).overwrite front.length (front.length + piece.length) piece =
      front ++ piece ++ back.drop piece.length := by
  have hstop : (front.length : Int) + piece.length = (front.length + piece.length : Nat) := by
    omega
  have hstart : min front.length (front.length + back.length) = front.length := by omega
  have hend : max front.length (min (front.length + piece.length) (front.length + back.length)) =
      front.length + piece.length := by omega
  rw [overwrite, hstop, place_of_nat, place_of_nat, List.length_append, hstart, hend,
    List.take_left, List.drop_length_add_append]

end Bytes

/-! ### The buffer -/

/-- A read loop that is kept in a buffer. -/
structure ReadBuffer where
  endpoint : Endpoint
  bytes : Bytes
  readOffset : Int
  retriesLeft : Int
deriving DecidableEq

namespace ReadBuffer

/-- The buffer for a range of the given length, before anything is read. -/
def make (endpoint : Endpoint) (length : Nat) (retries : Int) : ReadBuffer where
  endpoint := endpoint
  bytes := List.replicate length 0
  readOffset := 0
  retriesLeft := retries

/-- The number of bytes that are missing. -/
def remaining (b : ReadBuffer) : Int :=
  b.bytes.length - b.readOffset

/-- Writes a piece of data. -/
def accept (piece : Bytes) : Act ReadBuffer Unit :=
  if piece.isEmpty then Act.raise .prematureEnd
  else do
    let b ← Act.get
    let piece := piece.upTo b.remaining
    Act.modify fun b =>
      { b with bytes := b.bytes.overwrite b.readOffset (b.readOffset + piece.length) piece }
    Act.modify fun b => { b with readOffset := b.readOffset + piece.length }

/-- Pays for a failed read. -/
def retry (f : Fault) : Act ReadBuffer Unit := do
  let b ← Act.get
  if b.retriesLeft = 0 then
    Act.raise (.unread b.endpoint b.remaining.toNat b.bytes.length f)
  else
    Act.modify fun b => { b with retriesLeft := b.retriesLeft - 1 }
    let b ← Act.get
    Act.log .debug .streaming (ReadLoop.retryMessage b.endpoint f b.retriesLeft)

theorem retry_spent {b : ReadBuffer} (hspent : b.retriesLeft = 0) (f : Fault) :
    retry f b = ⟨.fault (.unread b.endpoint b.remaining.toNat b.bytes.length f), [], b⟩ := by
  rw [retry, Act.get_bind, if_pos hspent]
  rfl

theorem retry_paid {b : ReadBuffer} (hleft : b.retriesLeft ≠ 0) (f : Fault) :
    retry f b = ⟨.ok (), [.record ⟨.debug, .streaming,
      ReadLoop.retryMessage b.endpoint f (b.retriesLeft - 1)⟩],
      { b with retriesLeft := b.retriesLeft - 1 }⟩ := by
  rw [retry, Act.get_bind, if_neg hleft]
  rfl

end ReadBuffer

namespace ReadLoop

/-! ### Calls -/

/-- A call on a loop. -/
inductive Call where
  | accept (piece : Bytes)
  | retry (f : Fault)
deriving DecidableEq

namespace Call

/-- The call on a loop, which stays as it is if the call fails. -/
def onLoop : Call → Act ReadLoop Unit
  | accept piece => do
    let loop ← Act.get
    let loop ← Act.ofExcept (loop.accept piece)
    Act.set loop
  | retry f => do
    let loop ← Act.get
    let loop ← loop.retryLogged f
    Act.set loop

/-- The call on a buffer. -/
def onBuffer : Call → Act ReadBuffer Unit
  | accept piece => ReadBuffer.accept piece
  | retry f => ReadBuffer.retry f

/-- The data that a call brings. -/
def piece : Call → Bytes
  | accept piece => piece
  | retry _ => []

def isRetry : Call → Bool
  | accept _ => false
  | retry _ => true

end Call

/-- What calls make of a state, each of which begins where the one before ended, failed or not. -/
def afterCalls {σ : Type} (perform : Call → Act σ Unit) (calls : List Call) (s : σ) : σ :=
  calls.foldl (fun s call => (perform call s).state) s

/-- All the data that calls bring. -/
def offered (calls : List Call) : Bytes :=
  calls.flatMap Call.piece

/-- The number of failures that are to be paid for. -/
def faults (calls : List Call) : Nat :=
  calls.countP Call.isRetry

/-- What is left of a budget after failures. A budget below zero is never used up. -/
def spent (retries : Int) (failures : Nat) : Int :=
  if retries < 0 then retries - failures else max 0 (retries - failures)

theorem spent_zero (retries : Int) : spent retries 0 = retries := by
  unfold spent
  split <;> omega

theorem spent_one_of_zero {retries : Int} (h : retries = 0) : spent retries 1 = retries := by
  subst h
  rfl

theorem spent_one {retries : Int} (h : retries ≠ 0) : spent retries 1 = retries - 1 := by
  unfold spent
  split <;> omega

theorem spent_spent (retries : Int) (m n : Nat) :
    spent (spent retries m) n = spent retries (m + n) := by
  unfold spent
  split
  case isTrue hnegative =>
      rw [if_pos (by omega)]
      omega
  case isFalse hnegative =>
      rw [if_neg (by omega)]
      omega

/-! ### Calls on a loop -/

section Loop

variable {loop : ReadLoop}

theorem onLoop_accept_nil (loop : ReadLoop) :
    (Call.accept []).onLoop loop = ⟨.fault .prematureEnd, [], loop⟩ := by
  rfl

theorem onLoop_accept {piece : Bytes} (hne : piece ≠ []) (loop : ReadLoop) :
    (Call.accept piece).onLoop loop = ⟨.ok (), [], loop.taken (piece.take loop.remaining)⟩ := by
  have haccept : loop.accept piece = .ok (loop.taken (piece.take loop.remaining)) := by
    simp [accept, hne, taken]
  rw [Call.onLoop, Act.get_bind, haccept]
  rfl

theorem onLoop_retry_spent (hspent : loop.retriesLeft = 0) (f : Fault) :
    (Call.retry f).onLoop loop =
      ⟨.fault (.unread loop.endpoint loop.remaining loop.length f), [], loop⟩ := by
  have hretry : loop.retry f = .error (.unread loop.endpoint loop.remaining loop.length f) :=
    if_pos hspent
  rw [Call.onLoop, Act.get_bind, retryLogged, hretry]
  rfl

theorem onLoop_retry (hleft : loop.retriesLeft ≠ 0) (f : Fault) :
    (Call.retry f).onLoop loop =
      ⟨.ok (), [.record ⟨.debug, .streaming,
        retryMessage loop.endpoint f loop.charged.retriesLeft⟩], loop.charged⟩ := by
  have hretry : loop.retry f = .ok loop.charged := if_neg hleft
  rw [Call.onLoop, Act.get_bind, retryLogged, hretry]
  rfl

/-- The bytes read so far are within the range. -/
def Within (loop : ReadLoop) : Prop :=
  loop.received.length ≤ loop.length

/-- The loop with data behind what it has received, as far as the range goes, and with failures paid
for. -/
def extended (loop : ReadLoop) (bs : Bytes) (failures : Nat) : ReadLoop :=
  { loop with
    received := (loop.received ++ bs).take loop.length
    retriesLeft := spent loop.retriesLeft failures }

theorem Within.extended (loop : ReadLoop) (bs : Bytes) (failures : Nat) :
    (loop.extended bs failures).Within :=
  List.length_take_le _ _

theorem Within.extended_nil (h : loop.Within) (failures : Nat) :
    loop.extended [] failures = { loop with retriesLeft := spent loop.retriesLeft failures } := by
  rw [ReadLoop.extended, List.append_nil, List.take_of_length_le h]

theorem Within.extended_zero (h : loop.Within) : loop.extended [] 0 = loop := by
  rw [h.extended_nil, spent_zero]

theorem extended_extended (loop : ReadLoop) (bs bs' : Bytes) (m n : Nat) :
    (loop.extended bs m).extended bs' n = loop.extended (bs ++ bs') (m + n) := by
  have hreceived : ((loop.received ++ bs).take loop.length ++ bs').take loop.length =
      (loop.received ++ (bs ++ bs')).take loop.length := by
    have hroom : loop.length - min loop.length (loop.received ++ bs).length =
        loop.length - (loop.received ++ bs).length := by
      omega
    rw [List.take_append, List.take_take, Nat.min_self, List.length_take, hroom,
      ← List.take_append, List.append_assoc]
  unfold extended
  rw [hreceived, spent_spent]

/-- Every call offers its data and asks for a retry, or not. -/
theorem state_onLoop (h : loop.Within) (call : Call) :
    (call.onLoop loop).state = loop.extended (offered [call]) (faults [call]) := by
  cases call with
  | accept piece =>
      by_cases hne : piece = []
      · subst hne
        rw [onLoop_accept_nil]
        exact h.extended_zero.symm
      · have hreceived : loop.received ++ piece.take loop.remaining =
            (loop.received ++ piece).take loop.length := by
          rw [List.take_append, List.take_of_length_le h]
          rfl
        rw [onLoop_accept hne]
        show loop.taken _ = loop.extended (piece ++ []) 0
        rw [taken, hreceived, extended, spent_zero, List.append_nil]
  | retry f =>
      show _ = loop.extended [] 1
      rw [h.extended_nil]
      by_cases hspent : loop.retriesLeft = 0
      · rw [onLoop_retry_spent hspent, spent_one_of_zero hspent]
      · rw [onLoop_retry hspent, spent_one hspent]
        rfl

/-- It does not matter which calls stand between which others, and which of them failed. -/
theorem afterCalls_onLoop (h : loop.Within) (calls : List Call) :
    afterCalls Call.onLoop calls loop = loop.extended (offered calls) (faults calls) := by
  induction calls generalizing loop with
  | nil =>
      exact h.extended_zero.symm
  | cons call calls ih =>
      have hnext : (loop.extended (offered [call]) (faults [call])).Within :=
        .extended loop _ _
      have hoffered : offered [call] ++ offered calls = offered (call :: calls) :=
        List.flatMap_append.symm
      have hfaults : faults [call] + faults calls = faults (call :: calls) :=
        List.countP_append.symm
      show afterCalls Call.onLoop calls (call.onLoop loop).state = _
      rw [state_onLoop h, ih hnext, extended_extended, hoffered, hfaults]

/-! ### Calls on a buffer -/

/-- The buffer that holds what a loop has read. -/
def inBuffer (loop : ReadLoop) : ReadBuffer where
  endpoint := loop.endpoint
  bytes := loop.buffer
  readOffset := loop.readOffset
  retriesLeft := loop.retriesLeft

theorem length_buffer (h : loop.Within) : loop.buffer.length = loop.length := by
  rw [buffer, List.length_append, List.length_replicate]
  exact Nat.add_sub_cancel' h

theorem remaining_inBuffer (h : loop.Within) : loop.inBuffer.remaining = loop.remaining := by
  show (loop.buffer.length : Int) - loop.readOffset = loop.remaining
  rw [length_buffer h]
  exact (Int.ofNat_sub h).symm

/-- A piece that fits is written over as many zeros. -/
theorem inBuffer_taken {bs : Bytes} (hle : bs.length ≤ loop.remaining) :
    (loop.taken bs).inBuffer =
      { loop.inBuffer with
        bytes := loop.buffer.overwrite loop.readOffset (loop.readOffset + bs.length) bs
        readOffset := loop.readOffset + bs.length } := by
  have hfits : bs.length ≤ (List.replicate loop.remaining (0 : UInt8)).length := by
    rw [List.length_replicate]
    exact hle
  have hleft : loop.remaining - bs.length = (loop.taken bs).remaining :=
    Nat.sub_eq_of_eq_add (remaining_taken hle).symm
  have hbytes : loop.buffer.overwrite loop.readOffset (loop.readOffset + bs.length) bs =
      (loop.taken bs).buffer := by
    rw [buffer, readOffset, Bytes.overwrite_of_fits hfits, List.drop_replicate, hleft]
    rfl
  have hoffset : (loop.readOffset : Int) + bs.length = (loop.taken bs).readOffset := by
    simp [readOffset, taken]
  rw [hbytes, hoffset]
  rfl

theorem accept_inBuffer (h : loop.Within) {piece : Bytes} (hne : piece ≠ []) :
    ReadBuffer.accept piece loop.inBuffer =
      ⟨.ok (), [], (loop.taken (piece.take loop.remaining)).inBuffer⟩ := by
  have hcut : piece.upTo loop.inBuffer.remaining = piece.take loop.remaining := by
    rw [remaining_inBuffer h, Bytes.upTo_of_nat]
  unfold ReadBuffer.accept
  rw [if_neg (by simpa using hne), Act.get_bind, hcut, Act.modify_bind,
    inBuffer_taken (List.length_take_le _ _)]
  rfl

/-- Loop and buffer answer each call alike. -/
theorem onBuffer_inBuffer (h : loop.Within) (call : Call) :
    call.onBuffer loop.inBuffer =
      ⟨(call.onLoop loop).outcome, (call.onLoop loop).notes,
        (call.onLoop loop).state.inBuffer⟩ := by
  cases call with
  | accept piece =>
      by_cases hne : piece = []
      · rw [hne, onLoop_accept_nil]
        rfl
      · rw [onLoop_accept hne]
        exact accept_inBuffer h hne
  | retry f =>
      by_cases hspent : loop.retriesLeft = 0
      · have hleft : loop.inBuffer.retriesLeft = 0 := hspent
        have hmissing : loop.inBuffer.remaining.toNat = loop.remaining := by
          rw [remaining_inBuffer h, Int.toNat_natCast]
        have hlength : loop.inBuffer.bytes.length = loop.length := length_buffer h
        rw [onLoop_retry_spent hspent, Call.onBuffer, ReadBuffer.retry_spent hleft, hmissing,
          hlength]
        rfl
      · have hleft : loop.inBuffer.retriesLeft ≠ 0 := hspent
        rw [onLoop_retry hspent]
        exact ReadBuffer.retry_paid hleft f

end Loop

/-! ### Any calls -/

section Calls

variable {loop : ReadLoop}

/-- After any calls loop and buffer hold the same. -/
theorem afterCalls_onBuffer (h : loop.Within) (calls : List Call) :
    afterCalls Call.onBuffer calls loop.inBuffer =
      (loop.extended (offered calls) (faults calls)).inBuffer := by
  rw [← afterCalls_onLoop h]
  induction calls generalizing loop with
  | nil =>
      rfl
  | cons call calls ih =>
      have hnext : (call.onLoop loop).state.Within := by
        rw [state_onLoop h]
        exact .extended loop _ _
      show afterCalls Call.onBuffer calls (call.onBuffer loop.inBuffer).state = _
      rw [onBuffer_inBuffer h]
      exact ih hnext

end Calls

/-- What holds of a buffer for `length` bytes after calls. -/
structure Filled (length : Nat) (retries : Int) (calls : List Call) (b : ReadBuffer) : Prop where
  /-- The buffer keeps its length. -/
  length_eq : b.bytes.length = length
  readOffset_eq : b.readOffset = min length (offered calls).length
  /-- The data that was accepted stands in front, and zeros come after it. -/
  bytes_eq : b.bytes = (offered calls).take b.readOffset.toNat ++
    List.replicate (length - b.readOffset.toNat) 0
  remaining_eq : b.remaining = length - b.readOffset
  remaining_nonneg : 0 ≤ b.remaining
  /-- Each failure takes a retry as long as one is left. -/
  retriesLeft_of_nonneg : 0 ≤ retries → b.retriesLeft = max 0 (retries - faults calls)
  /-- A budget below zero is never used up. -/
  retriesLeft_of_neg : retries < 0 → b.retriesLeft = retries - faults calls

/-- How a buffer answers the next call. -/
structure Answers (b : ReadBuffer) : Prop where
  /-- Only an empty piece is refused. -/
  accept : ∀ piece, (ReadBuffer.accept piece b).outcome =
    if piece = [] then .fault .prematureEnd else .ok ()
  /-- A failure is final exactly if no retry is left. -/
  retry : ∀ f, (ReadBuffer.retry f b).outcome =
    if b.retriesLeft = 0 then .fault (.unread b.endpoint b.remaining.toNat b.bytes.length f)
    else .ok ()
  /-- A call that fails changes nothing. -/
  failed : ∀ (call : Call) (f : Fault), (call.onBuffer b).outcome = .fault f →
    (call.onBuffer b).state = b
  /-- A failure that is not final takes a retry and changes nothing else. -/
  paid : ∀ f, (ReadBuffer.retry f b).outcome = .ok () →
    (ReadBuffer.retry f b).state = { b with retriesLeft := b.retriesLeft - 1 }

/-- A buffer holds what a loop has read, and answers each call as the loop does. -/
structure Mirrors (b : ReadBuffer) (loop : ReadLoop) : Prop where
  eq : b = loop.inBuffer
  call : ∀ call : Call, call.onBuffer b =
    ⟨(call.onLoop loop).outcome, (call.onLoop loop).notes, (call.onLoop loop).state.inBuffer⟩

theorem within_fresh (endpoint : Endpoint) (length : Nat) (retries : Int) :
    (fresh endpoint length retries).Within :=
  Nat.zero_le length

theorem filled_extended (endpoint : Endpoint) (length : Nat) (retries : Int) (calls : List Call) :
    Filled length retries calls
      ((fresh endpoint length retries).extended (offered calls) (faults calls)).inBuffer := by
  let loop := (fresh endpoint length retries).extended (offered calls) (faults calls)
  have hwithin : loop.Within := .extended _ _ _
  have hlength : loop.inBuffer.bytes.length = length := length_buffer hwithin
  have hoffset : loop.readOffset = min length (offered calls).length := List.length_take
  refine ⟨hlength, ?offset, ?bytes, ?remaining, ?nonneg, ?budget, ?endless⟩
  case offset =>
      show (loop.readOffset : Int) = _
      rw [hoffset]
  case bytes =>
      have hfront : (offered calls).take length = (offered calls).take loop.readOffset := by
        rw [hoffset, ← List.take_eq_take_min]
      show (offered calls).take length ++ List.replicate (length - loop.readOffset) 0 =
        (offered calls).take (loop.readOffset : Int).toNat ++
          List.replicate (length - (loop.readOffset : Int).toNat) 0
      rw [Int.toNat_natCast, hfront]
  case remaining =>
      show (loop.inBuffer.bytes.length : Int) - loop.inBuffer.readOffset = _
      rw [hlength]
  case nonneg =>
      rw [remaining_inBuffer hwithin]
      exact Int.natCast_nonneg _
  case budget =>
      intro hretries
      exact if_neg (Int.not_lt.2 hretries)
  case endless =>
      intro hretries
      exact if_pos hretries

theorem answers (b : ReadBuffer) : Answers b where
  accept piece := by
    cases piece with
    | nil =>
        rfl
    | cons x bs =>
        rfl
  retry f := by
    by_cases hspent : b.retriesLeft = 0
    · rw [ReadBuffer.retry_spent hspent, if_pos hspent]
    · rw [ReadBuffer.retry_paid hspent, if_neg hspent]
  failed call f h := by
    cases call with
    | accept piece =>
        cases piece with
        | nil =>
            rfl
        | cons x bs =>
            cases h
    | retry g =>
        by_cases hspent : b.retriesLeft = 0
        · exact congrArg Run.state (ReadBuffer.retry_spent hspent g)
        · have hpaid : ReadBuffer.retry g b = _ := ReadBuffer.retry_paid hspent g
          rw [Call.onBuffer, hpaid] at h
          cases h
  paid f h := by
    by_cases hspent : b.retriesLeft = 0
    · rw [ReadBuffer.retry_spent hspent] at h
      cases h
    · rw [ReadBuffer.retry_paid hspent]

/-- A buffer of any length, with any budget, after any calls. It holds the first data that was
accepted, with zeros for what is missing, and its retries are those that the failures have left; an
empty piece is refused, and a failure for which no retry is left is final, without any change. The
loop that is made for the range holds the same and answers alike. -/
theorem filled_after_calls (endpoint : Endpoint) (length : Nat) (retries : Int) (memory : Memory)
    (calls : List Call) :
    Filled length retries calls
        (afterCalls Call.onBuffer calls (.make endpoint length retries)) ∧
      Answers (afterCalls Call.onBuffer calls (.make endpoint length retries)) ∧
      Mirrors (afterCalls Call.onBuffer calls (.make endpoint length retries))
        (afterCalls Call.onLoop calls (fresh endpoint length retries)) ∧
      (make endpoint length retries memory = .ok (fresh endpoint length retries) ∨
        memory.size < length) := by
  have hstart : ReadBuffer.make endpoint length retries =
      (fresh endpoint length retries).inBuffer := rfl
  have hfresh := within_fresh endpoint length retries
  have hwithin : ((fresh endpoint length retries).extended (offered calls) (faults calls)).Within :=
    .extended _ _ _
  rw [hstart, afterCalls_onBuffer hfresh, afterCalls_onLoop hfresh]
  refine ⟨filled_extended endpoint length retries calls, answers _,
    ⟨rfl, onBuffer_inBuffer hwithin⟩, ?_⟩
  rcases Nat.lt_or_ge memory.size length with hlarge | hsmall
  · exact Or.inr hlarge
  · exact Or.inl (make_of_fits hsmall endpoint retries)

end ReadLoop
end ReplicaRead
