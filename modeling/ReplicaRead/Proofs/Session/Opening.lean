import ReplicaRead.Proofs.Connecting
import ReplicaRead.Proofs.Session.Steps

/-!
# The opening of a session

To open a session is to connect and to make the handshake. Each way in which this can end is
described by one equation: what it ended with, what was noted, and what is held in the end.

Results: `start_of_untimely`, `start_of_unanswered` and `start_of_answered`, which lead from the
opening to the handshake, and `handshake_ends`, the ways in which the handshake ends.
-/

namespace ReplicaRead
namespace Reader

open Act

/-! ### The handshake -/

section Handshake

variable {mode : Mode} {request : Request} {reader reader' : Reader} {link : Link}
variable {notes : List Note}

theorem handshake_of_granted
    (hexchange : exchange mode request reader = ⟨.ok Status.success, notes, reader'⟩) :
    handshake mode request reader =
      ⟨.ok (), notes ++ [.record ⟨.debug, .session mode,
        openedMessage mode reader.endpoint request⟩], reader'⟩ := by
  unfold handshake
  rw [get_bind, bind_of_ok (recover_of_ok hexchange)]
  rfl

/-- The node answers with a status other than success. -/
theorem handshake_of_refused {status : Int}
    (hexchange : exchange mode request reader = ⟨.ok status, notes, reader'⟩)
    (hstatus : status ≠ Status.success) (hlink : reader'.link = some link) :
    handshake mode request reader =
      ⟨.fault ((Link.closingFault mode link).getD
          (.refused reader.endpoint request.blockId status)),
        notes ++ .close link.id :: closingLog mode reader'.endpoint link,
        { reader' with link := none }⟩ := by
  unfold handshake
  rw [get_bind, bind_of_ok (recover_of_ok hexchange), if_neg hstatus,
    close_raise_of_held hlink mode]
  rfl

/-- The exchange fails in a way that fails the handshake. -/
theorem handshake_of_failed {f : Fault}
    (hexchange : exchange mode request reader = ⟨.fault f, notes, reader'⟩)
    (hf : failsHandshake mode f = true) (hlink : reader'.link = some link) :
    handshake mode request reader =
      ⟨.fault ((Link.closingFault mode link).getD (.handshakeFailed mode reader.endpoint f)),
        notes ++ .close link.id :: closingLog mode reader'.endpoint link,
        { reader' with link := none }⟩ := by
  unfold handshake
  rw [get_bind]
  refine bind_of_fault ?_
  rw [recover_of_handled hexchange hf, close_raise_of_held hlink mode]
  rfl

/-- The exchange fails in another way, and the connection is still held. -/
theorem handshake_of_escaped {f : Fault}
    (hexchange : exchange mode request reader = ⟨.fault f, notes, reader'⟩)
    (hf : failsHandshake mode f = false) :
    handshake mode request reader = ⟨.fault f, notes, reader'⟩ := by
  unfold handshake
  rw [get_bind]
  exact bind_of_fault (recover_of_unhandled hexchange hf)

/-- How a handshake on a connection ends. In each case the exchange comes first. -/
inductive HandshakeEnds (mode : Mode) (request : Request) (reader : Reader) (link : Link) :
    Run Reader Unit → Prop where
  /-- The request is granted, and the connection is held. -/
  | granted {high low : UInt8} (hreply : reply request link = .bytes high low) :
      HandshakeEnds mode request reader link ⟨.ok (),
        exchangeNotes mode request link ++ [.record ⟨.debug, .session mode,
          openedMessage mode reader.endpoint request⟩],
        reader.holding link (unread request link)⟩
  /-- The request is refused, or the exchange fails, and the connection is closed. -/
  | closed {f : Fault} :
      HandshakeEnds mode request reader link ⟨.fault f,
        exchangeNotes mode request link ++
          .close link.id :: closingLog mode reader.endpoint link,
        { reader with link := none }⟩
  /-- A fault that does not fail the handshake escapes, and the connection is held. -/
  | escaped {f : Fault} (houtcome : (reply request link).outcome mode = .fault f)
      (hf : failsHandshake mode f = false) :
      HandshakeEnds mode request reader link ⟨.fault f, exchangeNotes mode request link,
        reader.holding link (unread request link)⟩

theorem handshake_ends (mode : Mode) (request : Request) (h : reader.link = some link) :
    HandshakeEnds mode request reader link (handshake mode request reader) := by
  have hexchange := exchange_of_held h mode request
  have hheld := holding_link reader link (unread request link)
  cases houtcome : (reply request link).outcome mode with
  | ok status =>
      rw [houtcome] at hexchange
      by_cases hstatus : status = Status.success
      · subst hstatus
        obtain ⟨high, low, hreply⟩ := Arrivals.Pair.exists_of_outcome_eq_ok houtcome
        rw [handshake_of_granted hexchange]
        exact .granted hreply
      · rw [handshake_of_refused hexchange hstatus hheld]
        exact .closed
  | fault f =>
      rw [houtcome] at hexchange
      cases hf : failsHandshake mode f with
      | true =>
          rw [handshake_of_failed hexchange hf hheld]
          exact .closed
      | false =>
          rw [handshake_of_escaped hexchange hf]
          exact .escaped houtcome hf
  | unfinished =>
      exact absurd houtcome (Arrivals.Pair.outcome_ne_unfinished mode _)

/-- No connection is held after a handshake but the one on which it was made. -/
theorem HandshakeEnds.exists_arrivals {r : Run Reader Unit}
    (h : HandshakeEnds mode request reader link r) {held : Link}
    (hheld : r.state.link = some held) : ∃ arrivals, held = { link with arrivals } := by
  cases h with
  | granted hreply | escaped houtcome hf =>
      cases hheld
      exact ⟨_, rfl⟩
  | closed =>
      cases hheld

/-- A handshake does not change how the reader waits and reads. -/
theorem HandshakeEnds.parameters_eq {r : Run Reader Unit}
    (h : HandshakeEnds mode request reader link r) :
    r.state.timeout = reader.timeout ∧ r.state.bufferSize = reader.bufferSize := by
  cases h with
  | granted | closed | escaped =>
      exact ⟨rfl, rfl⟩

end Handshake

/-! ### Connecting -/

/-- What becomes of a fault of connecting. -/
def connectReport (mode : Mode) (endpoint : Endpoint) (f : Fault) : Fault :=
  if failsConnect f then .connectFailed mode endpoint f else f

section Start

variable {mode : Mode} {net : Network} {reader : Reader} (request : Request)

/-- A connect that is given no time is not begun. -/
theorem start_of_untimely (hbegins : Network.begins mode reader.timeout = false) :
    start mode request (net, reader) =
      ⟨.fault (.connectFailed mode reader.endpoint .noTime), [], (net, reader)⟩ := by
  have hconnect : onFst (Network.connect mode reader.endpoint reader.timeout) (net, reader) =
      ⟨.fault .noTime, [], (net, reader)⟩ := by
    simp [onFst, Network.connect, hbegins]
  unfold start connect
  refine bind_of_fault ?_
  rw [get_bind]
  refine bind_of_fault ?_
  rw [recover_of_handled hconnect rfl]
  rfl

variable (hbegins : Network.begins mode reader.timeout = true)
include hbegins

theorem onFst_connect (net : Network) :
    onFst (Network.connect mode reader.endpoint reader.timeout) (net, reader) =
      ⟨.ofExcept (net.answer reader.endpoint),
        [.connect net.attempts reader.endpoint (Network.shownTimeout mode reader.timeout)],
        (net.afterAttempt reader.endpoint, reader)⟩ := by
  simp [onFst, Network.connect, hbegins, Network.attempt_apply]

theorem start_of_unanswered {f : Fault} (hanswer : net.answer reader.endpoint = .error f) :
    start mode request (net, reader) =
      ⟨.fault (connectReport mode reader.endpoint f),
        [.connect net.attempts reader.endpoint (Network.shownTimeout mode reader.timeout)],
        (net.afterAttempt reader.endpoint, reader)⟩ := by
  have hconnect := onFst_connect hbegins net
  rw [hanswer] at hconnect
  unfold start connect
  refine bind_of_fault ?_
  rw [get_bind]
  refine bind_of_fault ?_
  cases hf : failsConnect f with
  | true =>
      rw [recover_of_handled hconnect hf]
      simp [connectReport, hf]
  | false =>
      rw [recover_of_unhandled hconnect hf]
      simp [connectReport, hf]

/-- A connection is made, and the handshake follows on it. -/
theorem start_of_answered {link : Link} (hanswer : net.answer reader.endpoint = .ok link) :
    start mode request (net, reader) =
      ⟨(handshake mode request { reader with link := some link }).outcome,
        .connect net.attempts reader.endpoint (Network.shownTimeout mode reader.timeout) ::
          (handshake mode request { reader with link := some link }).notes,
        (net.afterAttempt reader.endpoint,
          (handshake mode request { reader with link := some link }).state)⟩ := by
  have hconnect := onFst_connect hbegins net
  rw [hanswer] at hconnect
  have hconnected : connect mode (net, reader) =
      ⟨.ok (), [.connect net.attempts reader.endpoint (Network.shownTimeout mode reader.timeout)],
        (net.afterAttempt reader.endpoint, { reader with link := some link })⟩ := by
    unfold connect
    rw [get_bind]
    exact bind_of_ok (recover_of_ok hconnect)
  unfold start
  rw [bind_of_ok hconnected]
  rfl

end Start

end Reader
end ReplicaRead
