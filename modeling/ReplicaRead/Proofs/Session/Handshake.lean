import ReplicaRead.Proofs.Closing
import ReplicaRead.Proofs.Framing.Words
import ReplicaRead.Proofs.Session.Traffic

/-!
# What an opening comes to

An opening whose request has a frame succeeds exactly if the connect and the send succeed and the
first two bytes to arrive, in whatever pieces, are zero. Otherwise it fails with a fault that tells
the status if there was one, and the connection that was made, if any, is closed. No byte behind the
status is taken, so the data is read from the third byte on.

Input: a network that fails only by the system, but for host names that cannot be encoded.

Algorithm: the connect is made or not; if it is made, the handshake is granted, or refused with a
status, or fails without one.

Results: `Reader.Answered` and `Reader.handshake_answered`, the three ways of the handshake; and
`Reader.start_exact`.
-/

namespace ReplicaRead

open Act Arrivals

/-- All faults of a script after connecting are failures of the system, and the fault of connecting
fails the connect. -/
structure Script.FailsOpening (script : Script) : Prop extends script.FailsBySystem where
  connect : ∀ f, script.connectFault = some f → Reader.failsConnect f = true

namespace Reader

/-! ### The handshake -/

section Handshake

variable {mode : Mode} {request : Request} {reader : Reader} {link : Link}

/-- The ways in which a handshake ends whose request has a frame, on a connection that fails only by
the system. In each case the exchange comes first. -/
inductive Answered (mode : Mode) (request : Request) (reader : Reader) (link : Link) :
    Run Reader Unit → Prop where
  | granted (hreply : reply request link = .bytes 0 0) :
      Answered mode request reader link ⟨.ok (),
        exchangeNotes mode request link ++ [.record ⟨.debug, .session mode,
          openedMessage mode reader.endpoint request⟩],
        reader.holding link (unread request link)⟩
  /-- A status other than success arrives. -/
  | refused {high low : UInt8} (hreply : reply request link = .bytes high low)
      (hstatus : Status.ofBytes high low ≠ Status.success) :
      Answered mode request reader link ⟨
        .fault (.refused reader.endpoint request.blockId (Status.ofBytes high low)),
        exchangeNotes mode request link ++
          .close link.id :: closingLog mode reader.endpoint link,
        { reader with link := none }⟩
  /-- No status arrives. -/
  | failed {f : Fault} (hreply : ∀ high low, reply request link ≠ .bytes high low) :
      Answered mode request reader link ⟨.fault (.handshakeFailed mode reader.endpoint f),
        exchangeNotes mode request link ++
          .close link.id :: closingLog mode reader.endpoint link,
        { reader with link := none }⟩

theorem handshake_answered (mode : Mode) {script : Script} {id : Nat} (hfits : request.Fits)
    (hlink : reader.link = some (script.link id)) (hscript : script.FailsBySystem) :
    Answered mode request reader (script.link id) (handshake mode request reader) := by
  obtain ⟨payload, hencode⟩ := (Request.encode_eq_ok_iff _).2 hfits
  have hexchange := exchange_of_held hlink mode request
  have hheld := holding_link reader (script.link id) (unread request (script.link id))
  have hquiet : Link.closingFault mode
      { script.link id with arrivals := unread request (script.link id) } = none :=
    Link.closingFault_eq_none hscript.close mode
  -- Without a status the exchange fails in a way that fails the handshake.
  have hfailed : ∀ f, (reply request (script.link id)).outcome mode = .fault f →
      (∀ high low, reply request (script.link id) ≠ .bytes high low) →
      Answered mode request reader (script.link id) (handshake mode request reader) := by
    intro f houtcome hreply
    rw [houtcome] at hexchange
    rw [handshake_of_failed hexchange (failsHandshake_of_reply hencode hscript houtcome) hheld,
      hquiet]
    exact .failed hreply
  cases hreply : reply request (script.link id) with
  | bytes high low =>
      rw [hreply] at hexchange
      by_cases hstatus : Status.ofBytes high low = Status.success
      · have houtcome : (Pair.bytes high low).outcome mode = .ok Status.success :=
          congrArg Outcome.ok hstatus
        rw [houtcome] at hexchange
        obtain ⟨rfl, rfl⟩ := Status.ofBytes_eq_success_iff.1 hstatus
        rw [handshake_of_granted hexchange]
        exact .granted hreply
      · rw [handshake_of_refused hexchange hstatus hheld, hquiet]
        exact .refused hreply hstatus
  | fault f =>
      exact hfailed f (by rw [hreply]; rfl) (by simp [hreply])
  | short got =>
      cases mode with
      | sync | async =>
          exact hfailed _ (by rw [hreply]; rfl) (by simp [hreply])

namespace Answered

variable {r : Run Reader Unit}

theorem outcome_iff (h : Answered mode request reader link r) :
    r.outcome = .ok () ↔ reply request link = .bytes 0 0 := by
  cases h with
  | granted hreply =>
      exact iff_of_true rfl hreply
  | refused hreply hstatus =>
      refine iff_of_false nofun ?_
      rw [hreply]
      rintro ⟨⟩
      exact hstatus (Status.ofBytes_eq_success_iff.2 ⟨rfl, rfl⟩)
  | failed hreply =>
      exact iff_of_false nofun (hreply 0 0)

/-- An opening that does not succeed fails with the status, if there is one, and the connection is
closed. -/
theorem fault (h : Answered mode request reader link r) (hr : r.outcome ≠ .ok ()) :
    ∃ f, r.outcome = .fault f ∧ f.kind = .sessionOpen ∧
      (∀ high low, reply request link = .bytes high low →
        f.status? = some (high.toBitVec ++ low.toBitVec).toInt) ∧
      ((∀ high low, reply request link ≠ .bytes high low) → f.status? = none) ∧
      r.state.link = none ∧ Closes link.id 1 r.notes := by
  have hcloses : Closes link.id 1 (exchangeNotes mode request link ++
      .close link.id :: closingLog mode reader.endpoint link) :=
    (closes_exchangeNotes mode request link).after_silent (Closes.closing mode reader.endpoint link)
  cases h with
  | granted hreply =>
      exact absurd rfl hr
  | refused hreply hstatus =>
      refine ⟨_, rfl, rfl, ?_, fun hnone => absurd hreply (hnone _ _), rfl, hcloses⟩
      intro high' low' hreply'
      rw [hreply] at hreply'
      cases hreply'
      rw [← Status.ofBytes_eq_toInt]
      rfl
  | failed hreply =>
      exact ⟨_, rfl, rfl, fun high low h => absurd h (hreply high low), fun _ => rfl, rfl, hcloses⟩

/-- The notes tell what is left to arrive. -/
theorem left_eq (h : Answered mode request reader link r) :
    left mode link.arrivals r.notes = unread request link := by
  cases h with
  | granted hreply =>
      rw [left_append, left_exchangeNotes]
      rfl
  | refused hreply hstatus | failed hreply =>
      rw [left_append, left_exchangeNotes,
        left_of_idle (idle_closing mode reader.endpoint link)]

/-- A connection that is held is left as the exchange leaves it. -/
theorem state_eq (h : Answered mode request reader link r) (hr : r.outcome = .ok ()) :
    r.state = reader.holding link (unread request link) := by
  cases h with
  | granted hreply =>
      rfl
  | refused hreply hstatus | failed hreply =>
      cases hr

end Answered

/-! ### The status that arrives, and what is behind it -/

/-- The reply is a status exactly if the request is sent and two bytes are the first to arrive. -/
theorem reply_eq_bytes_iff (hfits : request.Fits) {high low : UInt8} :
    reply request link = .bytes high low ↔
      link.sendFault = none ∧ ∃ rest, items link.arrivals = .ok high :: .ok low :: rest := by
  obtain ⟨payload, hencode⟩ := (Request.encode_eq_ok_iff _).2 hfits
  rw [reply, hencode]
  cases link.sendFault with
  | some f =>
      exact iff_of_false nofun nofun
  | none =>
      constructor
      · intro h
        exact ⟨rfl, _, items_of_firstTwo h⟩
      · rintro ⟨-, rest, h⟩
        obtain ⟨arrivals, hfirst, -⟩ := firstTwo_of_items h
        rw [hfirst]

/-- Behind a status that has arrived, all items are left. -/
theorem items_unread {high low : UInt8} (h : reply request link = .bytes high low) :
    items link.arrivals = .ok high :: .ok low :: items (unread request link) := by
  unfold reply unread at *
  cases hencode : request.encode with
  | error f =>
      rw [hencode] at h
      cases h
  | ok payload =>
      rw [hencode] at h
      cases hsend : link.sendFault with
      | some f =>
          rw [hsend] at h
          cases h
      | none =>
          rw [hsend] at h
          exact items_of_firstTwo h

/-- A read on a connection on which a byte is the first to arrive brings that byte, and perhaps some
of those behind it. -/
theorem read_of_items (mode : Mode) (hlink : reader.link = some link) {length : Int}
    (hlength : 1 ≤ min length reader.bufferSize) {b : UInt8} {is : List Item}
    (h : items link.arrivals = .ok b :: is) :
    ∃ data, (read mode length reader).outcome = .ok (b :: data) ∧
      b :: data <+: content link.arrivals := by
  have hpos : 0 < min length reader.bufferSize := by omega
  obtain ⟨data, hpiece⟩ := receivePiece_of_items hpos mode h
  obtain ⟨taken, hcontent, -, htaken⟩ :=
    content_receiveSized mode (min length reader.bufferSize) link.arrivals
  rw [hpiece, used, bytes_map_ok] at htaken
  rw [read_of_held hlink, hpiece]
  refine ⟨data, rfl, ?_⟩
  rw [hcontent, htaken (Int.le_of_lt hpos)]
  exact List.prefix_append taken _

/-- After a success no item behind the status is lost, and the next read begins with the third. -/
theorem Answered.continues {r : Run Reader Unit} (h : Answered mode request reader link r)
    (hr : r.outcome = .ok ()) :
    items link.arrivals = .ok 0 :: .ok 0 :: items (unread request link) ∧
      ∀ third rest, items (unread request link) = .ok third :: rest →
        ∀ length, 1 ≤ min length reader.bufferSize →
          ∃ data, (read mode length r.state).outcome = .ok (third :: data) ∧
            third :: data <+: (content link.arrivals).drop 2 := by
  have hitems := items_unread (h.outcome_iff.1 hr)
  have hdrop : (content link.arrivals).drop 2 = content (unread request link) := by
    rw [content, hitems]
    rfl
  refine ⟨hitems, ?_⟩
  intro third rest hthird length hlength
  rw [h.state_eq hr, hdrop]
  exact read_of_items mode (holding_link _ _ _) hlength hthird

end Handshake

/-! ### The opening -/

section Start

variable {mode : Mode} {request : Request} {net : Network} {reader : Reader} {link : Link}

/-- The connect succeeds, with a connection. -/
def Connects (mode : Mode) (net : Network) (reader : Reader) (link : Link) : Prop :=
  (Network.connect mode reader.endpoint reader.timeout net).outcome = .ok link

theorem connects_iff : Connects mode net reader link ↔
    Network.begins mode reader.timeout = true ∧ net.answer reader.endpoint = .ok link := by
  rw [Connects, Network.connect]
  cases Network.begins mode reader.timeout with
  | false =>
      simp
  | true =>
      rw [if_pos rfl, Network.attempt_apply]
      cases net.answer reader.endpoint with
      | ok made | error f =>
          simp [Outcome.ofExcept]

/-- The connect and the send succeed, and two bytes arrive before anything else. -/
structure Receives (mode : Mode) (net : Network) (reader : Reader) (link : Link)
    (high low : UInt8) : Prop where
  connects : Connects mode net reader link
  sends : link.sendFault = none
  first : ∃ rest, items link.arrivals = .ok high :: .ok low :: rest

theorem Connects.unique {link' : Link} (h : Connects mode net reader link)
    (h' : Connects mode net reader link') : link' = link :=
  Outcome.ok.inj (h'.symm.trans h)

/-- What is received on the connection that is made is the reply to a request. -/
theorem receives_iff (hfits : request.Fits) (h : Connects mode net reader link) {link' : Link}
    {high low : UInt8} : Receives mode net reader link' high low ↔
      link' = link ∧ reply request link = .bytes high low := by
  rw [reply_eq_bytes_iff hfits]
  constructor
  · rintro ⟨h', hsends, hfirst⟩
    obtain rfl := h.unique h'
    exact ⟨rfl, hsends, hfirst⟩
  · rintro ⟨rfl, hsends, hfirst⟩
    exact ⟨h, hsends, hfirst⟩

variable (hscripts : net.AllScripts Script.FailsOpening)
include hscripts

/-- A connect that does not succeed fails the opening. -/
theorem start_of_unconnected (request : Request) (hnone : ∀ link, ¬ Connects mode net reader link) :
    ∃ f notes net', start mode request (net, reader) =
      ⟨.fault (.connectFailed mode reader.endpoint f), notes, (net', reader)⟩ := by
  cases hbegins : Network.begins mode reader.timeout with
  | false =>
      exact ⟨_, _, _, start_of_untimely request hbegins⟩
  | true =>
      cases hanswer : net.answer reader.endpoint with
      | ok link =>
          exact absurd (connects_iff.2 ⟨hbegins, hanswer⟩) (hnone link)
      | error f =>
          have hfails : failsConnect f = true := by
            rcases Network.fault_of_answer hanswer with rfl | ⟨script, hmem, hfault⟩
            · rfl
            · exact (hscripts _ script hmem).connect f hfault
          have hreport : connectReport mode reader.endpoint f =
              .connectFailed mode reader.endpoint f := if_pos hfails
          rw [start_of_unanswered request hbegins hanswer, hreport]
          exact ⟨_, _, _, rfl⟩

/-- On a connection the handshake is answered. -/
theorem start_of_connected (hfits : request.Fits) (hconnects : Connects mode net reader link) :
    ∃ r connected net', start mode request (net, reader) =
        ⟨r.outcome, .connect net.attempts reader.endpoint connected :: r.notes, (net', r.state)⟩ ∧
      Answered mode request { reader with link := some link } link r := by
  obtain ⟨hbegins, hanswer⟩ := connects_iff.1 hconnects
  obtain ⟨script, hmem, -, -, rfl⟩ := Network.exists_script_of_answer hanswer
  refine ⟨_, _, _, start_of_answered request hbegins hanswer, ?_⟩
  exact handshake_answered mode hfits rfl (hscripts _ script hmem).toFailsBySystem

/-- An opening succeeds exactly if the connect and the send succeed and two zero bytes are the first
to arrive. Otherwise it fails with the status that has arrived, if one has, no connection is held,
and one that was made is closed once. At most two bytes are taken, and after a success the next read
begins with the third. -/
theorem start_exact (mode : Mode) (hfits : request.Fits) (hheld : reader.link = none) :
    ((start mode request (net, reader)).outcome = .ok () ↔
      ∃ link, Receives mode net reader link 0 0) ∧
    ((start mode request (net, reader)).outcome ≠ .ok () →
      (∃ f, (start mode request (net, reader)).outcome = .fault f ∧ f.kind = .sessionOpen ∧
        (∀ link high low, Receives mode net reader link high low →
          f.status? = some (high.toBitVec ++ low.toBitVec).toInt) ∧
        ((∀ link high low, ¬ Receives mode net reader link high low) → f.status? = none)) ∧
      (start mode request (net, reader)).state.2.link = none ∧
      ∀ link, Connects mode net reader link →
        (start mode request (net, reader)).notes.count (.close link.id) = 1) ∧
    ∀ link, Connects mode net reader link →
      ∃ arrivals, arrivals = left mode link.arrivals (start mode request (net, reader)).notes ∧
        (∃ taken, taken.length ≤ 2 ∧ content link.arrivals = taken ++ content arrivals) ∧
        ((start mode request (net, reader)).outcome = .ok () →
          (start mode request (net, reader)).state.2.link = some { link with arrivals } ∧
          items link.arrivals = .ok 0 :: .ok 0 :: items arrivals ∧
          ∀ third rest, items arrivals = .ok third :: rest →
            ∀ length, 1 ≤ min length reader.bufferSize →
              ∃ data, (read mode length (start mode request (net, reader)).state.2).outcome =
                  .ok (third :: data) ∧
                third :: data <+: (content link.arrivals).drop 2) := by
  by_cases hconnects : ∃ link, Connects mode net reader link
  · obtain ⟨link, hlink⟩ := hconnects
    obtain ⟨r, connected, net', hstart, hanswered⟩ := start_of_connected hscripts hfits hlink
    rw [hstart]
    refine ⟨?outcome, ?failed, ?taken⟩
    case outcome =>
        simp only [receives_iff hfits hlink, exists_eq_left]
        exact hanswered.outcome_iff
    case failed =>
        intro hr
        obtain ⟨f, houtcome, hkind, hstatus, hsilent, hstate, hcloses⟩ := hanswered.fault hr
        refine ⟨⟨f, houtcome, hkind, ?_, ?_⟩, hstate, ?_⟩
        · intro link' high low h
          exact hstatus high low ((receives_iff hfits hlink).1 h).2
        · intro hnone
          refine hsilent fun high low h => hnone link high low ?_
          exact (receives_iff hfits hlink).2 ⟨rfl, h⟩
        · intro link' hlink'
          obtain rfl := hlink.unique hlink'
          rw [List.count_cons_of_ne Note.noConfusion, hcloses.count]
    case taken =>
        intro link' hlink'
        obtain rfl := hlink.unique hlink'
        obtain ⟨taken, hlength, hcontent, -⟩ := content_unread request link'
        refine ⟨unread request link', hanswered.left_eq.symm, ⟨taken, hlength, hcontent⟩, ?_⟩
        intro hr
        refine ⟨?_, hanswered.continues hr⟩
        exact congrArg Reader.link (hanswered.state_eq hr)
  · have hnone : ∀ link, ¬ Connects mode net reader link := fun link h => hconnects ⟨link, h⟩
    obtain ⟨f, notes, net', hstart⟩ := start_of_unconnected hscripts request hnone
    rw [hstart]
    refine ⟨iff_of_false nofun fun ⟨link, h⟩ => hnone link h.connects, ?_, ?_⟩
    · intro _
      refine ⟨⟨_, rfl, rfl, fun link _ _ h => absurd h.connects (hnone link), fun _ => rfl⟩,
        hheld, fun link h => absurd h (hnone link)⟩
    · intro link h
      exact absurd h (hnone link)

end Start

/-! ### Openings in pieces -/

/-- A network on which every node sends the same pieces. -/
def sending (pieces : List Bytes) : Network where
  scripts _ := [{ arrivals := pieces.map .ok }]

theorem failsOpening_sending (pieces : List Bytes) :
    (sending pieces).AllScripts Script.FailsOpening := by
  intro endpoint script hscript
  obtain rfl := List.mem_singleton.1 hscript
  refine ⟨⟨?_, nofun, nofun⟩, nofun⟩
  intro f hf
  simp at hf

/-- The opening of a session for a block of three bytes. -/
def threeBytes : Opening :=
  Streamer.modest.opening (Streamer.wholeBlock 3) 3

/-- Status and data in one piece: the opening succeeds, and the next read begins with the third
byte. A status other than success in two pieces, with data behind it: the opening fails with it. -/
theorem start_exact_sending :
    threeBytes.request.Fits ∧ threeBytes.reader.link = none ∧
    (start .async threeBytes.request (sending [[0, 0, 97, 98]], threeBytes.reader)).outcome =
      .ok () ∧
    (∃ data, (read .async 1 (start .async threeBytes.request
      (sending [[0, 0, 97, 98]], threeBytes.reader)).state.2).outcome = .ok (97 :: data)) ∧
    ∃ f, (start .sync threeBytes.request
        (sending [[255], [251, 97]], threeBytes.reader)).outcome = .fault f ∧
      f.status? = some (-5) := by
  have hfits : threeBytes.request.Fits := by decide +kernel
  have hprompt : Receives .async (sending [[0, 0, 97, 98]]) threeBytes.reader
      ⟨0, [.ok [0, 0, 97, 98]], none, none⟩ 0 0 :=
    ⟨connects_iff.2 ⟨by decide +kernel, rfl⟩, rfl, _, rfl⟩
  have hcurt : Receives .sync (sending [[255], [251, 97]]) threeBytes.reader
      ⟨0, [.ok [255], .ok [251, 97]], none, none⟩ 255 251 :=
    ⟨connects_iff.2 ⟨rfl, rfl⟩, rfl, _, rfl⟩
  obtain ⟨hsuccess, -, htaken⟩ := start_exact (failsOpening_sending [[0, 0, 97, 98]]) .async hfits
    (rfl : threeBytes.reader.link = none)
  obtain ⟨arrivals, -, -, hdata⟩ := htaken _ hprompt.connects
  have hopened := hsuccess.2 ⟨_, hprompt⟩
  obtain ⟨-, hitems, hread⟩ := hdata hopened
  have hthird : items arrivals = .ok 97 :: [.ok 98] :=
    (List.cons.inj (List.cons.inj hitems).2).2.symm
  obtain ⟨data, hnext, -⟩ := hread 97 _ hthird 1 (by decide)
  obtain ⟨-, hrefused, -⟩ := start_exact (failsOpening_sending [[255], [251, 97]]) .sync
    hfits (rfl : threeBytes.reader.link = none)
  have hrefusal : (start .sync threeBytes.request
      (sending [[255], [251, 97]], threeBytes.reader)).outcome ≠ .ok () := by
    decide +kernel
  obtain ⟨⟨f, houtcome, -, hstatus, -⟩, -⟩ := hrefused hrefusal
  exact ⟨hfits, rfl, hopened, ⟨data, hnext⟩, f, houtcome, hstatus _ _ _ hcurt⟩

end Reader
end ReplicaRead
