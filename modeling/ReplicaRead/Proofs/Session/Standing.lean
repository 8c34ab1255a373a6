import ReplicaRead.Proofs.Closing
import ReplicaRead.Proofs.Session.Calls

/-!
# Which opening a read stands on

A read returns bytes from the connection that is held, whichever call made it. Mostly that is the
most recent opening, and it succeeded. But an opening that makes no connection leaves the one that
is held, and one whose request does not fit its frame leaves a connection on which nothing was
asked. So a read may return bytes after an opening that failed.

Algorithm: the held connection is traced back to the call that made it. Since then the reader was
not closed and no other connection was made; what else may have come are reads, and openings that
made no connection.

Results: `Standing`, how a connection has come to be held; `stands_of_entries`, that every one has;
and `authorised_iff_of_read`, when the most recent opening stands behind the bytes of a read.
-/

namespace ReplicaRead
namespace Reader

open Act Arrivals

/-- A call makes a connection. -/
structure Entry.Makes (mode : Mode) (e : Entry) (link : Link) : Prop where
  start : e.call.isStart = true
  begins : Network.begins mode e.before.2.timeout = true
  answer : e.before.1.answer e.before.2.endpoint = .ok link

/-- The most recent opening returned normally, and nothing but reads came after it. -/
def Authorised (mode : Mode) (h : List Entry) : Prop :=
  ∃ earlier opened later, h = earlier ++ opened :: later ∧ opened.call.isStart = true ∧
    (opened.run mode).outcome = .ok [] ∧ ∀ e ∈ later, e.call.isRead = true

/-- The connection `id` that is held was made for a request by the call `opened`. -/
structure Standing (mode : Mode) (h : List Entry) (id : Option Nat) (earlier : List Entry)
    (opened : Entry) (later : List Entry) (request : Request) : Prop where
  split : h = earlier ++ opened :: later
  call : opened.call = .start request
  made : ∃ link, opened.Makes mode link ∧ id = some link.id
  /-- Since then the reader was not closed, and no other connection was made. -/
  unclosed : ∀ e ∈ later, e.call ≠ .close
  unmade : ∀ e ∈ later, ∀ link, ¬ e.Makes mode link

/-! ### What a call does to the connection that is held -/

/-- Only a request that fits gets a status. -/
theorem fits_of_reply {request : Request} {link : Link} {high low : UInt8}
    (h : reply request link = .bytes high low) : request.Fits := by
  refine Classical.byContradiction fun hfits => ?_
  rw [reply, Request.encode_of_not_fits hfits] at h
  cases h

/-- The ways in which a call leaves what is held. -/
inductive Leaves (mode : Mode) (e : Entry) : Prop where
  /-- It makes a connection. If that is held in the end, the opening succeeded exactly if the
  request fits. -/
  | makes {request : Request} {link : Link} (hcall : e.call = .start request)
      (hmakes : e.Makes mode link)
      (hheld : (e.after mode).2.link = none ∨ (e.after mode).2.heldId = some link.id ∧
        ((e.run mode).outcome = .ok [] ↔ request.Fits))
  | keeps (hclose : e.call ≠ .close) (hmakes : ∀ link, ¬ e.Makes mode link)
      (hheld : (e.after mode).2.heldId = e.before.2.heldId)
  | closes (hlink : (e.after mode).2.link = none)

theorem leaves_of_scripts (mode : Mode) (e : Entry)
    (hscripts : e.before.1.AllScripts Script.FailsBySystem) :
    Leaves mode e ∧ (e.after mode).1.AllScripts Script.FailsBySystem := by
  obtain ⟨call, s⟩ := e
  have hdoes := call.perform_does mode s
  generalize hrun : call.perform mode s = r at hdoes
  have hafter : Entry.after mode ⟨call, s⟩ = r.state := congrArg Run.state hrun
  have houtcome : (Entry.run mode ⟨call, s⟩).outcome = r.outcome := congrArg Run.outcome hrun
  rw [hafter]
  cases hdoes with
  | untimely hbegins =>
      refine ⟨.keeps nofun ?_ (by rw [hafter]), hscripts⟩
      intro link hmakes
      exact absurd (hbegins.symm.trans hmakes.begins) Bool.false_ne_true
  | unanswered hanswer =>
      refine ⟨.keeps nofun ?_ (by rw [hafter]), hscripts.afterAttempt _⟩
      intro link hmakes
      cases hanswer.symm.trans hmakes.answer
  | answered hbegins hanswer hends =>
      refine ⟨.makes rfl ⟨rfl, hbegins, hanswer⟩ ?_, hscripts.afterAttempt _⟩
      rw [hafter, houtcome]
      obtain ⟨script, hmem, -, -, rfl⟩ := Network.exists_script_of_answer hanswer
      cases hends with
      | granted hreply =>
          exact Or.inr ⟨rfl, fun _ => fits_of_reply hreply, fun _ => rfl⟩
      | closed =>
          exact Or.inl rfl
      | escaped hreply hf =>
          refine Or.inr ⟨rfl, nofun, ?_⟩
          intro hfits
          obtain ⟨payload, hencode⟩ := (Request.encode_eq_ok_iff _).2 hfits
          rw [failsHandshake_of_reply hencode (hscripts _ script hmem) hreply] at hf
          cases hf
  | readUnheld hlink =>
      exact ⟨.keeps nofun (fun link hmakes => nomatch hmakes.start) (by rw [hafter]), hscripts⟩
  | @readHeld length net reader link hlink =>
      refine ⟨.keeps nofun (fun link hmakes => nomatch hmakes.start) ?_, hscripts⟩
      rw [hafter]
      exact (congrArg (Option.map Link.id) hlink).symm
  | closeUnheld hlink =>
      exact ⟨.closes (hafter ▸ hlink), hscripts⟩
  | closeHeld hlink =>
      exact ⟨.closes (by rw [hafter]), hscripts⟩

/-! ### Runs of calls -/

theorem Standing.append {mode : Mode} {h : List Entry} {id : Option Nat} {earlier : List Entry}
    {opened : Entry} {later : List Entry} {request : Request} {e : Entry}
    (hstanding : Standing mode h id earlier opened later request) (hclose : e.call ≠ .close)
    (hmakes : ∀ link, ¬ e.Makes mode link) :
    Standing mode (h ++ [e]) id earlier opened (later ++ [e]) request := by
  refine ⟨?_, hstanding.call, hstanding.made, ?_, ?_⟩
  · rw [hstanding.split, List.append_assoc]
    rfl
  · exact List.forall_mem_append.2 ⟨hstanding.unclosed, List.forall_mem_singleton.2 hclose⟩
  · exact List.forall_mem_append.2 ⟨hstanding.unmade, List.forall_mem_singleton.2 hmakes⟩

/-- A connection that is held stands on an opening, which succeeded exactly if its request fits. -/
def Stands (mode : Mode) (h : List Entry) (s : Network × Reader) : Prop :=
  s.1.AllScripts Script.FailsBySystem ∧
    (s.2.link = none ∨ ∃ earlier opened later request,
      Standing mode h s.2.heldId earlier opened later request ∧
        ((opened.run mode).outcome = .ok [] ↔ request.Fits))

theorem Stands.step {mode : Mode} {h : List Entry} {s : Network × Reader}
    (hstands : Stands mode h s) (call : Call) :
    Stands mode (h ++ [⟨call, s⟩]) (call.perform mode s).state := by
  obtain ⟨hscripts, hheld⟩ := hstands
  obtain ⟨hleaves, hscripts'⟩ := leaves_of_scripts mode ⟨call, s⟩ hscripts
  refine ⟨hscripts', ?_⟩
  cases hleaves with
  | @makes request link hcall hmakes hafter =>
      rcases hafter with hlink | ⟨hlink, hfits⟩
      · exact Or.inl hlink
      · refine Or.inr ⟨h, ⟨call, s⟩, [], request, ?_, hfits⟩
        exact ⟨rfl, hcall, ⟨link, hmakes, hlink⟩, by simp, by simp⟩
  | keeps hclose hmakes hafter =>
      rcases hheld with hlink | ⟨earlier, opened, later, request, hstanding, hfits⟩
      · refine Or.inl ?_
        rw [heldId, heldId, hlink] at hafter
        exact Option.map_eq_none_iff.1 hafter
      · refine Or.inr ⟨earlier, opened, later ++ [⟨call, s⟩], request, ?_, hfits⟩
        have happended := hstanding.append hclose hmakes
        rwa [← hafter] at happended
  | closes hlink =>
      exact Or.inl hlink

theorem stands_of_entries {mode : Mode} {net : Network} {reader : Reader}
    (hscripts : net.AllScripts Script.FailsBySystem) (hlink : reader.link = none)
    (calls : List Call) :
    Stands mode (entries mode calls (net, reader))
      (reached mode (net, reader) (entries mode calls (net, reader))) :=
  holds_of_entries ⟨hscripts, Or.inl hlink⟩ (fun _ _ call hstands => hstands.step call) calls

/-! ### When the most recent opening stands behind a read -/

/-- An opening that returns normally makes a connection. -/
theorem Entry.exists_makes {mode : Mode} {e : Entry} (hstart : e.call.isStart = true)
    (hok : (e.run mode).outcome = .ok []) : ∃ link, e.Makes mode link := by
  obtain ⟨call, s⟩ := e
  have hdoes := call.perform_does mode s
  rw [Entry.run] at hok
  generalize call.perform mode s = r at hdoes hok
  cases hdoes with
  | untimely | unanswered =>
      cases hok
  | @answered request net reader link r hbegins hanswer hends =>
      exact ⟨link, rfl, hbegins, hanswer⟩
  | readUnheld | readHeld | closeUnheld | closeHeld =>
      cases hstart

/-- The opening on which a connection stands is the most recent that returned normally, if there is
none that failed since. -/
theorem Standing.authorised_iff {mode : Mode} {h : List Entry} {id : Option Nat}
    {earlier : List Entry} {opened : Entry} {later : List Entry} {request : Request}
    (hstanding : Standing mode h id earlier opened later request) :
    Authorised mode h ↔
      (opened.run mode).outcome = .ok [] ∧ ∀ e ∈ later, e.call.isRead = true := by
  have hstart : opened.call.isStart = true := congrArg Call.isStart hstanding.call
  constructor
  · rintro ⟨earlier', opened', later', hsplit, hstart', hok, hreads⟩
    rw [hstanding.split] at hsplit
    rcases List.append_eq_append_iff.1 hsplit with ⟨c, rfl, hc⟩ | ⟨c, rfl, hc⟩
    · cases c with
      | nil =>
          cases hc
          exact ⟨hok, hreads⟩
      | cons x c =>
          -- The opening that succeeded would be among the later calls, which make no connection.
          obtain ⟨rfl, rfl⟩ := List.cons.inj hc
          obtain ⟨link, hmakes⟩ := Entry.exists_makes hstart' hok
          exact absurd hmakes
            (hstanding.unmade opened' (List.mem_append_right c List.mem_cons_self) link)
    · cases c with
      | nil =>
          cases hc
          exact ⟨hok, hreads⟩
      | cons x c =>
          -- The call that made the connection would be among the reads.
          obtain ⟨rfl, rfl⟩ := List.cons.inj hc
          have hread := hreads opened (List.mem_append_right c List.mem_cons_self)
          rw [hstanding.call] at hread
          cases hread
  · rintro ⟨hok, hreads⟩
    exact ⟨earlier, opened, later, hstanding.split, hstart, hok, hreads⟩

/-- Only a read that meets a connection returns bytes. -/
theorem link_ne_none_of_read {mode : Mode} {length : Int} {s : Network × Reader}
    {r : Run (Network × Reader) Bytes} {bs : Bytes} (h : (Call.read length).Does mode s r)
    (hok : r.outcome = .ok bs) : s.2.link ≠ none := by
  cases h with
  | readUnheld =>
      cases hok
  | readHeld hlink =>
      exact Option.ne_none_iff_exists'.2 ⟨_, hlink⟩

/-- The bytes of a read come from a connection that an opening made. They are authorised by the most
recent opening exactly if the request of the opening that made it fits, and no opening failed to
make another since. -/
theorem authorised_iff_of_read (mode : Mode) (ops : List Operation) {net : Network}
    (endpoint : Endpoint) (timeout : Binary64) (bufferSize : Int)
    (hscripts : net.AllScripts Script.FailsBySystem) {done rest : List Entry} {e : Entry}
    {length : Int} {bs : Bytes}
    (hsplit : history mode ops (net, { endpoint, timeout, bufferSize }) = done ++ e :: rest)
    (hcall : e.call = .read length) (hok : (e.run mode).outcome = .ok bs) :
    ∃ earlier opened later request,
      Standing mode done e.before.2.heldId earlier opened later request ∧
        (Authorised mode done ↔ request.Fits ∧ ∀ x ∈ later, x.call.isRead = true) := by
  obtain ⟨call, before⟩ := e
  obtain rfl : call = .read length := hcall
  have hheld := link_ne_none_of_read ((Call.read length).perform_does mode before) hok
  obtain ⟨first, others, rfl, hothers⟩ := exists_calls_of_split hsplit
  have hfresh : ({ endpoint, timeout, bufferSize } : Reader).link = none := rfl
  have hkept : Stands mode _ _ := stands_of_entries hscripts hfresh first
  rw [← before_of_cons hothers] at hkept
  rcases hkept.2 with hlink | ⟨earlier, opened, later, request, hstanding, hfits⟩
  · exact absurd hlink hheld
  · refine ⟨earlier, opened, later, request, hstanding, ?_⟩
    rw [hstanding.authorised_iff, hfits]

/-! ### An opening that fails on a reader that is open -/

/-- The last call of an authorised run is a read, or an opening that returned normally. -/
theorem Authorised.last {mode : Mode} {h : List Entry} {e : Entry}
    (hauthorised : Authorised mode (h ++ [e])) :
    e.call.isRead = true ∨ (e.run mode).outcome = .ok [] := by
  obtain ⟨earlier, opened, later, hsplit, -, hok, hreads⟩ := hauthorised
  rcases List.eq_nil_or_concat later with rfl | ⟨later, x, rfl⟩
  · obtain ⟨-, hlast⟩ := List.append_inj' hsplit rfl
    cases hlast
    exact Or.inr hok
  · have hlast : h ++ [e] = (earlier ++ opened :: later) ++ [x] := by
      rw [hsplit, List.concat_eq_append, List.append_assoc]
      rfl
    obtain ⟨-, hlast⟩ := List.append_inj' hlast rfl
    cases hlast
    exact Or.inl (hreads e (by simp))

/-- A node that grants a request and supplies one byte, and does not listen any more. -/
def willingOnce : Network where
  scripts endpoint :=
    if endpoint = .atFirstPort "a" then [{ arrivals := [.ok [0, 0], .ok [97]] }] else []

theorem failsBySystem_willingOnce : willingOnce.AllScripts Script.FailsBySystem := by
  intro endpoint script hscript
  unfold willingOnce at hscript
  by_cases ha : endpoint = .atFirstPort "a"
  · simp only [ha, if_true, List.mem_singleton] at hscript
    subst hscript
    refine ⟨?_, nofun, nofun⟩
    intro f hf
    simp at hf
  · simp [ha] at hscript

/-- A new reader of this node. -/
def hasty : Network × Reader :=
  (willingOnce, { endpoint := .atFirstPort "a", timeout := .ofInt 5, bufferSize := 4096 })

/-- The reader is opened, opened again while it is open, and read from. -/
def reopening : List Operation :=
  [.start 7 1 3 {} 0 1 "v", .start 7 1 3 {} 0 1 "v", .read 1]

/-- The opening that is made twice. -/
def repeated : Call :=
  .start (request ⟨7, 1, 3⟩ {} 0 1 "v")

/-- The second opening, on a reader that is open. -/
def secondOpening : Entry :=
  ⟨repeated, (repeated.perform .sync hasty).state⟩

/-- The two openings. -/
def twoOpenings : List Entry :=
  [⟨repeated, hasty⟩, secondOpening]

/-- The read that follows. -/
def afterwards : Entry :=
  ⟨.read 1, reached .sync hasty twoOpenings⟩

theorem history_reopening : history .sync reopening hasty = twoOpenings ++ [afterwards] := rfl

theorem outcome_afterwards : (afterwards.run .sync).outcome = .ok [97] := rfl

/-- The law for the read after two openings. -/
theorem authorised_iff_of_read_reopening :
    ∃ earlier opened later request,
      Standing .sync twoOpenings afterwards.before.2.heldId earlier opened later request ∧
        (Authorised .sync twoOpenings ↔
          request.Fits ∧ ∀ x ∈ later, x.call.isRead = true) :=
  authorised_iff_of_read .sync reopening (.atFirstPort "a") (.ofInt 5) 4096
    failsBySystem_willingOnce history_reopening rfl outcome_afterwards

/-- The second opening fails, and still the read returns the byte that answers the first. -/
theorem not_authorised_reopening :
    willingOnce.AllScripts Script.FailsBySystem ∧
      history .sync reopening hasty = twoOpenings ++ [afterwards] ∧
      afterwards.call = .read 1 ∧ (afterwards.run .sync).outcome = .ok [97] ∧
      ¬ Authorised .sync twoOpenings := by
  refine ⟨failsBySystem_willingOnce, history_reopening, rfl, outcome_afterwards, ?_⟩
  intro hauthorised
  obtain ⟨f, hfails⟩ : ∃ f, (secondOpening.run .sync).outcome = .fault f := ⟨_, rfl⟩
  rcases Authorised.last (h := [⟨repeated, hasty⟩]) hauthorised with hread | hok
  · cases hread
  · cases hfails.symm.trans hok

end Reader
end ReplicaRead
