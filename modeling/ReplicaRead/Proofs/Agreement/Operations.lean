import Mathlib.Data.List.Forall2
import ReplicaRead.Proofs.Agreement.Session
import ReplicaRead.Session.Operation

/-!
# Agreement of operations in both modes

Readers in both modes go in step, operation by operation: from one state they end alike, in one
state. So they have counted the same, hold the same connection or none, and have taken the same
bytes from it, whatever they do next.

Algorithm: what both readers rely on is kept by every operation: nothing is cut off within an exact
read, only failures of the system come of closing, no read is given a size below zero, and awaited
calls are given time. Actions made of parts that go in step go in step.

Results: `Act.Alike`, with a rule for each way in which an action is made of others; `start_alike`,
`read_alike` and `close_alike`; and `performAll_alike`.
-/

namespace ReplicaRead

open Act Arrivals

/-! ### Runs that end alike -/

/-- The faults are of one kind, with one status. -/
structure Fault.Alike (f g : Fault) : Prop where
  kind : f.kind = g.kind
  status : f.status? = g.status?

/-- The values are equal, or the faults are alike. -/
inductive Outcome.Alike {α : Type} : Outcome α → Outcome α → Prop where
  | ok (a : α) : Alike (.ok a) (.ok a)
  | fault {f g : Fault} (h : f.Alike g) : Alike (.fault f) (.fault g)

/-- Runs that end alike, in one state. -/
structure Run.Alike {σ α : Type} (r r' : Run σ α) : Prop where
  outcome : r.outcome.Alike r'.outcome
  state : r.state = r'.state

theorem Fault.Alike.refl (f : Fault) : f.Alike f :=
  ⟨rfl, rfl⟩

theorem Fault.Agrees.alike {f g : Fault} (h : f.Agrees g) : f.Alike g :=
  ⟨h.kind, h.status⟩

theorem Outcome.Alike.ne_unfinished {α : Type} {o o' : Outcome α} (h : o.Alike o') :
    o ≠ .unfinished ∧ o' ≠ .unfinished := by
  cases h with
  | ok a | fault h =>
      exact ⟨nofun, nofun⟩

section Rules

variable {σ τ α β : Type} {I : σ → Prop} {J : τ → Prop}

/-- From every state with a property the actions end alike, in one state with the property. -/
def Act.Alike (I : σ → Prop) (p q : Act σ α) : Prop :=
  ∀ s, I s → (p s).Alike (q s) ∧ I (p s).state

namespace Act

theorem Alike.pure (a : α) : Alike I (Pure.pure a : Act σ α) (Pure.pure a) :=
  fun _ hs => ⟨⟨.ok a, rfl⟩, hs⟩

theorem Alike.ofExcept (x : Except Fault α) :
    Alike I (Act.ofExcept x : Act σ α) (Act.ofExcept x) := by
  intro s hs
  cases x with
  | ok a =>
      exact ⟨⟨.ok a, rfl⟩, hs⟩
  | error f =>
      exact ⟨⟨.fault (.refl f), rfl⟩, hs⟩

theorem Alike.bind {p q : Act σ α} {f g : α → Act σ β} (h : Alike I p q)
    (hnext : ∀ a, Alike I (f a) (g a)) : Alike I (p >>= f) (q >>= g) := by
  intro s hs
  obtain ⟨⟨houtcome, hstate⟩, hafter⟩ := h s hs
  cases hp : p s with
  | mk o notes t =>
      cases hq : q s with
      | mk o' notes' t' =>
          rw [hp] at houtcome hstate hafter
          rw [hq] at houtcome hstate
          cases hstate
          cases houtcome with
          | ok a =>
              rw [bind_of_ok hp, bind_of_ok hq]
              obtain ⟨⟨houtcome', hstate'⟩, hafter'⟩ := hnext a t hafter
              exact ⟨⟨houtcome', hstate'⟩, hafter'⟩
          | fault hf =>
              rw [bind_of_fault hp, bind_of_fault hq]
              exact ⟨⟨.fault hf, rfl⟩, hafter⟩

theorem Alike.andFinally {p q : Act σ α} {last last' : Act σ Unit} (h : Alike I p q)
    (hlast : Alike I last last') : Alike I (p.andFinally last) (q.andFinally last') := by
  intro s hs
  obtain ⟨⟨houtcome, hstate⟩, hafter⟩ := h s hs
  obtain ⟨hends, hends'⟩ := houtcome.ne_unfinished
  obtain ⟨⟨hlastOutcome, hlastState⟩, hlastAfter⟩ := hlast _ hafter
  cases hp : p s with
  | mk o notes t =>
      cases hq : q s with
      | mk o' notes' t' =>
          rw [hp] at houtcome hstate hends hlastOutcome hlastState hlastAfter
          rw [hq] at houtcome hstate hends'
          cases hstate
          cases hl : last t with
          | mk ol lnotes u =>
              cases hl' : last' t with
              | mk ol' lnotes' u' =>
                  rw [hl] at hlastOutcome hlastState hlastAfter
                  rw [hl'] at hlastOutcome hlastState
                  cases hlastState
                  cases hlastOutcome with
                  | ok _ =>
                      rw [andFinally_of_ok hp hends hl, andFinally_of_ok hq hends' hl']
                      exact ⟨⟨houtcome, rfl⟩, hlastAfter⟩
                  | fault hf =>
                      rw [andFinally_of_fault hp hends hl, andFinally_of_fault hq hends' hl']
                      exact ⟨⟨.fault hf, rfl⟩, hlastAfter⟩

/-- Actions on a part of the state leave the other part as it is. -/
theorem Alike.onSnd {p q : Act τ α} (h : Alike J p q) :
    Alike (fun s => I s.1 ∧ J s.2) (Act.onSnd p : Act (σ × τ) α) (Act.onSnd q) := by
  rintro ⟨s, t⟩ ⟨hs, ht⟩
  obtain ⟨⟨houtcome, hstate⟩, hafter⟩ := h t ht
  exact ⟨⟨houtcome, congrArg (Prod.mk s) hstate⟩, hs, hafter⟩

end Act

end Rules

namespace Reader

/-! ### Calls on a reader -/

/-- Awaited calls of the reader are given time, the size of its buffer is one, and only failures of
the system come of closing the connection that it holds. -/
structure Steady (reader : Reader) : Prop where
  buffer : 0 ≤ reader.bufferSize
  begins : Network.begins .async reader.timeout = true
  closing : ∀ link, reader.link = some link → ∀ f, link.closeFault = some f → f.isSystem = true

theorem report_alike (endpoint : Endpoint) (timeout : Binary64) (f : Fault) :
    (report .sync endpoint timeout f).Alike (report .async endpoint timeout f) := by
  refine ⟨(report_kind .async endpoint timeout f).symm, ?_⟩
  by_cases hkind : f.kind = .timeout
  · have hsync : f.status? = none := by
      cases f with
      | outside kind text status =>
          obtain rfl : kind = .timeout := hkind
          rfl
      | refused endpoint blockId status =>
          cases hkind
      | _ =>
          rfl
    simp only [report, hkind, if_true]
    exact hsync
  · simp only [report, hkind, if_false]

/-- Sizes below zero are left out: a blocking read refuses them, and an awaited one takes them for
everything. -/
theorem read_alike {length : Int} (hlength : 0 ≤ length) :
    Alike Steady (read .sync length) (read .async length) := by
  intro reader hsteady
  cases hlink : reader.link with
  | none =>
      rw [read_of_unheld hlink, read_of_unheld hlink]
      exact ⟨⟨.fault (.refl _), rfl⟩, hsteady⟩
  | some link =>
      have hsize : 0 ≤ min length reader.bufferSize := Int.le_min.2 ⟨hlength, hsteady.buffer⟩
      rw [read_of_held hlink, read_of_held hlink, receivePiece_of_nonneg hsize,
        advanced_of_nonneg hsize]
      refine ⟨⟨?_, rfl⟩, hsteady.buffer, hsteady.begins, ?_⟩
      · cases receivePiece .async (min length reader.bufferSize) link.arrivals with
        | ok bs =>
            exact .ok bs
        | error f =>
            exact .fault (report_alike reader.endpoint reader.timeout f)
      · intro held hheld
        cases hheld
        exact hsteady.closing link hlink

theorem close_alike : Alike Steady (close .sync) (close .async) := by
  intro reader hsteady
  cases hlink : reader.link with
  | none =>
      rw [close_of_unheld hlink, close_of_unheld hlink]
      exact ⟨⟨.ok (), rfl⟩, hsteady⟩
  | some link =>
      have hclosing : ∀ mode, link.closingFault mode = none :=
        Link.closingFault_eq_none (hsteady.closing link hlink)
      rw [close_of_held hlink, close_of_held hlink, hclosing, hclosing]
      exact ⟨⟨.ok (), rfl⟩, hsteady.buffer, hsteady.begins, nofun⟩

theorem readPieces_alike {lengths : List Int} (h : ∀ length ∈ lengths, 0 ≤ length) :
    Alike Steady (readPieces .sync lengths) (readPieces .async lengths) := by
  induction lengths with
  | nil =>
      exact .pure []
  | cons length lengths ih =>
      obtain ⟨hlength, hlengths⟩ := List.forall_mem_cons.1 h
      exact (read_alike hlength).bind fun _ => (ih hlengths).bind fun _ => .pure _

theorem readAll_alike {lengths : List Int} (h : ∀ length ∈ lengths, 0 ≤ length) :
    Alike Steady (readAll .sync lengths) (readAll .async lengths) :=
  (readPieces_alike h).andFinally close_alike

/-- The state of a network and a reader in which both modes go in step. -/
abbrev InStep (s : Network × Reader) : Prop :=
  s.1.AllScripts Script.Plain ∧ s.2.Steady

theorem start_alike (request : Request) :
    Alike InStep (start .sync request) (start .async request) := by
  rintro ⟨net, reader⟩ ⟨hscripts, hsteady⟩
  have hafter := hscripts.afterAttempt reader.endpoint
  cases hanswer : net.answer reader.endpoint with
  | error f =>
      rw [start_of_unanswered request rfl hanswer,
        start_of_unanswered request hsteady.begins hanswer]
      exact ⟨⟨.fault (connectReport_agrees reader.endpoint f).alike, rfl⟩, hafter, hsteady⟩
  | ok link =>
      rw [start_of_answered request rfl hanswer,
        start_of_answered request hsteady.begins hanswer]
      obtain ⟨script, hmem, -, -, rfl⟩ := Network.exists_script_of_answer hanswer
      have hscript := hscripts _ script hmem
      let connected : Reader := { reader with link := some (script.link net.attempts) }
      have hgreeted := handshake_greeted request (rfl : connected.link = _) hscript
      have hends := handshake_ends .sync request (rfl : connected.link = _)
      -- Both handshakes leave one reader, so it is enough to look at one of them.
      have hsteady' : (handshake .sync request connected).state.Steady := by
        obtain ⟨htimeout, hbuffer⟩ := hends.parameters_eq
        refine ⟨?_, ?_, ?_⟩
        · rw [hbuffer]
          exact hsteady.buffer
        · rw [htimeout]
          exact hsteady.begins
        · intro held hheld
          obtain ⟨arrivals, rfl⟩ := hends.exists_arrivals hheld
          exact hscript.close
      refine ⟨?_, hafter, hsteady'⟩
      generalize handshake .sync request connected = r at hgreeted
      generalize handshake .async request connected = r' at hgreeted
      cases hgreeted with
      | granted =>
          exact ⟨.ok (), rfl⟩
      | failed hfault =>
          exact ⟨.fault hfault.alike, rfl⟩

/-! ### Operations -/

namespace Operation

/-- The lengths that the reads of an operation ask for. -/
def lengths : Operation → List Int
  | start .. | close => []
  | read length => [length]
  | readAll lengths => lengths

theorem perform_alike {op : Operation} (h : ∀ length ∈ op.lengths, 0 ≤ length) :
    Alike InStep (op.perform .sync) (op.perform .async) := by
  cases op with
  | start blockId stamp blockLength credential offset length clientName =>
      exact (Alike.ofExcept _).bind fun _ => (start_alike _).bind fun _ => .pure _
  | read length =>
      exact (read_alike (List.forall_mem_singleton.1 h)).onSnd.bind fun _ => .pure _
  | close =>
      exact close_alike.onSnd.bind fun _ => .pure _
  | readAll lengths =>
      exact (readAll_alike h).onSnd.bind fun _ => .pure _

/-- Operations in both modes go in step from every state in which they can. -/
theorem performAll_alike_of_inStep {ops : List Operation} {s : Network × Reader}
    (hlengths : ∀ op ∈ ops, ∀ length ∈ op.lengths, 0 ≤ length) (h : InStep s) :
    List.Forall₂ Run.Alike (performAll .sync ops s) (performAll .async ops s) := by
  induction ops generalizing s with
  | nil =>
      exact .nil
  | cons op ops ih =>
      obtain ⟨hop, hops⟩ := List.forall_mem_cons.1 hlengths
      obtain ⟨halike, hafter⟩ := perform_alike hop s h
      refine .cons halike ?_
      rw [← halike.state]
      exact ih hops hafter

/-- Readers in both modes that are made alike go in step through all operations, if no read is given
a size below zero and awaited calls are given time. -/
theorem performAll_alike {ops : List Operation} {net : Network} (endpoint : Endpoint)
    {timeout : Binary64} {bufferSize : Int} (hbuffer : 0 ≤ bufferSize)
    (hlengths : ∀ op ∈ ops, ∀ length ∈ op.lengths, 0 ≤ length)
    (hbegins : Network.begins .async timeout = true) (hscripts : net.AllScripts Script.Plain) :
    List.Forall₂ Run.Alike
      (performAll .sync ops (net, { endpoint, timeout, bufferSize }))
      (performAll .async ops (net, { endpoint, timeout, bufferSize })) :=
  performAll_alike_of_inStep hlengths ⟨hscripts, hbuffer, hbegins, nofun⟩

/-- A node that grants a request in two pieces, hesitates, and then supplies two bytes. -/
def hesitating : Network where
  scripts _ := [{ arrivals := [.ok [0], .ok [0], .error (.outside .timeout .silent none),
    .ok [97, 98]] }]

theorem plain_hesitating : hesitating.AllScripts Script.Plain := by
  intro endpoint script hscript
  obtain rfl := List.mem_singleton.1 hscript
  refine ⟨?_, nofun, nofun⟩
  intro f hf
  simp only [List.mem_cons] at hf
  rcases hf with hf | hf | hf | hf | hf <;> cases hf
  exact nofun

/-- A new reader of this node with a timeout. -/
def hesitatingWithin (timeout : Binary64) : Network × Reader :=
  (hesitating, { endpoint := .atFirstPort "a", timeout, bufferSize := 4096 })

/-- The opening of a reader for two bytes. -/
def openTwoBytes : Operation :=
  .start 7 1 3 {} 0 2 "v"

/-- A reader is opened, read from twice, and closed. -/
def twoReads : List Operation :=
  [openTwoBytes, .read 1, .read 2, .close]

/-- The law where the first read times out, which only asynchronous mode reports with the
endpoint. -/
theorem performAll_alike_hesitating :
    List.Forall₂ Run.Alike (performAll .sync twoReads (hesitatingWithin (.ofInt 5)))
      (performAll .async twoReads (hesitatingWithin (.ofInt 5))) :=
  performAll_alike (.atFirstPort "a") (by decide) (by decide) (by decide +kernel) plain_hesitating

/-- An awaited opening that is given no time fails, where a blocking one succeeds. -/
theorem not_alike_of_zero :
    hesitating.AllScripts Script.Plain ∧
      ¬ List.Forall₂ Run.Alike (performAll .sync twoReads (hesitatingWithin (.ofInt 0)))
        (performAll .async twoReads (hesitatingWithin (.ofInt 0))) := by
  refine ⟨plain_hesitating, ?_⟩
  intro h
  obtain ⟨⟨houtcome, -⟩, -⟩ := List.forall₂_cons.1 h
  have hsync : (openTwoBytes.perform .sync (hesitatingWithin (.ofInt 0))).outcome =
      .ok .opened := by
    decide +kernel
  have hasync : (openTwoBytes.perform .async (hesitatingWithin (.ofInt 0))).outcome =
      .fault (.connectFailed .async (.atFirstPort "a") .noTime) := by
    decide +kernel
  rw [hsync, hasync] at houtcome
  cases houtcome

end Operation

end Reader

end ReplicaRead
