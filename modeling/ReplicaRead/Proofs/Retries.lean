import ReplicaRead.Proofs.Connecting
import ReplicaRead.Proofs.Turns
import ReplicaRead.Stream

/-!
# The budget of retries

A session may go on for ever: each of its reads brings data, no data or a failure of the system. The
loop goes on as long as data is missing and the failures are within the budget. A read that brings
no byte takes a retry, so each read makes the missing data or the budget less. A budget below zero
is never used up, and then only the data ends the loop.

Input: a session without end, given by the outcomes of all its reads.

Algorithm: the reads are counted as they are made. What is left of the loop after a number of reads
is computed from the outcomes of these reads alone. The loop is run with a bound on its reads; it
ends if some bound is enough, and goes on for ever if none is.

Results: `turns_of_goesOn`, the loop after a number of reads; `exists_endsAfter_iff`, when the loop
ends at all; and `ends_iff_budget_nonneg`, with the exact number of reads in the worst case.
-/

namespace ReplicaRead

/-! ### Sessions without end -/

/-- A session without end: the outcomes of all its reads. A read may bring more than was asked
for. -/
abbrev EndlessSession : Type :=
  Nat → Arrival

namespace EndlessSession

/-- All failures are failures of the system. -/
def FailsBySystem (session : EndlessSession) : Prop :=
  ∀ k f, session k = .error f → f.isSystem = true

/-- A session that brings data or nothing, but no faults. -/
theorem failsBySystem_ok (pieces : Nat → Bytes) : FailsBySystem fun k => .ok (pieces k) :=
  fun _ _ h => nomatch h

/-- The data that a read brings. -/
def chunk (session : EndlessSession) (k : Nat) : Bytes :=
  match session k with
  | .ok bs => bs
  | .error _ => []

/-- The data that the first reads bring. -/
def delivered (session : EndlessSession) (reads : Nat) : Bytes :=
  (List.range reads).flatMap session.chunk

/-- The number of failures among the first reads: these are the reads that bring no data. -/
def failed (session : EndlessSession) (reads : Nat) : Nat :=
  (List.range reads).countP fun k => (session.chunk k).isEmpty

/-- A read of such a session, which has made `k` reads before. -/
def read (session : EndlessSession) (size : Nat) : Act Nat Bytes := do
  let k ← Act.get
  Act.note (.requested size)
  Act.set (k + 1)
  Act.ofExcept (session k)

/-- The sessions with these outcomes. The supply is what such a session says of itself. -/
def kind (session : EndlessSession) (supply : Nat → Nat) : SessionKind Unit Nat where
  start _ := return 0
  read := session.read
  close := Act.note .released
  supply := supply

section Counting

variable (session : EndlessSession) (k : Nat)

@[simp] theorem delivered_zero : session.delivered 0 = [] := rfl

@[simp] theorem delivered_succ :
    session.delivered (k + 1) = session.delivered k ++ session.chunk k := by
  simp [delivered, List.range_succ]

@[simp] theorem failed_zero : session.failed 0 = 0 := rfl

@[simp] theorem failed_succ :
    session.failed (k + 1) = session.failed k + if session.chunk k = [] then 1 else 0 := by
  simp [failed, List.range_succ]

/-- Each read brings a byte or fails. -/
theorem le_delivered_add_failed : k ≤ (session.delivered k).length + session.failed k := by
  induction k with
  | zero =>
      exact Nat.zero_le _
  | succ k ih =>
      rw [delivered_succ, failed_succ, List.length_append]
      split
      case isTrue =>
          omega
      case isFalse hne =>
          have hpos := List.length_pos_iff.2 hne
          omega

end Counting

theorem read_apply (session : EndlessSession) (size k : Nat) :
    session.read size k = ⟨.ofExcept (session k), [.requested size], k + 1⟩ := by
  simp [read]

end EndlessSession

namespace ReadLoop

open Act EndlessSession

variable {session : EndlessSession} {loop : ReadLoop} {k : Nat}

/-! ### After a number of reads -/

/-- Data is missing after the first reads, and their failures are within the budget. -/
def GoesOn (loop : ReadLoop) (session : EndlessSession) (k : Nat) : Prop :=
  (session.delivered k).length < loop.remaining ∧
    (loop.retriesLeft < 0 ∨ session.failed k ≤ loop.retriesLeft)

/-- What is left of the loop after the first reads. -/
def after (loop : ReadLoop) (session : EndlessSession) (k : Nat) : ReadLoop :=
  { loop with
    received := loop.received ++ session.delivered k
    retriesLeft := loop.retriesLeft - session.failed k }

theorem remaining_after (loop : ReadLoop) (session : EndlessSession) (k : Nat) :
    (loop.after session k).remaining = loop.remaining - (session.delivered k).length := by
  simp [remaining, readOffset, after, Nat.sub_add_eq]

theorem GoesOn.of_succ (h : loop.GoesOn session (k + 1)) : loop.GoesOn session k := by
  simp only [GoesOn, delivered_succ, failed_succ, List.length_append] at h ⊢
  omega

theorem GoesOn.of_le {n : Nat} (h : loop.GoesOn session n) (hle : k ≤ n) :
    loop.GoesOn session k := by
  induction hle with
  | refl =>
      exact h
  | step hle ih =>
      exact ih h.of_succ

theorem GoesOn.missing (h : loop.GoesOn session k) : (loop.after session k).remaining ≠ 0 := by
  rw [remaining_after]
  have hmissing := h.1
  omega

/-- A read that brings no data fails. -/
theorem attempt_of_nothing (hsystem : session.FailsBySystem) (hchunk : session.chunk k = [])
    (loop : ReadLoop) :
    ∃ f : Fault, f.isSystem = true ∧
      attempt session.read loop k = ⟨.fault f, [.requested loop.remaining], k + 1⟩ := by
  have hread := read_apply session loop.remaining k
  cases houtcome : session k with
  | ok bs =>
      have hempty : bs = [] := by simpa [chunk, houtcome] using hchunk
      rw [houtcome, hempty] at hread
      exact ⟨.prematureEnd, rfl, attempt_of_empty hread⟩
  | error f =>
      rw [houtcome] at hread
      exact ⟨f, hsystem k f houtcome, attempt_of_fault hread⟩

/-- A read that brings data does not fail. -/
theorem read_of_chunk (hchunk : session.chunk k ≠ []) (size : Nat) :
    session.read size k = ⟨.ok (session.chunk k), [.requested size], k + 1⟩ := by
  rw [read_apply]
  cases houtcome : session k with
  | ok bs =>
      simp [chunk, houtcome, Outcome.ofExcept]
  | error f =>
      exact absurd (by simp [chunk, houtcome]) hchunk

/-- A turn after which the loop goes on. -/
theorem turn_of_goesOn (hsystem : session.FailsBySystem) (h : loop.GoesOn session (k + 1)) :
    ∃ notes, turn session.read (loop.after session k) k =
      ⟨.ok (loop.after session (k + 1)), notes, k + 1⟩ := by
  rw [turn, if_neg h.of_succ.missing]
  by_cases hchunk : session.chunk k = []
  · obtain ⟨f, hf, hattempt⟩ := attempt_of_nothing hsystem hchunk (loop.after session k)
    have hfailed : session.failed (k + 1) = session.failed k + 1 := by simp [hchunk]
    have hleft : (loop.after session k).retriesLeft ≠ 0 := by
      show loop.retriesLeft - session.failed k ≠ 0
      have hbudget := h.2
      omega
    have hafter : (loop.after session k).charged = loop.after session (k + 1) := by
      simp [charged, after, hchunk]
      omega
    rw [step_of_paid hattempt hf hleft, hafter]
    exact ⟨_, rfl⟩
  · have hfits : (session.chunk k).length ≤ (loop.after session k).remaining := by
      have hmissing := h.1
      rw [delivered_succ, List.length_append] at hmissing
      rw [remaining_after]
      omega
    have hafter : (loop.after session k).taken (session.chunk k) = loop.after session (k + 1) := by
      simp [taken, after, hchunk]
    rw [step_of_data (read_of_chunk hchunk _) hchunk, List.take_of_length_le hfits, hafter]
    exact ⟨_, rfl⟩

/-- As long as the loop goes on, each read takes its data or a retry. -/
theorem turns_of_goesOn (hsystem : session.FailsBySystem) (h : loop.GoesOn session k) :
    ∃ notes, turns session.read k loop 0 = ⟨.ok (loop.after session k), notes, k⟩ := by
  induction k with
  | zero =>
      refine ⟨[], ?_⟩
      simp [turns, after]
  | succ k ih =>
      obtain ⟨before, hbefore⟩ := ih h.of_succ
      obtain ⟨notes, hturn⟩ := turn_of_goesOn hsystem h
      rw [turns, bind_of_ok hbefore, hturn]
      exact ⟨_, rfl⟩

/-! ### The end -/

/-- The loop ends with the outcome `o` after exactly `n` reads: with less it is not finished, and
more make no difference. -/
def EndsAfter (loop : ReadLoop) (session : EndlessSession) (n : Nat) (o : Outcome ReadLoop) :
    Prop :=
  o ≠ .unfinished ∧ ∀ reads,
    (reads < n → (fill session.read reads loop 0).outcome = .unfinished) ∧
    (n ≤ reads → (fill session.read reads loop 0).outcome = o ∧
      (fill session.read reads loop 0).state = n)

/-- A loop that goes on is not finished. -/
theorem fill_of_goesOn (hsystem : session.FailsBySystem) (h : loop.GoesOn session k) :
    (fill session.read k loop 0).outcome = .unfinished := by
  obtain ⟨notes, hturns⟩ := turns_of_goesOn hsystem h
  rw [← Nat.add_zero k, fill_add, bind_of_ok hturns, fill, if_neg h.missing]
  rfl

/-- The last turn: nothing is missing any more, or no retry is left. -/
theorem turn_of_stops (hsystem : session.FailsBySystem) (h : loop.GoesOn session k)
    (hstops : ¬ loop.GoesOn session (k + 1)) :
    ∃ o notes, turn session.read (loop.after session k) k = ⟨o, notes, k + 1⟩ ∧
      ((∃ loop', o = .ok loop' ∧ loop'.remaining = 0) ∨
        0 ≤ loop.retriesLeft ∧ ∃ f, o = .fault f) := by
  rw [turn, if_neg h.missing]
  simp only [GoesOn, delivered_succ, failed_succ, List.length_append] at h hstops
  by_cases hchunk : session.chunk k = []
  · obtain ⟨f, hf, hattempt⟩ := attempt_of_nothing hsystem hchunk (loop.after session k)
    rw [if_pos hchunk, hchunk, List.length_nil] at hstops
    have hbudget : loop.retriesLeft = session.failed k := by omega
    have hleft : (loop.after session k).retriesLeft = 0 := by
      show loop.retriesLeft - session.failed k = 0
      omega
    rw [step_of_unpaid hattempt hf hleft]
    exact ⟨_, _, rfl, Or.inr ⟨by omega, _, rfl⟩⟩
  · rw [if_neg hchunk] at hstops
    rw [step_of_data (read_of_chunk hchunk _) hchunk]
    refine ⟨_, _, rfl, Or.inl ⟨_, rfl, ?_⟩⟩
    have htaken := remaining_taken
      (List.length_take_le (loop.after session k).remaining (session.chunk k))
    have hremaining := remaining_after loop session k
    rw [List.length_take] at htaken
    omega

/-- The loop ends after the read with which it stops to go on. -/
theorem endsAfter_of_stops (hsystem : session.FailsBySystem) (h : loop.GoesOn session k)
    (hstops : ¬ loop.GoesOn session (k + 1)) :
    ∃ o, loop.EndsAfter session (k + 1) o ∧
      ((∃ loop', o = .ok loop') ∨ 0 ≤ loop.retriesLeft) := by
  obtain ⟨before, hbefore⟩ := turns_of_goesOn hsystem h
  obtain ⟨o, notes, hturn, hends⟩ := turn_of_stops hsystem h hstops
  have hlast : turns session.read (k + 1) loop 0 = ⟨o, before ++ notes, k + 1⟩ := by
    rw [turns, bind_of_ok hbefore, hturn, Run.prepend_mk]
  -- With fewer reads the loop still goes on; more come when nothing is to be done.
  have hfewer : ∀ reads, reads < k + 1 → (fill session.read reads loop 0).outcome = .unfinished :=
    fun reads hreads => fill_of_goesOn hsystem (h.of_le (Nat.le_of_lt_succ hreads))
  have hmore : ∀ reads, k + 1 ≤ reads →
      fill session.read reads loop 0 = ⟨o, before ++ notes, k + 1⟩ := by
    intro reads hreads
    rw [← Nat.add_sub_cancel' hreads, fill_add]
    rcases hends with ⟨loop', rfl, hrem⟩ | ⟨-, f, rfl⟩
    · rw [bind_of_ok hlast, fill_of_done hrem, Run.prepend_mk, List.append_nil]
    · rw [bind_of_fault hlast]
  refine ⟨o, ⟨?_, fun reads => ⟨hfewer reads, fun hreads => ?_⟩⟩, ?_⟩
  · rcases hends with ⟨loop', rfl, -⟩ | ⟨-, f, rfl⟩
    · simp
    · simp
  · rw [hmore reads hreads]
    exact ⟨rfl, rfl⟩
  · rcases hends with ⟨loop', rfl, -⟩ | ⟨hbudget, -⟩
    · exact Or.inl ⟨loop', rfl⟩
    · exact Or.inr hbudget

/-- What stops the loop is the first number of reads at which it does not go on. -/
theorem exists_first_stop (h : loop.GoesOn session 0) (hstops : ¬ loop.GoesOn session k) :
    ∃ n, n + 1 ≤ k ∧ loop.GoesOn session n ∧ ¬ loop.GoesOn session (n + 1) := by
  induction k with
  | zero =>
      exact absurd h hstops
  | succ k ih =>
      by_cases hk : loop.GoesOn session k
      · exact ⟨k, Nat.le_refl _, hk, hstops⟩
      · obtain ⟨n, hn, hgoes⟩ := ih hk
        exact ⟨n, Nat.le_succ_of_le hn, hgoes⟩

/-- The loop ends exactly if it does not go on for ever. -/
theorem exists_endsAfter_iff (hsystem : session.FailsBySystem) (h : loop.GoesOn session 0) :
    (∃ n o, loop.EndsAfter session n o) ↔ ∃ k, ¬ loop.GoesOn session k := by
  constructor
  · rintro ⟨n, o, ho, hends⟩
    refine ⟨n, fun hgoes => ho ?_⟩
    rw [← ((hends n).2 (Nat.le_refl n)).1]
    exact fill_of_goesOn hsystem hgoes
  · rintro ⟨k, hstops⟩
    obtain ⟨n, -, hgoes, hlast⟩ := exists_first_stop h hstops
    obtain ⟨o, hends, -⟩ := endsAfter_of_stops hsystem hgoes hlast
    exact ⟨n + 1, o, hends⟩

/-! ### Budgets that can be used up -/

/-- With a budget that can be used up, the loop stops at the latest when each missing byte and each
retry has taken a read. -/
theorem not_goesOn_of_budget (hretries : 0 ≤ loop.retriesLeft) (session : EndlessSession) :
    ¬ loop.GoesOn session (loop.remaining + loop.retriesLeft.toNat) := by
  rintro ⟨hmissing, hbudget⟩
  have hreads := session.le_delivered_add_failed (loop.remaining + loop.retriesLeft.toNat)
  omega

theorem endsAfter_of_budget (hsystem : session.FailsBySystem) (h : loop.GoesOn session 0)
    (hretries : 0 ≤ loop.retriesLeft) :
    ∃ n o, n ≤ loop.remaining + loop.retriesLeft.toNat ∧ loop.EndsAfter session n o := by
  obtain ⟨n, hn, hgoes, hlast⟩ := exists_first_stop h (not_goesOn_of_budget hretries session)
  obtain ⟨o, hends, -⟩ := endsAfter_of_stops hsystem hgoes hlast
  exact ⟨n + 1, o, hn, hends⟩

/-- The session that uses up the retries first and then brings one byte at a time. -/
def slowest (retries : Nat) : EndlessSession :=
  fun k => .ok (if k < retries then [] else [0])

theorem slowest_counts (retries k : Nat) :
    ((slowest retries).delivered k).length = k - retries ∧
      (slowest retries).failed k = min k retries := by
  have hchunk : ∀ k, (slowest retries).chunk k = if k < retries then [] else [0] :=
    fun _ => rfl
  induction k with
  | zero =>
      simp
  | succ k ih =>
      rw [delivered_succ, failed_succ, List.length_append, ih.1, ih.2, hchunk]
      split
      case isTrue hk =>
          rw [if_pos rfl, List.length_nil]
          omega
      case isFalse hk =>
          rw [if_neg (List.cons_ne_nil _ _), List.length_singleton]
          omega

/-- On the slowest session no read is spared. -/
theorem endsAfter_slowest (loop : ReadLoop) (hmissing : 0 < loop.remaining)
    (hretries : 0 ≤ loop.retriesLeft) :
    ∃ o, loop.EndsAfter (slowest loop.retriesLeft.toNat)
      (loop.remaining + loop.retriesLeft.toNat) o := by
  have hsystem : (slowest loop.retriesLeft.toNat).FailsBySystem := failsBySystem_ok _
  have hlast : loop.remaining - 1 + loop.retriesLeft.toNat + 1 =
      loop.remaining + loop.retriesLeft.toNat := by omega
  have hgoes : loop.GoesOn (slowest loop.retriesLeft.toNat)
      (loop.remaining - 1 + loop.retriesLeft.toNat) := by
    obtain ⟨hlength, hfailed⟩ := slowest_counts loop.retriesLeft.toNat
      (loop.remaining - 1 + loop.retriesLeft.toNat)
    rw [GoesOn, hlength, hfailed]
    omega
  have hstops := not_goesOn_of_budget hretries (slowest loop.retriesLeft.toNat)
  rw [← hlast] at hstops ⊢
  obtain ⟨o, hends, -⟩ := endsAfter_of_stops hsystem hgoes hstops
  exact ⟨o, hends⟩

/-! ### Budgets below zero -/

/-- With a budget below zero only the data matters. -/
theorem goesOn_iff_of_negative (hretries : loop.retriesLeft < 0) :
    loop.GoesOn session k ↔ (session.delivered k).length < loop.remaining :=
  ⟨fun h => h.1, fun h => ⟨h, Or.inl hretries⟩⟩

/-- A loop with a budget below zero does not fail. -/
theorem fill_ne_fault_of_negative (hsystem : session.FailsBySystem) (h : loop.GoesOn session 0)
    (hretries : loop.retriesLeft < 0) (reads : Nat) (f : Fault) :
    (fill session.read reads loop 0).outcome ≠ .fault f := by
  by_cases hreads : loop.GoesOn session reads
  · rw [fill_of_goesOn hsystem hreads]
    exact nofun
  · obtain ⟨n, hn, hgoes, hlast⟩ := exists_first_stop h hreads
    obtain ⟨o, ⟨-, hends⟩, ⟨loop', rfl⟩ | hbudget⟩ := endsAfter_of_stops hsystem hgoes hlast
    · rw [((hends reads).2 hn).1]
      exact nofun
    · omega

/-! ### All budgets -/

/-- Collecting the data on a session that ends does what the loop does, whatever the session says of
its supply. -/
theorem collect_of_endsAfter (hretries : 0 ≤ loop.retriesLeft) {n : Nat} {o : Outcome ReadLoop}
    (hn : n ≤ loop.remaining + loop.retriesLeft.toNat) (h : loop.EndsAfter session n o)
    (supply : Nat → Nat) :
    ∃ notes, Streamer.collect (session.kind supply) loop 0 =
      ⟨o.map received, notes, n⟩ := by
  have hallowed : loop.readsAllowed (supply 0) = loop.remaining + loop.retriesLeft.toNat :=
    if_pos hretries
  have hcollect : Streamer.collect (session.kind supply) loop 0 = _ :=
    bind_pure_apply (loop.fill session.read (loop.readsAllowed (supply 0))) received 0
  obtain ⟨houtcome, hstate⟩ := (h.2 _).2 hn
  rw [hcollect, hallowed, houtcome, hstate]
  exact ⟨_, rfl⟩

/-- A loop that has not read anything. -/
def fresh (endpoint : Endpoint) (amount : Nat) (retries : Int) : ReadLoop :=
  { endpoint, length := amount, retriesLeft := retries }

theorem goesOn_fresh (endpoint : Endpoint) {amount : Nat} (hamount : 1 ≤ amount) (retries : Int)
    (session : EndlessSession) : (fresh endpoint amount retries).GoesOn session 0 := by
  refine ⟨hamount, ?_⟩
  show retries < 0 ∨ ((0 : Nat) : Int) ≤ retries
  omega

/-- The loop ends on every session exactly if the budget is not below zero. Then it ends after at
most as many reads as bytes are missing and retries are left, and this number is reached. With a
budget below zero it never fails, and ends exactly if all the data is delivered; until then it goes
on, and each failure takes a retry. -/
theorem ends_iff_budget_nonneg (endpoint : Endpoint) {amount : Nat} (hamount : 1 ≤ amount)
    (retries : Int) :
    ((∀ session : EndlessSession, session.FailsBySystem →
        ∃ n o, (fresh endpoint amount retries).EndsAfter session n o) ↔ 0 ≤ retries) ∧
    (0 ≤ retries →
      (∀ session : EndlessSession, session.FailsBySystem → ∃ n o, n ≤ amount + retries.toNat ∧
        (fresh endpoint amount retries).EndsAfter session n o ∧
        ∀ supply, ∃ notes, Streamer.collect (session.kind supply)
          (fresh endpoint amount retries) 0 = ⟨o.map received, notes, n⟩) ∧
      ∃ session : EndlessSession, session.FailsBySystem ∧
        ∃ o, (fresh endpoint amount retries).EndsAfter session (amount + retries.toNat) o) ∧
    (retries < 0 → ∀ session : EndlessSession, session.FailsBySystem →
      (∀ reads f,
        (fill session.read reads (fresh endpoint amount retries) 0).outcome ≠ .fault f) ∧
      ((∃ n o, (fresh endpoint amount retries).EndsAfter session n o) ↔
        ∃ k, amount ≤ (session.delivered k).length) ∧
      ∀ k, (session.delivered k).length < amount →
        ∃ loop notes, turns session.read k (fresh endpoint amount retries) 0 =
            ⟨.ok loop, notes, k⟩ ∧
          0 < loop.remaining ∧ loop.retriesLeft = retries - session.failed k) := by
  have hbegins := goesOn_fresh endpoint hamount retries
  refine ⟨⟨?always, ?budget⟩, ?nonneg, ?negative⟩
  case always =>
      intro hends
      refine Int.not_lt.1 fun hnegative => ?_
      -- A session that brings nothing never ends a loop that no failure ends.
      have hsystem : FailsBySystem fun _ => .ok [] := failsBySystem_ok _
      have hnothing : ∀ k, delivered (fun _ => .ok []) k = [] := by
        simp [delivered, chunk]
      obtain ⟨k, hstops⟩ := (exists_endsAfter_iff hsystem (hbegins _)).1 (hends _ hsystem)
      refine hstops ((goesOn_iff_of_negative hnegative).2 ?_)
      rw [hnothing]
      exact hamount
  case budget =>
      intro hretries session hsystem
      obtain ⟨n, o, -, hends⟩ := endsAfter_of_budget hsystem (hbegins session) hretries
      exact ⟨n, o, hends⟩
  case nonneg =>
      intro hretries
      refine ⟨fun session hsystem => ?_, slowest retries.toNat, failsBySystem_ok _, ?_⟩
      · obtain ⟨n, o, hn, hends⟩ := endsAfter_of_budget hsystem (hbegins session) hretries
        exact ⟨n, o, hn, hends, collect_of_endsAfter hretries hn hends⟩
      · exact endsAfter_slowest (fresh endpoint amount retries) hamount hretries
  case negative =>
      intro hnegative session hsystem
      refine ⟨fill_ne_fault_of_negative hsystem (hbegins session) hnegative, ?_, ?_⟩
      · rw [exists_endsAfter_iff hsystem (hbegins session)]
        refine exists_congr fun k => ?_
        rw [goesOn_iff_of_negative hnegative, Nat.not_lt]
        rfl
      · intro k hk
        have hgoes : (fresh endpoint amount retries).GoesOn session k :=
          (goesOn_iff_of_negative hnegative).2 hk
        obtain ⟨notes, hturns⟩ := turns_of_goesOn hsystem hgoes
        exact ⟨_, notes, hturns, Nat.pos_of_ne_zero hgoes.missing, rfl⟩

/-- The loop for two bytes, with a budget of retries. -/
def twoBytes (retries : Int) : ReadLoop :=
  fresh (.atFirstPort "a") 2 retries

/-- On a session that brings nothing, a budget of one retry fails the loop within three reads, and a
budget below zero never does. -/
theorem nothing_within_budgets :
    (∃ n o, n ≤ 3 ∧ (twoBytes 1).EndsAfter (fun _ => .ok []) n o) ∧
    (fill (EndlessSession.read fun _ => .ok []) 3 (twoBytes 1) 0).outcome =
      .fault (.unread (.atFirstPort "a") 2 2 .prematureEnd) ∧
    ∀ reads f, (fill (EndlessSession.read fun _ => .ok []) reads (twoBytes (-1)) 0).outcome ≠
      .fault f := by
  have hsystem : FailsBySystem fun _ => .ok [] := failsBySystem_ok _
  have hamount : 1 ≤ 2 := by decide
  obtain ⟨-, hnonneg, -⟩ := ends_iff_budget_nonneg (.atFirstPort "a") hamount 1
  obtain ⟨-, -, hnegative⟩ := ends_iff_budget_nonneg (.atFirstPort "a") hamount (-1)
  obtain ⟨n, o, hn, hends, -⟩ := (hnonneg (by decide)).1 _ hsystem
  exact ⟨⟨n, o, hn, hends⟩, by rfl, (hnegative (by decide) _ hsystem).1⟩

end ReadLoop
end ReplicaRead
