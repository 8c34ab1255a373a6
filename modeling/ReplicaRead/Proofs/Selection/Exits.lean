import Mathlib.Data.List.Perm.Subperm
import ReplicaRead.Proofs.Selection.Rounds

/-!
# The exits of a choice

A choice that reaches no candidate ends by one of two tests, which come before each round: whether
there have been as many failures as candidates, and whether no candidate is left. When the first
test holds, the second does too, so the first could be left out. Candidates that all differ are
used up together with the rounds, and then the second could be left out as well. But when a
candidate occurs more than once, all candidates can be dead before the failures are as many, and it
is only the second test that keeps the choice from drawing where there is nothing to draw.

Input: the loop of a choice with one of the tests or with both, and anything that it might do if it
drew where there is nothing to draw.

Results: `seek_of_stage`, by which the loops agree up to the last stage; `seek_of_ends`, in what they
may differ then; and `select_rounds`, what holds of all choices.
-/

namespace ReplicaRead
namespace Selection

open Act

/-! ### The loop and its tests -/

/-- The tests that a choice makes before each round. -/
structure Exits where
  /-- Whether there have been as many failures as candidates. -/
  counts : Bool
  /-- Whether no candidate is left. -/
  looks : Bool

section Loop

variable {σ : Type} (exits : Exits) (prober : Prober σ) (candidates : List Endpoint)
variable (timeout : Binary64) (void : Findings → Act σ Endpoint)

/-- The loop of a choice with some tests, for a number of rounds. What it does with nothing to draw
from is `void`. -/
def seek : (rounds : Nat) → Findings → Act σ Endpoint
  | 0, _ => Act.unfinished
  | rounds + 1, found =>
    if exits.counts = true ∧ candidates.length ≤ found.failures then
      Act.raise (.noReachableReplica candidates.length)
    else
      match found.alive candidates with
      | [] =>
        if exits.looks then Act.raise (.noReachableReplica candidates.length) else void found
      | e :: others =>
        round prober candidates.length timeout found e others Pure.pure (seek rounds)

/-- With these tests alone the loop chooses as the choice does, for any number of rounds that is
greater than that of the candidates. -/
def Suffice : Prop :=
  ∀ void rounds, candidates.length < rounds →
    seek exits prober candidates timeout void rounds {} = select prober candidates timeout

end Loop

section Loop

variable {σ : Type} {prober : Prober σ} {candidates : List Endpoint} {timeout : Binary64}
variable {start s : σ} {past : List Burial} {found : Findings} {notes : List Note}

/-- A loop has a round as long as the counter allows it and a candidate is left. -/
theorem seek_of_left (exits : Exits) (void : Findings → Act σ Endpoint) {e : Endpoint}
    {others : List Endpoint} (hcounter : found.failures < candidates.length)
    (halive : found.alive candidates = e :: others) (rounds : Nat) :
    seek exits prober candidates timeout void (rounds + 1) found =
      round prober candidates.length timeout found e others Pure.pure
        (seek exits prober candidates timeout void rounds) := by
  rw [seek, if_neg (fun h => Nat.not_lt.2 h.2 hcounter), halive]

/-- One of the tests ends the loop when no candidate is left. -/
def Exits.Stop (exits : Exits) (candidates : List Endpoint) (found : Findings) : Prop :=
  exits.looks = true ∨ exits.counts = true ∧ candidates.length ≤ found.failures

theorem seek_of_stop {exits : Exits} (void : Findings → Act σ Endpoint)
    (halive : found.alive candidates = []) (hstop : exits.Stop candidates found) (rounds : Nat) :
    seek exits prober candidates timeout void (rounds + 1) found =
      Act.raise (.noReachableReplica candidates.length) := by
  unfold seek
  rw [halive]
  split
  case isTrue hcounter =>
      rfl
  case isFalse hcounter =>
      exact if_pos (hstop.resolve_right hcounter)

/-- Without a test that ends it the loop comes to a draw from nothing. -/
theorem seek_of_void {exits : Exits} (void : Findings → Act σ Endpoint)
    (halive : found.alive candidates = []) (hstop : ¬ exits.Stop candidates found) (rounds : Nat) :
    seek exits prober candidates timeout void (rounds + 1) found = void found := by
  obtain ⟨hlooks, hcounter⟩ := not_or.1 hstop
  unfold seek
  rw [halive, if_neg hcounter]
  exact if_neg hlooks

/-! ### Loops and stages -/

/-- All loops pass the stages of the choice. -/
theorem seek_of_stage (exits : Exits) (void : Findings → Act σ Endpoint)
    (h : Stage prober candidates timeout start past found notes s) {rounds : Nat}
    (hrounds : past.length ≤ rounds) :
    seek exits prober candidates timeout void rounds {} start =
      (seek exits prober candidates timeout void (rounds - past.length) found s).prepend
        notes := by
  induction h with
  | first =>
      rfl
  | @next past found found' notes notes' ds ps s s' s'' s''' e others i f h hcounter halive hdraw
      hprobe hattempt ih =>
      rw [List.length_append, List.length_singleton] at hrounds ⊢
      have hleft : rounds - past.length = rounds - (past.length + 1) + 1 := by omega
      rw [ih (by omega), hleft, seek_of_left exits void hcounter halive,
        round_of_inl _ _ hattempt, Run.prepend_prepend]

/-- After its last stage a loop ends as the choice does, if one of its tests ends it when no
candidate is left. -/
theorem seek_of_ends (exits : Exits) (void : Findings → Act σ Endpoint) {r : Run σ Endpoint}
    (h : Ends prober candidates timeout found s r)
    (hstop : found.alive candidates = [] → exits.Stop candidates found) (rounds : Nat) :
    seek exits prober candidates timeout void (rounds + 1) found s = r := by
  cases h with
  | exhausted halive =>
      rw [seek_of_stop void halive (hstop halive)]
      rfl
  | reached hcounter halive hdraw hprobe =>
      rw [seek_of_left exits void hcounter halive,
        round_of_inr _ _ (attempt_of_reached hdraw hprobe)]
      simp
  | escaped hcounter halive hdraw hprobe hf =>
      rw [seek_of_left exits void hcounter halive,
        round_of_fault _ _ (attempt_of_escaped hdraw hprobe hf)]

/-- A loop chooses as the choice does, if at each stage with no candidate left one of its tests
ends it. -/
theorem seek_eq_select (horderly : Orderly prober) (hne : candidates ≠ []) (exits : Exits)
    (void : Findings → Act σ Endpoint) {rounds : Nat} (hrounds : candidates.length < rounds)
    (hstop : ∀ {past found notes s}, Stage prober candidates timeout start past found notes s →
      found.alive candidates = [] → exits.Stop candidates found) :
    seek exits prober candidates timeout void rounds {} start =
      select prober candidates timeout start := by
  obtain ⟨past, found, notes, s, r, hstage, hends, hrun⟩ :=
    exists_last_stage horderly hne timeout start
  have hlength := hstage.length_le
  have hleft : rounds - past.length = rounds - past.length - 1 + 1 := by omega
  rw [seek_of_stage exits void hstage (by omega), hleft,
    seek_of_ends exits void hends (hstop hstage), hrun]

/-- When no candidate is left, there have been as many failures as candidates exactly if the
candidates all differ. -/
theorem Kept.failures_eq_iff (h : Kept candidates past found notes)
    (halive : found.alive candidates = []) :
    found.failures = candidates.length ↔ candidates.Nodup := by
  have hdead : candidates ⊆ found.dead := Findings.alive_eq_nil_iff.1 halive
  rw [h.failures]
  constructor
  · intro hlength
    have hperm : found.dead.Perm candidates :=
      (List.subperm_of_subset h.nodup h.subset).perm_of_length_le (Nat.le_of_eq hlength.symm)
    exact hperm.nodup_iff.1 h.nodup
  · intro hnodup
    exact Nat.le_antisymm (h.nodup.length_le_of_subset h.subset)
      (hnodup.length_le_of_subset hdead)

/-- When no candidate is left among repeated ones, the counter still allows a round. -/
theorem Stage.failures_lt (horderly : Orderly prober)
    (h : Stage prober candidates timeout start past found notes s)
    (hrepeated : ¬ candidates.Nodup) (halive : found.alive candidates = []) :
    found.failures < candidates.length := by
  have hle : found.failures ≤ candidates.length := by
    rw [h.failures]
    exact h.length_le
  refine Nat.lt_of_le_of_ne hle ?_
  intro hfailures
  exact hrepeated (((h.kept horderly).failures_eq_iff halive).1 hfailures)

theorem search_of_exhausted (halive : found.alive candidates = []) (rounds : Nat) :
    search prober candidates timeout rounds found =
      Act.raise (.noReachableReplica candidates.length) := by
  cases rounds with
  | zero =>
      rfl
  | succ rounds =>
      rw [search, halive]

/-- A choice that comes to a stage with no candidate left fails. -/
theorem Stage.select_fails (hne : candidates ≠ [])
    (h : Stage prober candidates timeout start past found notes s)
    (halive : found.alive candidates = []) :
    (select prober candidates timeout start).outcome =
      .fault (.noReachableReplica candidates.length) := by
  rw [select_of_ne_nil prober hne, search_of_stage h, search_of_exhausted halive]
  rfl

/-- At such a stage the counter alone lets the loop come to a draw from nothing, if the candidates
are repeated. -/
theorem Stage.seek_void (horderly : Orderly prober)
    (h : Stage prober candidates timeout start past found notes s)
    (hrepeated : ¬ candidates.Nodup) (halive : found.alive candidates = [])
    (void : Findings → Act σ Endpoint) {rounds : Nat} (hrounds : candidates.length < rounds) :
    seek ⟨true, false⟩ prober candidates timeout void rounds {} start =
      (void found s).prepend notes := by
  have hfewer := h.failures_lt horderly hrepeated halive
  have hlength := h.length_le
  have hleft : rounds - past.length = rounds - past.length - 1 + 1 := by omega
  have hstop : ¬ Exits.Stop ⟨true, false⟩ candidates found := by
    rintro (hlooks | ⟨-, hcounter⟩)
    · cases hlooks
    · omega
  rw [seek_of_stage _ void h (by omega), hleft, seek_of_void void halive hstop]

end Loop

/-! ### All choices -/

/-- What holds of the rounds of a choice, and of the tests by which it ends. -/
structure Regular {σ : Type} (prober : Prober σ) (candidates : List Endpoint)
    (timeout : Binary64) : Prop where
  /-- What holds before each round. -/
  kept : ∀ {start past found notes s}, Stage prober candidates timeout start past found notes s →
    Kept candidates past found notes
  /-- The first draw is from all candidates. -/
  first : ∀ {start b past found notes s},
    Stage prober candidates timeout start (b :: past) found notes s → b.offered = candidates
  /-- When there have been as many failures as candidates, no candidate is left. -/
  spent : ∀ {start past found notes s}, Stage prober candidates timeout start past found notes s →
    found.failures = candidates.length → found.alive candidates = []
  /-- The stages are those of the choice. -/
  passes : ∀ {start past found notes s}, Stage prober candidates timeout start past found notes s →
    select prober candidates timeout start =
      (search prober candidates timeout (candidates.length - past.length) found s).prepend notes
  /-- The choice ends after one of them, with at most one more draw. -/
  ends : ∀ start, ∃ past found notes s r,
    Stage prober candidates timeout start past found notes s ∧
      Ends prober candidates timeout found s r ∧
      select prober candidates timeout start = r.prepend notes ∧
      (left candidates past = [] ∧ drawSizes r.notes = [] ∨
        left candidates past ≠ [] ∧ drawSizes r.notes = [(left candidates past).length]) ∧
      warnings r.notes = []
  /-- The choice is the loop with both tests. -/
  guarded : Suffice ⟨true, true⟩ prober candidates timeout
  /-- The counter is not needed. -/
  uncounted : Suffice ⟨false, true⟩ prober candidates timeout
  /-- Only a choice that fails can need the other test, and only with repeated candidates. -/
  unlooked : ∀ void rounds start, candidates.length < rounds →
    (candidates.Nodup ∨ (select prober candidates timeout start).outcome ≠
      .fault (.noReachableReplica candidates.length)) →
    seek ⟨true, false⟩ prober candidates timeout void rounds {} start =
      select prober candidates timeout start
  /-- Then it does need the test: without it, it comes to draw from nothing. -/
  needed : ∀ {start past found notes s},
    Stage prober candidates timeout start past found notes s → ¬ candidates.Nodup →
      found.alive candidates = [] →
      found.failures < candidates.length ∧
        (select prober candidates timeout start).outcome =
          .fault (.noReachableReplica candidates.length) ∧
        ∀ void rounds, candidates.length < rounds →
          seek ⟨true, false⟩ prober candidates timeout void rounds {} start =
            (void found s).prepend notes

theorem Regular.of_orderly {σ : Type} {prober : Prober σ} (horderly : Orderly prober)
    {candidates : List Endpoint} (hne : candidates ≠ []) (timeout : Binary64) :
    Regular prober candidates timeout := by
  have hlooks : ∀ counts, Suffice ⟨counts, true⟩ prober candidates timeout := by
    intro counts void rounds hrounds
    funext start
    exact seek_eq_select horderly hne _ void hrounds fun _ _ => Or.inl rfl
  refine ⟨?kept, ?first, ?spent, ?passes, ?ends, hlooks true, hlooks false, ?unlooked, ?needed⟩
  case kept =>
      intro start past found notes s h
      exact h.kept horderly
  case first =>
      intro start b past found notes s h
      rw [((h.kept horderly).offered [] b past rfl).offered_eq, left_nil]
  case spent =>
      intro start past found notes s h hfailures
      exact ((h.kept horderly).counted ((Nat.add_zero _).trans hfailures)).alive_eq_nil
  case passes =>
      intro start past found notes s h
      rw [select_of_ne_nil prober hne]
      exact search_of_stage h
  case ends =>
      intro start
      obtain ⟨past, found, notes, s, r, hstage, hends, hrun⟩ :=
        exists_last_stage horderly hne timeout start
      exact ⟨past, found, notes, s, r, hstage, hends, hrun,
        hends.lastDraw horderly (hstage.kept horderly).alive⟩
  case unlooked =>
      intro void rounds start hrounds hcase
      refine seek_eq_select horderly hne _ void hrounds ?_
      intro past found notes s h halive
      rcases hcase with hnodup | houtcome
      · have hfailures := ((h.kept horderly).failures_eq_iff halive).2 hnodup
        exact Or.inr ⟨rfl, Nat.le_of_eq hfailures.symm⟩
      · exact absurd (h.select_fails hne halive) houtcome
  case needed =>
      intro start past found notes s h hrepeated halive
      exact ⟨h.failures_lt horderly hrepeated halive, h.select_fails hne halive,
        fun void _ => h.seek_void horderly hrepeated halive void⟩

/-- Every choice among candidates, by any draws and probes that end, by a plan and on a network in
both modes. Before each round the endpoints found dead are those that were probed, and there have
been as many failures and warnings; each draw is from the candidates left, of which there is one at
least, and leaves out all occurrences of the endpoint that is found dead. The test that counts the
failures is not needed. The test that looks whether a candidate is left is needed exactly by a
choice that fails among candidates that do not all differ. -/
theorem select_rounds {candidates : List Endpoint} (hne : candidates ≠ []) (timeout : Binary64) :
    (∀ {σ : Type} {prober : Prober σ}, Orderly prober → Regular prober candidates timeout) ∧
      Regular rehearsedProber candidates timeout ∧
      ∀ mode, Regular (networkProber mode) candidates timeout :=
  ⟨fun horderly => .of_orderly horderly hne timeout, .of_orderly orderly_rehearsed hne timeout,
    fun mode => .of_orderly (orderly_network mode) hne timeout⟩

/-- A network on which nobody listens. -/
def deserted : Network where
  scripts _ := []

/-- Three candidates of which two are the same are used up by two draws. -/
theorem select_rounds_sparse :
    Regular rehearsedProber sparseCandidates (.finite false 60 0) ∧
      Regular (networkProber .async) sparseCandidates (.finite false 60 0) ∧
      drawSizes (select (networkProber .async) sparseCandidates (.finite false 60 0)
        deserted).notes = [3, 1] := by
  have hne : sparseCandidates ≠ [] := by decide
  obtain ⟨-, hplan, hnetwork⟩ := select_rounds hne (.finite false 60 0)
  exact ⟨hplan, hnetwork .async, by decide +kernel⟩

/-- An endpoint that occurs twice. -/
def twice : List Endpoint :=
  [.atFirstPort "a", .atFirstPort "a"]

/-- When both candidates are the same and dead after one failure, the counter alone does not end the
choice: the loop ends with whatever fault comes of a draw from nothing. -/
theorem not_suffice_twice :
    ¬ Suffice ⟨true, false⟩ (networkProber .sync) twice (.finite false 60 0) ∧
      ¬ ∃ f, f ≠ .noReachableReplica 2 ∧
        (seek ⟨true, false⟩ (networkProber .sync) twice (.finite false 60 0)
            (fun _ => Act.raise f) 3 {} deserted).outcome =
          (select (networkProber .sync) twice (.finite false 60 0) deserted).outcome := by
  have hselect : (select (networkProber .sync) twice (.finite false 60 0) deserted).outcome =
      .fault (.noReachableReplica 2) := by rfl
  have hseek : ∀ f, (seek ⟨true, false⟩ (networkProber .sync) twice (.finite false 60 0)
      (fun _ => Act.raise f) 3 {} deserted).outcome = .fault f := by
    intro f
    rfl
  constructor
  · intro hsuffice
    have hsame := hsuffice (fun _ => Act.raise .notOpen) 3 (by decide)
    have houtcome := hseek .notOpen
    rw [hsame, hselect] at houtcome
    cases houtcome
  · rintro ⟨f, hf, hsame⟩
    rw [hseek, hselect] at hsame
    exact hf (Outcome.fault.inj hsame)

end Selection
end ReplicaRead
