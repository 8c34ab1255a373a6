import ReplicaRead.Proofs.Evaluation
import ReplicaRead.Proofs.Probing
import ReplicaRead.Proofs.Selection.Courses
import ReplicaRead.Rehearsal
import ReplicaRead.Retrieval

/-!
# The runs of a choice

The search for a replica takes exactly the courses of a choice: each run takes one, and for each
there are draws that lead to it. The invariant is that the endpoints found dead are different
candidates, and that a round is left for each of the others.

Results: `search_course` and `exists_draws_of_course`, for all draws and probes that follow an
assignment of faults to candidates, and `select_law`, for those of a plan and of a network.
-/

namespace ReplicaRead
namespace Selection

open Act

/-! ### The search -/

theorem Findings.mem_alive {found : Findings} {candidates : List Endpoint} {e : Endpoint} :
    e ∈ found.alive candidates ↔ e ∈ candidates ∧ e ∉ found.dead := by
  simp [Findings.alive]

theorem Findings.alive_eq_nil_iff {found : Findings} {candidates : List Endpoint} :
    found.alive candidates = [] ↔ ∀ e ∈ candidates, e ∈ found.dead := by
  simp [Findings.alive]

/-- Whichever endpoint is picked, it is a candidate not yet found dead. -/
theorem Findings.get_alive {found : Findings} {candidates others : List Endpoint} {e : Endpoint}
    (halive : found.alive candidates = e :: others) (i : Fin (others.length + 1)) :
    (e :: others).get i ∈ candidates ∧ (e :: others).get i ∉ found.dead := by
  rw [← Findings.mem_alive, halive]
  exact List.get_mem _ _

/-- The endpoints found dead are different candidates, and there is a round left for each of the
other candidates, repetitions included. -/
structure Findings.Counted (found : Findings) (candidates : List Endpoint) (rounds : Nat) :
    Prop where
  nodup : found.dead.Nodup
  subset : found.dead ⊆ candidates
  length : found.dead.length + rounds = candidates.length

section Counted

variable {found : Findings} {candidates : List Endpoint} {rounds : Nat} {e : Endpoint}

/-- The rounds do not run out while a candidate is left. -/
theorem Findings.Counted.exists_succ (h : found.Counted candidates rounds) (he : e ∈ candidates)
    (hnew : e ∉ found.dead) : ∃ r, rounds = r + 1 := by
  have hlength : (e :: found.dead).length ≤ candidates.length :=
    (List.nodup_cons.2 ⟨hnew, h.nodup⟩).length_le_of_subset
      (List.cons_subset.2 ⟨he, h.subset⟩)
  have hrounds := h.length
  rw [List.length_cons] at hlength
  exact ⟨rounds - 1, by omega⟩

/-- When no round is left, no candidate is. -/
theorem Findings.Counted.alive_eq_nil (h : found.Counted candidates 0) :
    found.alive candidates = [] := by
  refine List.eq_nil_iff_forall_not_mem.2 ?_
  intro e he
  obtain ⟨hcandidate, hnew⟩ := Findings.mem_alive.1 he
  obtain ⟨r, hr⟩ := h.exists_succ hcandidate hnew
  cases hr

theorem Findings.Counted.bury (h : found.Counted candidates (rounds + 1)) (he : e ∈ candidates)
    (hnew : e ∉ found.dead) : (found.bury e).Counted candidates rounds := by
  refine ⟨List.nodup_cons.2 ⟨hnew, h.nodup⟩, List.cons_subset.2 ⟨he, h.subset⟩, ?_⟩
  have hrounds := h.length
  show (e :: found.dead).length + rounds = candidates.length
  rw [List.length_cons]
  omega

/-- Some draw picks a given candidate that is left. -/
theorem exists_draw (he : e ∈ candidates) (hnew : e ∉ found.dead) :
    ∃ first others d, found.alive candidates = first :: others ∧
      (first :: others).get (Network.reduceDraw d others.length) = e := by
  have hmem := Findings.mem_alive.2 ⟨he, hnew⟩
  cases halive : found.alive candidates with
  | nil =>
      rw [halive] at hmem
      cases hmem
  | cons first others =>
      rw [halive] at hmem
      obtain ⟨i, hi⟩ := List.get_of_mem hmem
      refine ⟨first, others, i.val, rfl, ?_⟩
      have hlt : i.val < others.length + 1 := i.isLt
      have hdraw : Network.reduceDraw i.val others.length = i := by
        refine Fin.ext ?_
        show ((i.val : Int) % (others.length + 1 : Nat)).toNat = i.val
        rw [Int.emod_eq_of_lt (by omega) (by omega), Int.toNat_natCast]
      rw [hdraw, hi]

end Counted

/-- Draws and probes that follow an assignment of faults to candidates, in the states in which
`Ready` holds of the draws to come and of the endpoints that have been probed. -/
structure Follows {σ : Type} (prober : Prober σ) (candidates : List Endpoint) (timeout : Binary64)
    (outcome : Endpoint → Option Fault) (probed? : Note → Option Endpoint)
    (Ready : List Int → List Endpoint → σ → Prop) : Prop where
  draw : ∀ {draws dead s} (n : Nat), Ready draws dead s →
    ∃ s', prober.draw n s = ⟨.ok (Network.drawn draws n), [.draw (n + 1)], s'⟩ ∧
      Ready draws.tail dead s'
  probe : ∀ {draws dead s e}, Ready draws dead s → e ∈ candidates → e ∉ dead →
    ∃ notes s', prober.probe e timeout s = ⟨.ofFault (outcome e), notes, s'⟩ ∧
      notes.filterMap probed? = [e] ∧ Ready draws (e :: dead) s'
  drawing : ∀ n, probed? (.draw n) = none
  logging : ∀ r, probed? (.record r) = none

section Search

variable {σ : Type} {prober : Prober σ} {candidates : List Endpoint} {timeout : Binary64}
variable {outcome : Endpoint → Option Fault} {probed? : Note → Option Endpoint}
variable {Ready : List Int → List Endpoint → σ → Prop}

theorem select_of_ne_nil (prober : Prober σ) (hne : candidates ≠ []) (timeout : Binary64) :
    select prober candidates timeout =
      search prober candidates timeout candidates.length {} := by
  unfold select
  rw [if_neg]
  rw [List.isEmpty_iff]
  exact hne

/-- An attempt that reaches the endpoint drawn. -/
theorem attempt_of_reached {total : Nat} {found : Findings} {e : Endpoint}
    {others : List Endpoint} {s s' s'' : σ} {i : Fin (others.length + 1)} {ds ps : List Note}
    (hdraw : prober.draw others.length s = ⟨.ok i, ds, s'⟩)
    (hprobe : prober.probe ((e :: others).get i) timeout s' = ⟨.ok (), ps, s''⟩) :
    attempt prober total timeout found e others s =
      ⟨.ok (.inr ((e :: others).get i)), ds ++ (ps ++ [.record ⟨.debug, .selection,
        chosenMessage ((e :: others).get i) found.failures⟩]), s''⟩ := by
  have hreached : (do
      prober.probe ((e :: others).get i) timeout
      return .inr ((e :: others).get i) : Act σ (Findings ⊕ Endpoint)) s' =
      ⟨.ok (.inr ((e :: others).get i)), ps, s''⟩ := by
    rw [bind_of_ok hprobe]
    simp
  unfold attempt
  rw [bind_of_ok hdraw, bind_of_ok (recover_of_ok hreached)]
  rfl

/-- An attempt that finds the endpoint drawn dead. -/
theorem attempt_of_buried {total : Nat} {found : Findings} {e : Endpoint}
    {others : List Endpoint} {s s' s'' : σ} {i : Fin (others.length + 1)} {ds ps : List Note}
    {f : Fault} (hdraw : prober.draw others.length s = ⟨.ok i, ds, s'⟩)
    (hprobe : prober.probe ((e :: others).get i) timeout s' = ⟨.fault f, ps, s''⟩)
    (hf : f.isSystem = true) :
    attempt prober total timeout found e others s =
      ⟨.ok (.inl (found.bury ((e :: others).get i))), ds ++ (ps ++ [.record ⟨.warning, .selection,
        deadMessage ((e :: others).get i) (found.failures + 1) total f⟩]), s''⟩ := by
  have hburied : ((do
      prober.probe ((e :: others).get i) timeout
      return .inr ((e :: others).get i) : Act σ (Findings ⊕ Endpoint)).recover Fault.isSystem
        fun f => do
          let found := found.bury ((e :: others).get i)
          log .warning .selection (deadMessage ((e :: others).get i) found.failures total f)
          return .inl found) s' =
      ⟨.ok (.inl (found.bury ((e :: others).get i))), ps ++ [.record ⟨.warning, .selection,
        deadMessage ((e :: others).get i) (found.failures + 1) total f⟩], s''⟩ := by
    rw [recover_of_handled (bind_of_fault hprobe) hf]
    rfl
  unfold attempt
  rw [bind_of_ok hdraw, bind_of_ok hburied]
  simp

/-- A round of a search, with what follows if an endpoint is reached and if it is not. -/
def round {β : Type} (prober : Prober σ) (total : Nat) (timeout : Binary64) (found : Findings)
    (e : Endpoint) (others : List Endpoint) (k : Endpoint → Act σ β) (next : Findings → Act σ β) :
    Act σ β := do
  match ← attempt prober total timeout found e others with
  | .inr chosen => k chosen
  | .inl found => next found

theorem search_succ_bind {β : Type} {found : Findings} {e : Endpoint} {others : List Endpoint}
    (halive : found.alive candidates = e :: others) (rounds : Nat) (k : Endpoint → Act σ β) :
    (search prober candidates timeout (rounds + 1) found >>= k) =
      round prober candidates.length timeout found e others k
        fun found => search prober candidates timeout rounds found >>= k := by
  unfold round
  rw [search, halive]
  simp only [bind_assoc]
  refine congrArg _ (funext fun result => ?_)
  cases result with
  | inl found =>
      rfl
  | inr chosen =>
      exact pure_bind chosen k

theorem search_succ {found : Findings} {e : Endpoint} {others : List Endpoint}
    (halive : found.alive candidates = e :: others) (rounds : Nat) :
    search prober candidates timeout (rounds + 1) found =
      round prober candidates.length timeout found e others Pure.pure
        (search prober candidates timeout rounds) := by
  rw [search, halive]
  rfl

section Round

variable {β : Type} {total : Nat} {found found' : Findings} {e : Endpoint} {others : List Endpoint}
variable {s s' : σ} {notes : List Note} (k : Endpoint → Act σ β) (next : Findings → Act σ β)

theorem round_of_inl
    (h : attempt prober total timeout found e others s = ⟨.ok (.inl found'), notes, s'⟩) :
    round prober total timeout found e others k next s = (next found' s').prepend notes :=
  bind_of_ok h

theorem round_of_inr {chosen : Endpoint}
    (h : attempt prober total timeout found e others s = ⟨.ok (.inr chosen), notes, s'⟩) :
    round prober total timeout found e others k next s = (k chosen s').prepend notes :=
  bind_of_ok h

theorem round_of_fault {f : Fault}
    (h : attempt prober total timeout found e others s = ⟨.fault f, notes, s'⟩) :
    round prober total timeout found e others k next s = ⟨.fault f, notes, s'⟩ :=
  bind_of_fault h

end Round

section Following

variable (follows : Follows prober candidates timeout outcome probed? Ready)
variable (hsystem : ∀ e f, outcome e = some f → f.isSystem = true)
variable {found : Findings} {draws : List Int} {s : σ}
include follows

/-- A round in which the endpoint drawn is reached. -/
theorem search_of_reached {e : Endpoint} {others : List Endpoint} (rounds : Nat)
    (hready : Ready draws found.dead s) (halive : found.alive candidates = e :: others)
    (hreach : outcome ((e :: others).get (Network.drawn draws others.length)) = none) :
    ∃ notes s', search prober candidates timeout (rounds + 1) found s =
        ⟨.ok ((e :: others).get (Network.drawn draws others.length)), notes, s'⟩ ∧
      notes.filterMap probed? = [(e :: others).get (Network.drawn draws others.length)] := by
  obtain ⟨s', hdraw, hready'⟩ := follows.draw others.length hready
  obtain ⟨hcandidate, hnew⟩ := Findings.get_alive halive (Network.drawn draws others.length)
  obtain ⟨notes, s'', hprobe, hnotes, -⟩ := follows.probe hready' hcandidate hnew
  rw [hreach] at hprobe
  refine ⟨?notes, s'', ?run, ?trace⟩
  case run =>
      rw [search_succ halive, round_of_inr _ _ (attempt_of_reached hdraw hprobe)]
      rfl
  case trace =>
      simp [follows.drawing, follows.logging, hnotes]

/-- A round in which the endpoint drawn is found dead. -/
theorem search_of_buried {e : Endpoint} {others : List Endpoint} {f : Fault} (rounds : Nat)
    (hready : Ready draws found.dead s) (halive : found.alive candidates = e :: others)
    (hdead : outcome ((e :: others).get (Network.drawn draws others.length)) = some f)
    (hf : f.isSystem = true) :
    ∃ notes s', search prober candidates timeout (rounds + 1) found s =
        (search prober candidates timeout rounds
          (found.bury ((e :: others).get (Network.drawn draws others.length))) s').prepend notes ∧
      notes.filterMap probed? = [(e :: others).get (Network.drawn draws others.length)] ∧
      Ready draws.tail ((e :: others).get (Network.drawn draws others.length) :: found.dead)
        s' := by
  obtain ⟨s', hdraw, hready'⟩ := follows.draw others.length hready
  obtain ⟨hcandidate, hnew⟩ := Findings.get_alive halive (Network.drawn draws others.length)
  obtain ⟨notes, s'', hprobe, hnotes, hready''⟩ := follows.probe hready' hcandidate hnew
  rw [hdead] at hprobe
  refine ⟨?notes, s'', ?run, ?trace, hready''⟩
  case run =>
      rw [search_succ halive, round_of_inl _ _ (attempt_of_buried hdraw hprobe hf)]
  case trace =>
      simp [follows.drawing, follows.logging, hnotes]

include hsystem

/-- Every search follows a course. -/
theorem search_course {rounds : Nat} (hcounted : found.Counted candidates rounds)
    (hready : Ready draws found.dead s) :
    Course outcome candidates found.dead
      ((search prober candidates timeout rounds found s).notes.filterMap probed?)
      (search prober candidates timeout rounds found s).outcome := by
  induction rounds generalizing found draws s with
  | zero =>
      exact .exhausted (Findings.alive_eq_nil_iff.1 hcounted.alive_eq_nil)
  | succ rounds ih =>
      cases halive : found.alive candidates with
      | nil =>
          have hrun : search prober candidates timeout (rounds + 1) found s =
              ⟨.fault (.noReachableReplica candidates.length), [], s⟩ := by
            rw [search, halive]
            rfl
          rw [hrun]
          exact .exhausted (Findings.alive_eq_nil_iff.1 halive)
      | cons e others =>
          obtain ⟨hcandidate, hnew⟩ :=
            Findings.get_alive halive (Network.drawn draws others.length)
          cases hend : outcome ((e :: others).get (Network.drawn draws others.length)) with
          | none =>
              obtain ⟨notes, s', hrun, hnotes⟩ :=
                search_of_reached follows rounds hready halive hend
              rw [hrun, hnotes]
              exact .reached hcandidate hnew hend
          | some f =>
              obtain ⟨notes, s', hrun, hnotes, hready'⟩ :=
                search_of_buried follows rounds hready halive hend (hsystem _ _ hend)
              rw [hrun, Run.prepend_notes, List.filterMap_append, hnotes]
              exact .buried hcandidate hnew hend
                (ih (hcounted.bury hcandidate hnew) hready')

/-- Every course is followed by the search, for some draws. -/
theorem exists_draws_of_course {dead t : List Endpoint} {o : Outcome Endpoint}
    (h : Course outcome candidates dead t o) {rounds : Nat} (hfound : found.dead = dead)
    (hcounted : found.Counted candidates rounds) :
    ∃ draws, ∀ s, Ready draws found.dead s →
      (search prober candidates timeout rounds found s).notes.filterMap probed? = t := by
  induction h generalizing found rounds with
  | exhausted hall =>
      subst hfound
      refine ⟨[], ?_⟩
      intro s hready
      obtain ⟨-, hmem⟩ := (search_course follows hsystem hcounted hready).fresh
      refine List.eq_nil_iff_forall_not_mem.2 ?_
      intro e he
      exact (hmem e he).2 (hall e (hmem e he).1)
  | reached he hnew hreach =>
      subst hfound
      obtain ⟨r, rfl⟩ := hcounted.exists_succ he hnew
      obtain ⟨first, others, d, halive, hget⟩ := exists_draw he hnew
      refine ⟨[d], ?_⟩
      intro s hready
      rw [← hget] at hreach
      obtain ⟨notes, s', hrun, hnotes⟩ := search_of_reached follows r hready halive hreach
      rw [hrun, hnotes]
      exact congrArg (fun x => [x]) hget
  | @buried dead t e f o he hnew hdead hrest ih =>
      subst hfound
      obtain ⟨r, rfl⟩ := hcounted.exists_succ he hnew
      obtain ⟨first, others, d, halive, hget⟩ := exists_draw he hnew
      obtain ⟨draws, hdraws⟩ := ih rfl (hcounted.bury he hnew)
      refine ⟨d :: draws, ?_⟩
      intro s hready
      have hf := hsystem _ _ hdead
      rw [← hget] at hdead
      obtain ⟨notes, s', hrun, hnotes, hready'⟩ :=
        search_of_buried follows r hready halive hdead hf
      have hchosen : (first :: others).get (Network.drawn (d :: draws) others.length) = e := hget
      rw [hchosen] at hrun hnotes hready'
      rw [hrun, Run.prepend_notes, List.filterMap_append, hnotes, hdraws s' hready']
      rfl

/-- A choice by draws and probes that follow an assignment obeys the laws. -/
theorem law_of_follows (hne : candidates ≠ []) {start : List Int → σ}
    (hstart : ∀ draws, Ready draws [] (start draws)) :
    Law outcome candidates probed? fun draws => select prober candidates timeout (start draws) := by
  have hcounted : ({} : Findings).Counted candidates candidates.length :=
    ⟨List.nodup_nil, List.nil_subset _, Nat.zero_add _⟩
  rw [select_of_ne_nil prober hne timeout]
  refine Law.of_courses hne ?_ ?_
  · intro draws
    exact search_course follows hsystem hcounted (hstart draws)
  · intro t o h
    obtain ⟨draws, hdraws⟩ := exists_draws_of_course follows hsystem h rfl hcounted
    exact ⟨draws, hdraws _ (hstart draws)⟩

end Following

/-- An attempt that meets a fault which is not of the system. -/
theorem attempt_of_escaped {total : Nat} {found : Findings} {e : Endpoint}
    {others : List Endpoint} {s s' s'' : σ} {i : Fin (others.length + 1)} {ds ps : List Note}
    {f : Fault} (hdraw : prober.draw others.length s = ⟨.ok i, ds, s'⟩)
    (hprobe : prober.probe ((e :: others).get i) timeout s' = ⟨.fault f, ps, s''⟩)
    (hf : f.isSystem = false) :
    attempt prober total timeout found e others s = ⟨.fault f, ds ++ ps, s''⟩ := by
  unfold attempt
  rw [bind_of_ok hdraw, bind_of_fault (recover_of_unhandled (bind_of_fault hprobe) hf)]
  rfl

end Search

/-! ### Plans and networks -/

/-- The endpoint of a probe by a plan. -/
def rehearsed? (n : Note) : Option Endpoint :=
  n.probe?.map Prod.fst

theorem follows_rehearsed (candidates : List Endpoint) (timeout : Binary64)
    (outcome : Endpoint → Option Fault) :
    Follows rehearsedProber candidates timeout outcome rehearsed?
      fun draws _ plan => plan = ⟨fun e => [outcome e], draws⟩ where
  draw := by
    rintro draws dead _ n rfl
    cases draws with
    | nil =>
        exact ⟨_, rfl, rfl⟩
    | cons d draws =>
        exact ⟨_, rfl, rfl⟩
  probe := by
    rintro draws dead _ e rfl he hnew
    refine ⟨[.probed e timeout], ⟨fun e => [outcome e], draws⟩, ?_, rfl, rfl⟩
    show ProbePlan.probe e timeout _ = _
    unfold ProbePlan.probe
    cases h : outcome e with
    | none =>
        simp [h, Outcome.ofFault]
    | some f =>
        simp [h, Outcome.ofFault]
  drawing _ := rfl
  logging _ := rfl

theorem connects_probeNotes (mode : Mode) (endpoint : Endpoint) (net : Network) :
    (probeNotes mode endpoint net).filterMap Note.connect? = [] := by
  refine List.filterMap_eq_nil_iff.2 ?_
  intro n hn
  rcases mem_probeNotes hn with ⟨id, rfl⟩ | ⟨m, rfl⟩
  · rfl
  · rfl

/-- On a network the probes that are begun are the attempts to connect. Each candidate meets the
first script of its endpoint, since it is probed only once. -/
theorem follows_network {mode : Mode} {timeout : Binary64}
    (hbegins : Network.begins mode timeout = true) {candidates : List Endpoint}
    {outcome : Endpoint → Option Fault} {net : Network}
    (hprobe : ∀ e ∈ candidates, (probe mode e timeout net).outcome = .ofFault (outcome e)) :
    Follows (networkProber mode) candidates timeout outcome Note.connect?
      fun draws dead net' => net'.draws = draws ∧
        ∀ e, e ∉ dead → net'.scripts e = net.scripts e where
  draw := by
    rintro draws dead net' n ⟨hdraws, hscripts⟩
    rw [← hdraws]
    exact ⟨_, Network.draw_apply n net', rfl, hscripts⟩
  probe := by
    rintro draws dead net' e ⟨hdraws, hscripts⟩ he hnew
    have hend : .ofFault (probeFault mode e net') = Outcome.ofFault (outcome e) := by
      rw [probeFault_congr (hscripts e hnew), ← hprobe e he, probe_apply hbegins]
    have hrun := probe_apply hbegins e net'
    rw [hend] at hrun
    refine ⟨_, _, hrun, ?_, hdraws, ?_⟩
    · rw [List.filterMap_cons, connects_probeNotes]
      rfl
    · intro x hx
      rw [List.mem_cons, not_or] at hx
      rw [← hscripts x hx.2]
      exact if_neg hx.1
  drawing _ := rfl
  logging _ := rfl

/-- A choice obeys the laws, with probes by a plan and in both modes with probes on a network, for
every assignment of failures of the system to candidates. -/
theorem select_law {candidates : List Endpoint} (hne : candidates ≠ [])
    {outcome : Endpoint → Option Fault} (hsystem : ∀ e f, outcome e = some f → f.isSystem = true)
    (timeout : Binary64) :
    Law outcome candidates rehearsed? (fun draws =>
        select rehearsedProber candidates timeout ⟨fun e => [outcome e], draws⟩) ∧
      ∀ (mode : Mode) (net : Network), Network.begins mode timeout = true →
        (∀ e ∈ candidates, (probe mode e timeout net).outcome = .ofFault (outcome e)) →
        Law outcome candidates Note.connect? fun draws =>
          select (networkProber mode) candidates timeout { net with draws } := by
  constructor
  · exact law_of_follows (follows_rehearsed candidates timeout outcome) hsystem hne
      fun draws => rfl
  · intro mode net hbegins hprobe
    exact law_of_follows (follows_network hbegins hprobe) hsystem hne
      fun draws => ⟨rfl, fun e _ => rfl⟩

/-- Nobody listens at the first of two endpoints, which occurs twice. -/
def sparseCandidates : List Endpoint :=
  [.atFirstPort "a", .atFirstPort "b", .atFirstPort "a"]

/-- The faults of probes when only `b` can be reached. -/
def sparseOutcome (e : Endpoint) : Option Fault :=
  if e.host = "b" then none else some .connectionRefused

/-- A network on which only `b` can be reached. -/
def sparse : Network where
  scripts e := if e.host = "b" then [{}] else []

theorem select_law_sparse :
    Law sparseOutcome sparseCandidates rehearsed? (fun draws =>
        select rehearsedProber sparseCandidates (.finite false 60 0)
          ⟨fun e => [sparseOutcome e], draws⟩) ∧
      Law sparseOutcome sparseCandidates Note.connect? (fun draws =>
        select (networkProber .async) sparseCandidates (.finite false 60 0)
          { sparse with draws }) := by
  have hsystem : ∀ e f, sparseOutcome e = some f → f.isSystem = true := by
    intro e f h
    unfold sparseOutcome at h
    split at h
    · cases h
    · cases h
      rfl
  have hlaw := select_law (by decide : sparseCandidates ≠ []) hsystem (.finite false 60 0)
  exact ⟨hlaw.1, hlaw.2 .async sparse (by decide +kernel) (by decide +kernel)⟩

end Selection
end ReplicaRead
