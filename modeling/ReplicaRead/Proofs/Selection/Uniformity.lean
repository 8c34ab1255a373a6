import Mathlib.Algebra.BigOperators.Fin
import Mathlib.Data.Nat.Factorial.Basic
import Mathlib.Tactic.Ring
import ReplicaRead.Proofs.Selection.Runs

/-!
# The chances of candidates

When each draw is uniform, so is the choice: every candidate that can be reached is chosen with the
share that its occurrences have among the occurrences of all such candidates. Chances are counted
over vectors of draws below a number that the length of every list of candidates divides, so that
each draw, reduced to the list, hits each place of it equally often.

The induction is on the rounds. A candidate found dead leaves the list with all its occurrences, but
the occurrences of those that can be reached stay as they are; so every draw of a dead candidate
hands on the chances of the shorter list, which by induction are the same.

Results: `pick`, the choice as a function of the draws, `wins_pick`, its chances, and
`select_uniform`, for choices by a plan and on a network.
-/

namespace ReplicaRead
namespace Selection

open Finset
open scoped Nat

/-! ### Vectors of draws -/

/-- A vector of draws as a list. -/
def drawsOf {k N : Nat} (v : Fin k → Fin N) : List Int :=
  List.ofFn fun i => ((v i : Nat) : Int)

/-- The number of vectors of `k` draws below `N` that have a property. -/
def vectors (k N : Nat) (p : List Int → Prop) [DecidablePred p] : Nat :=
  (univ.filter fun v : Fin k → Fin N => p (drawsOf v)).card

section Vectors

variable {k N : Nat} {p : List Int → Prop} [DecidablePred p]

theorem vectors_of_all (h : ∀ draws, p draws) : vectors k N p = N ^ k := by
  unfold vectors
  rw [filter_true_of_mem fun v _ => h _, card_univ, Fintype.card_fun, Fintype.card_fin,
    Fintype.card_fin]

theorem vectors_of_none (h : ∀ draws, ¬ p draws) : vectors k N p = 0 := by
  unfold vectors
  rw [filter_false_of_mem fun v _ => h _, card_empty]

theorem vectors_congr {q : List Int → Prop} [DecidablePred q] (h : ∀ draws, p draws ↔ q draws) :
    vectors k N p = vectors k N q := by
  unfold vectors
  exact congrArg card (filter_congr fun v _ => h _)

/-- Vectors are counted by their first draw. -/
theorem vectors_succ :
    vectors (k + 1) N p = ∑ d : Fin N, vectors k N fun draws => p ((d : Nat) :: draws) := by
  unfold vectors
  simp only [card_filter]
  rw [← (Fin.consEquiv fun _ : Fin (k + 1) => Fin N).sum_comp, Fintype.sum_prod_type]
  simp only [Fin.consEquiv, drawsOf, Equiv.coe_fn_mk, List.ofFn_succ, Fin.cons_zero, Fin.cons_succ]
  rfl

end Vectors

/-- A draw below a multiple of the length of a list hits each place of the list equally often. -/
theorem sum_reduceDraw {N n : Nat} (hdvd : n + 1 ∣ N) (f : Fin (n + 1) → Nat) :
    ∑ d : Fin N, f (Network.reduceDraw (d : Nat) n) = N / (n + 1) * ∑ i, f i := by
  obtain ⟨q, rfl⟩ := hdvd
  rw [Nat.mul_comm (n + 1) q, Nat.mul_div_cancel q (Nat.succ_pos n),
    ← finProdFinEquiv.sum_comp, Fintype.sum_prod_type]
  have hreduce : ∀ (a : Fin q) (i : Fin (n + 1)),
      Network.reduceDraw (finProdFinEquiv (a, i) : Nat) n = i := by
    intro a i
    refine Fin.ext ?_
    show (((i + (n + 1) * a : Nat) : Int) % (n + 1 : Nat)).toNat = i
    rw [← Int.natCast_mod, Int.toNat_natCast, Nat.add_mul_mod_self_left, Nat.mod_eq_of_lt i.isLt]
  simp only [hreduce]
  rw [sum_const, card_univ, Fintype.card_fin, smul_eq_mul]

/-! ### The choice as a function of the draws -/

/-- The endpoint that is chosen among the candidates left: draws are made until one of them hits a
candidate that can be reached. -/
def pick (outcome : Endpoint → Option Fault) : Nat → List Endpoint → List Int → Option Endpoint
  | 0, _, _ => none
  | _ + 1, [], _ => none
  | rounds + 1, e :: others, draws =>
    let drawn := (e :: others).get (Network.drawn draws others.length)
    if outcome drawn = none then some drawn
    else pick outcome rounds ((e :: others).filter fun x => x ≠ drawn) draws.tail

theorem Findings.alive_bury (found : Findings) (candidates : List Endpoint) (e : Endpoint) :
    (found.bury e).alive candidates = (found.alive candidates).filter fun x => x ≠ e := by
  unfold Findings.alive
  rw [List.filter_filter]
  refine List.filter_congr ?_
  intro x _
  simp [Findings.bury, Bool.not_or]

section Following

variable {σ : Type} {prober : Prober σ} {candidates : List Endpoint} {timeout : Binary64}
variable {outcome : Endpoint → Option Fault} {probed? : Note → Option Endpoint}
variable {Ready : List Int → List Endpoint → σ → Prop}

/-- A search ends with the endpoint that the draws pick. -/
theorem search_eq_ok_iff (follows : Follows prober candidates timeout outcome probed? Ready)
    (hsystem : ∀ e f, outcome e = some f → f.isSystem = true) (rounds : Nat) (found : Findings)
    {draws : List Int} {s : σ} (hready : Ready draws found.dead s) (c : Endpoint) :
    (search prober candidates timeout rounds found s).outcome = .ok c ↔
      pick outcome rounds (found.alive candidates) draws = some c := by
  induction rounds generalizing found draws s with
  | zero =>
      constructor
      · intro h
        cases h
      · intro h
        cases h
  | succ rounds ih =>
      cases halive : found.alive candidates with
      | nil =>
          rw [search, halive]
          constructor
          · intro h
            cases h
          · intro h
            cases h
      | cons e others =>
          rw [pick]
          cases hend : outcome ((e :: others).get (Network.drawn draws others.length)) with
          | none =>
              obtain ⟨notes, s', hrun, -⟩ := search_of_reached follows rounds hready halive hend
              rw [hrun, if_pos rfl, Option.some.injEq]
              exact ⟨fun h => Outcome.ok.inj h, congrArg Outcome.ok⟩
          | some f =>
              obtain ⟨notes, s', hrun, -, hready'⟩ :=
                search_of_buried follows rounds hready halive hend (hsystem _ _ hend)
              have hnext := ih (found.bury _) hready'
              rw [Findings.alive_bury, halive] at hnext
              rw [hrun, if_neg (Option.some_ne_none f)]
              exact hnext

end Following

/-! ### Chances -/

section Chances

variable {outcome : Endpoint → Option Fault} {c : Endpoint} {N : Nat}

/-- The number of places of a list at which there is a candidate that can be reached. -/
def places (outcome : Endpoint → Option Fault) (alive : List Endpoint) : Nat :=
  alive.countP fun e => (outcome e).isNone

theorem places_filter {dead : Endpoint} (hdead : outcome dead ≠ none) (alive : List Endpoint) :
    places outcome (alive.filter fun x => x ≠ dead) = places outcome alive := by
  unfold places
  rw [List.countP_filter]
  refine List.countP_congr ?_
  intro x _
  by_cases hx : x = dead
  · simp [hx, hdead]
  · simp [hx]

theorem count_filter_of_reached {dead : Endpoint} (hdead : outcome dead ≠ none)
    (hc : outcome c = none) (alive : List Endpoint) :
    (alive.filter fun x => x ≠ dead).count c = alive.count c := by
  refine List.count_filter ?_
  have hne : c ≠ dead := by
    rintro rfl
    exact hdead hc
  simp [hne]

/-- What the places of a list contribute, if a place that can be reached contributes `a` at `c` and
nothing elsewhere, and every other place contributes `b`. -/
theorem sum_places (hc : outcome c = none) (a b : Nat) (alive : List Endpoint) :
    (alive.map fun x => if outcome x = none then (if x = c then a else 0) else b).sum =
      alive.count c * a + (alive.length - places outcome alive) * b := by
  have hle : ∀ l : List Endpoint, places outcome l ≤ l.length := fun l => List.countP_le_length
  induction alive with
  | nil =>
      simp
  | cons x alive ih =>
      have hrest := hle alive
      rw [List.map_cons, List.sum_cons, ih]
      by_cases hreach : outcome x = none
      · have hplaces : places outcome (x :: alive) = places outcome alive + 1 := by
          simp [places, hreach]
        rw [if_pos hreach, hplaces, List.length_cons, Nat.add_sub_add_right]
        by_cases hx : x = c
        · rw [if_pos hx, hx, List.count_cons_self]
          ring
        · rw [if_neg hx, List.count_cons_of_ne hx, Nat.zero_add]
      · have hplaces : places outcome (x :: alive) = places outcome alive := by
          simp [places, hreach]
        have hne : x ≠ c := by
          rintro rfl
          exact hreach hc
        rw [if_neg hreach, hplaces, List.length_cons, List.count_cons_of_ne hne,
          Nat.sub_add_comm hrest]
        ring

/-- The number of vectors of further draws with which `c` is chosen when `drawn` has been drawn. -/
def share (outcome : Endpoint → Option Fault) (rounds N : Nat) (alive : List Endpoint)
    (c drawn : Endpoint) : Nat :=
  vectors rounds N fun draws =>
    (if outcome drawn = none then some drawn
      else pick outcome rounds (alive.filter fun x => x ≠ drawn) draws) = some c

theorem share_of_chosen (hc : outcome c = none) (rounds N : Nat) (alive : List Endpoint) :
    share outcome rounds N alive c c = N ^ rounds := by
  refine vectors_of_all fun draws => ?_
  rw [if_pos hc]

theorem share_of_other {x : Endpoint} (hx : outcome x = none) (hne : x ≠ c) (rounds N : Nat)
    (alive : List Endpoint) : share outcome rounds N alive c x = 0 := by
  refine vectors_of_none fun draws => ?_
  rw [if_pos hx, Option.some.injEq]
  exact hne

theorem share_of_dead {x : Endpoint} (hx : outcome x ≠ none) (rounds N : Nat)
    (alive : List Endpoint) :
    share outcome rounds N alive c x =
      vectors rounds N fun draws =>
        pick outcome rounds (alive.filter fun y => y ≠ x) draws = some c := by
  refine vectors_congr fun draws => ?_
  rw [if_neg hx]

/-- The first draw hits each place of the list equally often. -/
theorem vectors_pick_succ (rounds : Nat) {e : Endpoint} {others : List Endpoint}
    (hdvd : others.length + 1 ∣ N) :
    (vectors (rounds + 1) N fun draws => pick outcome (rounds + 1) (e :: others) draws = some c) =
      N / (others.length + 1) * ((e :: others).map (share outcome rounds N (e :: others) c)).sum := by
  rw [vectors_succ, ← Fin.sum_univ_fun_getElem]
  exact sum_reduceDraw hdvd fun i => share outcome rounds N (e :: others) c ((e :: others).get i)

/-- A candidate found dead leaves fewer endpoints. -/
theorem card_filter_lt {x : Endpoint} {alive : List Endpoint} (hx : x ∈ alive) :
    (alive.filter fun y => y ≠ x).toFinset.card < alive.toFinset.card := by
  refine card_lt_card ((ssubset_iff_of_subset ?_).2 ⟨x, List.mem_toFinset.2 hx, by simp⟩)
  intro y hy
  exact List.mem_toFinset.2 (List.mem_of_mem_filter (List.mem_toFinset.1 hy))

/-- The chances of an endpoint that can be reached, among the candidates left. -/
theorem wins_pick (hc : outcome c = none) (rounds : Nat) (alive : List Endpoint)
    (hrounds : alive.toFinset.card ≤ rounds)
    (hdvd : ∀ m, 0 < m → m ≤ alive.length → m ∣ N) :
    (vectors rounds N fun draws => pick outcome rounds alive draws = some c) *
      places outcome alive = N ^ rounds * alive.count c := by
  induction rounds generalizing alive with
  | zero =>
      have hnil : alive = [] := by
        rw [← List.toFinset_eq_empty_iff, ← card_eq_zero]
        omega
      simp [hnil, places]
  | succ rounds ih =>
      cases alive with
      | nil =>
          simp [places]
      | cons e others =>
          let alive := e :: others
          have hdistinct : alive.toFinset.card ≤ rounds + 1 := hrounds
          have hlength : others.length + 1 ∣ N := hdvd _ (Nat.succ_pos _) le_rfl
          have hshare : ∀ x ∈ alive, share outcome rounds N alive c x * places outcome alive =
              if outcome x = none then (if x = c then N ^ rounds * places outcome alive else 0)
              else N ^ rounds * alive.count c := by
            intro x hx
            by_cases hreach : outcome x = none
            · rw [if_pos hreach]
              by_cases hxc : x = c
              · rw [if_pos hxc, hxc, share_of_chosen hc]
              · rw [if_neg hxc, share_of_other hreach hxc, Nat.zero_mul]
            · have hfewer := card_filter_lt hx
              have hshorter := ih (alive.filter fun y => y ≠ x) (by omega) fun m hm hle =>
                hdvd m hm (hle.trans (List.length_filter_le _ _))
              rw [places_filter hreach, count_filter_of_reached hreach hc] at hshorter
              rw [if_neg hreach, share_of_dead hreach]
              exact hshorter
          have hsum : (alive.map (share outcome rounds N alive c)).sum * places outcome alive =
              (others.length + 1) * (N ^ rounds * alive.count c) := by
            have hle : places outcome alive ≤ others.length + 1 := List.countP_le_length
            have hsplit : alive.length - places outcome alive + places outcome alive =
                others.length + 1 := Nat.sub_add_cancel hle
            rw [← List.sum_map_mul_right, List.map_congr_left hshare, sum_places hc, ← hsplit]
            ring
          rw [vectors_pick_succ rounds hlength, Nat.mul_assoc, hsum, ← Nat.mul_assoc,
            Nat.div_mul_cancel hlength, pow_succ]
          ring

end Chances

/-! ### Plans and networks -/

/-- The chances of every endpoint that can be reached, when a choice is made with as many draws as
there are candidates: it is chosen with the share that its places have among the places of all
candidates that can be reached. -/
def Uniform {σ : Type} (outcome : Endpoint → Option Fault) (candidates : List Endpoint)
    (run : List Int → Run σ Endpoint) : Prop :=
  ∀ c, outcome c = none →
    (vectors candidates.length candidates.length ! fun draws => (run draws).outcome = .ok c) *
      places outcome candidates =
    (candidates.length !) ^ candidates.length * candidates.count c

theorem uniform_of_follows {σ : Type} {prober : Prober σ} {candidates : List Endpoint}
    {timeout : Binary64} {outcome : Endpoint → Option Fault} {probed? : Note → Option Endpoint}
    {Ready : List Int → List Endpoint → σ → Prop}
    (follows : Follows prober candidates timeout outcome probed? Ready)
    (hsystem : ∀ e f, outcome e = some f → f.isSystem = true) {start : List Int → σ}
    (hstart : ∀ draws, Ready draws [] (start draws)) :
    Uniform outcome candidates fun draws => select prober candidates timeout (start draws) := by
  intro c hc
  by_cases hne : candidates = []
  · subst hne
    rfl
  · have halive : ({} : Findings).alive candidates = candidates := by
      simp [Findings.alive]
    have hpick : ∀ draws, (select prober candidates timeout (start draws)).outcome = .ok c ↔
        pick outcome candidates.length candidates draws = some c := by
      intro draws
      have hsearch := search_eq_ok_iff follows hsystem candidates.length {}
        (hstart draws) c
      rw [halive] at hsearch
      rw [select_of_ne_nil prober hne]
      exact hsearch
    rw [vectors_congr hpick]
    exact wins_pick hc candidates.length candidates (List.toFinset_card_le candidates)
      fun m hm hle => Nat.dvd_factorial hm hle

/-- A choice is uniform over the candidates that can be reached, with probes by a plan and in both
modes with probes on a network, whatever endpoints are dead. -/
theorem select_uniform (candidates : List Endpoint) {outcome : Endpoint → Option Fault}
    (hsystem : ∀ e f, outcome e = some f → f.isSystem = true) (timeout : Binary64) :
    Uniform outcome candidates (fun draws =>
        select rehearsedProber candidates timeout ⟨fun e => [outcome e], draws⟩) ∧
      ∀ (mode : Mode) (net : Network), Network.begins mode timeout = true →
        (∀ e ∈ candidates, (probe mode e timeout net).outcome = .ofFault (outcome e)) →
        Uniform outcome candidates fun draws =>
          select (networkProber mode) candidates timeout { net with draws } := by
  constructor
  · exact uniform_of_follows (follows_rehearsed candidates timeout outcome) hsystem fun draws => rfl
  · intro mode net hbegins hprobe
    exact uniform_of_follows (follows_network hbegins hprobe) hsystem
      fun draws => ⟨rfl, fun e _ => rfl⟩

/-- One of three endpoints occurs twice, and another is dead. -/
def crowdedCandidates : List Endpoint :=
  [.atFirstPort "a", .atFirstPort "b", .atFirstPort "c", .atFirstPort "a"]

/-- The faults of probes when `c` cannot be reached. -/
def crowdedOutcome (e : Endpoint) : Option Fault :=
  if e.host = "c" then some .connectionRefused else none

/-- A network on which `c` cannot be reached. -/
def crowded : Network where
  scripts e := if e.host = "c" then [] else [{}]

/-- A blocking choice among them, as a function of the draws. -/
def crowdedRun (draws : List Int) : Run Network Endpoint :=
  select (networkProber .sync) crowdedCandidates (.finite false 60 0) { crowded with draws }

/-- Two of the three places that can be reached hold `a`, which is chosen with two thirds of the
vectors of draws. -/
theorem select_uniform_crowded :
    Uniform crowdedOutcome crowdedCandidates (fun draws =>
        select rehearsedProber crowdedCandidates (.finite false 60 0)
          ⟨fun e => [crowdedOutcome e], draws⟩) ∧
      Uniform crowdedOutcome crowdedCandidates crowdedRun ∧
      (vectors 4 24 fun draws => (crowdedRun draws).outcome = .ok (.atFirstPort "a")) * 3 =
        24 ^ 4 * 2 := by
  have hsystem : ∀ e f, crowdedOutcome e = some f → f.isSystem = true := by
    intro e f h
    unfold crowdedOutcome at h
    split at h
    · cases h
      rfl
    · cases h
  have huniform := select_uniform crowdedCandidates hsystem (.finite false 60 0)
  have hnetwork : Uniform crowdedOutcome crowdedCandidates crowdedRun :=
    huniform.2 .sync crowded (by decide +kernel) (by decide +kernel)
  have hplaces : places crowdedOutcome crowdedCandidates = 3 := by decide
  have hcount : crowdedCandidates.count (.atFirstPort "a") = 2 := by decide
  have hlength : crowdedCandidates.length = 4 := rfl
  have hdraws : 4 ! = 24 := by decide
  have hfirst := hnetwork (.atFirstPort "a") rfl
  rw [hplaces, hcount, hlength, hdraws] at hfirst
  exact ⟨huniform.1, hnetwork, hfirst⟩

end Selection
end ReplicaRead
