import ReplicaRead.Proofs.Selection.Runs

/-!
# The rounds of a choice

A choice goes on in rounds. Before each round it has found some endpoints dead, one for each round
before. Candidates that occur more than once are found dead all at once, so the list of those that
are left does not shrink in step with the counter of failures.

Input: any source of draws and any way of probing that end, whatever they do to their state.

Algorithm: each round is told by the candidates from which the endpoint was drawn, by the endpoint
and by the fault of its probe. The stages of a choice are followed from one round to the next.

Results: `Stage.kept`, what holds before each round; `search_of_stage`, by which each stage is one
of the choice; and `exists_last_stage`, by which each choice ends after one of its stages.
-/

namespace ReplicaRead

/-- The warnings among notes. -/
def warnings (notes : List Note) : List Record :=
  (logRecords notes).filter fun r => r.level = .warning

@[simp] theorem warnings_append (xs ys : List Note) :
    warnings (xs ++ ys) = warnings xs ++ warnings ys := by
  simp [warnings, logRecords]

@[simp] theorem drawSizes_append (xs ys : List Note) :
    drawSizes (xs ++ ys) = drawSizes xs ++ drawSizes ys := by
  simp [drawSizes]

namespace Selection

open Act

/-! ### Stages -/

/-- A round in which an endpoint was found dead. -/
structure Burial where
  /-- The candidates from which it was drawn. -/
  offered : List Endpoint
  endpoint : Endpoint
  fault : Fault

/-- The candidates that have not been found dead, in order. -/
def left (candidates : List Endpoint) (past : List Burial) : List Endpoint :=
  candidates.filter fun e => e ∉ past.map Burial.endpoint

/-- What is logged of the burials. -/
def obituaries (total : Nat) (past : List Burial) : List Record :=
  past.mapIdx fun k b =>
    ⟨.warning, .selection, deadMessage b.endpoint (k + 1) total b.fault⟩

section Rounds

variable {σ : Type} (prober : Prober σ) (candidates : List Endpoint) (timeout : Binary64)

/-- What a choice has come to before a round: the rounds before, what has been found out and noted,
and the state. Each round before has drawn and probed, and its attempt has not reached the
endpoint. -/
inductive Stage (start : σ) : List Burial → Findings → List Note → σ → Prop where
  | first : Stage start [] {} [] start
  | next {past : List Burial} {found found' : Findings} {notes notes' ds ps : List Note}
      {s s' s'' s''' : σ} {e : Endpoint} {others : List Endpoint} {i : Fin (others.length + 1)}
      {f : Fault} (h : Stage start past found notes s)
      (hcounter : found.failures < candidates.length)
      (halive : found.alive candidates = e :: others)
      (hdraw : prober.draw others.length s = ⟨.ok i, ds, s'⟩)
      (hprobe : prober.probe ((e :: others).get i) timeout s' = ⟨.fault f, ps, s''⟩)
      (hattempt : attempt prober candidates.length timeout found e others s =
        ⟨.ok (.inl found'), notes', s'''⟩) :
      Stage start (past ++ [⟨e :: others, (e :: others).get i, f⟩]) found' (notes ++ notes') s'''

/-- The ways in which a choice ends after a stage. -/
inductive Ends (found : Findings) (s : σ) : Run σ Endpoint → Prop where
  /-- No candidate is left. -/
  | exhausted (halive : found.alive candidates = []) :
      Ends found s ⟨.fault (.noReachableReplica candidates.length), [], s⟩
  /-- A candidate is reached. -/
  | reached {ds ps : List Note} {s' s'' : σ} {e : Endpoint} {others : List Endpoint}
      {i : Fin (others.length + 1)} (hcounter : found.failures < candidates.length)
      (halive : found.alive candidates = e :: others)
      (hdraw : prober.draw others.length s = ⟨.ok i, ds, s'⟩)
      (hprobe : prober.probe ((e :: others).get i) timeout s' = ⟨.ok (), ps, s''⟩) :
      Ends found s ⟨.ok ((e :: others).get i), ds ++ (ps ++ [.record ⟨.debug, .selection,
        chosenMessage ((e :: others).get i) found.failures⟩]), s''⟩
  /-- A probe ends with a fault that is not a failure of the system. -/
  | escaped {ds ps : List Note} {s' s'' : σ} {e : Endpoint} {others : List Endpoint}
      {i : Fin (others.length + 1)} {f : Fault} (hcounter : found.failures < candidates.length)
      (halive : found.alive candidates = e :: others)
      (hdraw : prober.draw others.length s = ⟨.ok i, ds, s'⟩)
      (hprobe : prober.probe ((e :: others).get i) timeout s' = ⟨.fault f, ps, s''⟩)
      (hf : f.isSystem = false) :
      Ends found s ⟨.fault f, ds ++ ps, s''⟩

/-- Draws and probes that end, of which only the draws note draws and none a warning. -/
structure Orderly (prober : Prober σ) : Prop where
  draw : ∀ n s, ∃ i s', prober.draw n s = ⟨.ok i, [.draw (n + 1)], s'⟩
  probe : ∀ e timeout s, ∃ f notes s', prober.probe e timeout s = ⟨.ofFault f, notes, s'⟩ ∧
    drawSizes notes = [] ∧ warnings notes = []

end Rounds

section Orderly

variable {σ : Type} {prober : Prober σ} {s s' : σ} {notes : List Note}

theorem Orderly.draw_notes (h : Orderly prober) {n : Nat} {o : Outcome (Fin (n + 1))}
    (hdraw : prober.draw n s = ⟨o, notes, s'⟩) : notes = [.draw (n + 1)] := by
  obtain ⟨i, s'', hrun⟩ := h.draw n s
  exact congrArg Run.notes (hdraw.symm.trans hrun)

theorem Orderly.probe_notes (h : Orderly prober) {e : Endpoint} {timeout : Binary64}
    {o : Outcome Unit} (hprobe : prober.probe e timeout s = ⟨o, notes, s'⟩) :
    drawSizes notes = [] ∧ warnings notes = [] := by
  obtain ⟨f, notes', s'', hrun, hquiet⟩ := h.probe e timeout s
  obtain rfl : notes = notes' := congrArg Run.notes (hprobe.symm.trans hrun)
  exact hquiet

end Orderly

/-! ### Candidates left -/

section Left

variable {candidates : List Endpoint} {past : List Burial} {b : Burial} {e : Endpoint}

@[simp] theorem left_nil (candidates : List Endpoint) : left candidates [] = candidates := by
  simp [left]

theorem mem_left : e ∈ left candidates past ↔ e ∈ candidates ∧ e ∉ past.map Burial.endpoint := by
  simp [left]

theorem left_append_singleton :
    left candidates (past ++ [b]) = (left candidates past).filter fun e => e ≠ b.endpoint := by
  unfold left
  rw [List.filter_filter]
  refine List.filter_congr ?_
  intro e _
  rw [Bool.eq_iff_iff]
  simp [and_comm]

/-- A burial takes away all occurrences of an endpoint. -/
theorem length_left_append_singleton (hleft : b.endpoint ∈ left candidates past) :
    (left candidates (past ++ [b])).length + candidates.count b.endpoint =
      (left candidates past).length := by
  have hnew : (decide (b.endpoint ∉ past.map Burial.endpoint)) = true :=
    decide_eq_true (mem_left.1 hleft).2
  have hcount : (left candidates past).count b.endpoint = candidates.count b.endpoint :=
    List.count_filter hnew
  rw [left_append_singleton, ← hcount, List.count, ← List.countP_eq_length_filter, Nat.add_comm,
    List.length_eq_countP_add_countP (· == b.endpoint)]
  simp

end Left

/-! ### One round -/

section Round

variable {σ : Type} {prober : Prober σ} {candidates : List Endpoint} {timeout : Binary64}

/-- A round goes on exactly if the probe fails by the system. -/
theorem attempt_inl {total : Nat} {found found' : Findings} {e : Endpoint}
    {others : List Endpoint} {s s' s'' s''' : σ} {i : Fin (others.length + 1)}
    {ds ps notes : List Note} {f : Fault}
    (hdraw : prober.draw others.length s = ⟨.ok i, ds, s'⟩)
    (hprobe : prober.probe ((e :: others).get i) timeout s' = ⟨.fault f, ps, s''⟩)
    (hattempt : attempt prober total timeout found e others s =
      ⟨.ok (.inl found'), notes, s'''⟩) :
    found' = found.bury ((e :: others).get i) ∧
      notes = ds ++ (ps ++ [.record ⟨.warning, .selection,
        deadMessage ((e :: others).get i) (found.failures + 1) total f⟩]) := by
  by_cases hf : f.isSystem = true
  · rw [attempt_of_buried hdraw hprobe hf] at hattempt
    cases hattempt
    exact ⟨rfl, rfl⟩
  · rw [attempt_of_escaped hdraw hprobe (Bool.eq_false_iff.2 hf)] at hattempt
    cases hattempt

end Round

/-! ### What holds before each round -/

/-- A round drew one of all the candidates that were left before it. All occurrences of the endpoint
were found dead at once. -/
structure Offered (candidates : List Endpoint) (before : List Burial) (b : Burial) : Prop where
  offered_eq : b.offered = left candidates before
  mem : b.endpoint ∈ b.offered
  length : (left candidates (before ++ [b])).length + candidates.count b.endpoint =
    b.offered.length

/-- What holds before each round of a choice. -/
structure Kept (candidates : List Endpoint) (past : List Burial) (found : Findings)
    (notes : List Note) : Prop where
  /-- The endpoints found dead are those that were probed. -/
  dead : found.dead = (past.map Burial.endpoint).reverse
  nodup : found.dead.Nodup
  subset : found.dead ⊆ candidates
  failures : found.failures = found.dead.length
  /-- Each of them was warned of, in order. -/
  warnings : warnings notes = obituaries candidates.length past
  warned : found.failures = (ReplicaRead.warnings notes).length
  drawn : drawSizes notes = past.map fun b => b.offered.length
  offered : ∀ before b after, past = before ++ b :: after → Offered candidates before b
  alive : found.alive candidates = left candidates past

section Kept

variable {candidates : List Endpoint} {past : List Burial} {found : Findings} {notes : List Note}

theorem alive_eq_left (hdead : found.dead = (past.map Burial.endpoint).reverse) :
    found.alive candidates = left candidates past := by
  unfold Findings.alive left
  rw [hdead]
  refine List.filter_congr ?_
  intro e _
  rw [Bool.eq_iff_iff]
  simp

theorem kept_first (candidates : List Endpoint) : Kept candidates [] {} [] where
  dead := rfl
  nodup := List.nodup_nil
  subset := List.nil_subset _
  failures := rfl
  warnings := rfl
  warned := rfl
  drawn := rfl
  offered before b after h := by
    simp at h
  alive := alive_eq_left rfl

/-- What a round keeps that draws from the candidates left, and notes its draw and its failure. -/
theorem Kept.next {b : Burial} {notes' : List Note} (h : Kept candidates past found notes)
    (hoffered : found.alive candidates = b.offered) (hmem : b.endpoint ∈ b.offered)
    (hdraws : drawSizes notes' = [b.offered.length])
    (hwarnings : ReplicaRead.warnings notes' = [⟨.warning, .selection,
      deadMessage b.endpoint (found.failures + 1) candidates.length b.fault⟩]) :
    Kept candidates (past ++ [b]) (found.bury b.endpoint) (notes ++ notes') := by
  have hleft : b.offered = left candidates past := hoffered.symm.trans h.alive
  obtain ⟨hcandidate, hnew⟩ : b.endpoint ∈ candidates ∧ b.endpoint ∉ found.dead := by
    rw [← Findings.mem_alive, hoffered]
    exact hmem
  have hdead : (found.bury b.endpoint).dead = ((past ++ [b]).map Burial.endpoint).reverse := by
    simp [Findings.bury, h.dead]
  have hpast : found.failures = past.length := by
    rw [h.failures, h.dead, List.length_reverse, List.length_map]
  refine ⟨hdead, ?nodup, ?subset, ?failures, ?warnings, ?warned, ?drawn, ?offered,
    alive_eq_left hdead⟩
  case nodup =>
      exact List.nodup_cons.2 ⟨hnew, h.nodup⟩
  case subset =>
      exact List.cons_subset.2 ⟨hcandidate, h.subset⟩
  case failures =>
      exact congrArg Nat.succ h.failures
  case warnings =>
      rw [warnings_append, h.warnings, hwarnings, hpast, obituaries, obituaries,
        List.mapIdx_concat]
  case warned =>
      rw [warnings_append, hwarnings, List.length_append, ← h.warned]
      rfl
  case drawn =>
      rw [drawSizes_append, h.drawn, hdraws, List.map_append]
      rfl
  case offered =>
      intro before c after hsplit
      rcases List.eq_nil_or_concat after with rfl | ⟨after', last, rfl⟩
      · obtain ⟨rfl, hlast⟩ := List.append_inj' hsplit rfl
        cases hlast
        have hmem' : b.endpoint ∈ left candidates past := hleft ▸ hmem
        refine ⟨hleft, hmem, ?_⟩
        rw [length_left_append_singleton hmem', hleft]
      · rw [List.concat_eq_append, ← List.cons_append, ← List.append_assoc] at hsplit
        exact h.offered before c after' (List.append_inj' hsplit rfl).1

theorem Kept.counted (h : Kept candidates past found notes) {rounds : Nat}
    (hrounds : found.failures + rounds = candidates.length) :
    found.Counted candidates rounds :=
  ⟨h.nodup, h.subset, h.failures ▸ hrounds⟩

end Kept

/-! ### Choices and their stages -/

section Stages

variable {σ : Type} {prober : Prober σ} {candidates : List Endpoint} {timeout : Binary64}
variable {start s : σ} {past : List Burial} {found : Findings} {notes : List Note}

/-- Each round before a stage counts as a failure. -/
theorem Stage.failures (h : Stage prober candidates timeout start past found notes s) :
    found.failures = past.length := by
  induction h with
  | first =>
      rfl
  | next h hcounter halive hdraw hprobe hattempt ih =>
      obtain ⟨rfl, -⟩ := attempt_inl hdraw hprobe hattempt
      rw [List.length_append, List.length_singleton, ← ih]
      rfl

/-- There are no more rounds than candidates. -/
theorem Stage.length_le (h : Stage prober candidates timeout start past found notes s) :
    past.length ≤ candidates.length := by
  cases h with
  | first =>
      exact Nat.zero_le _
  | next h hcounter halive hdraw hprobe hattempt =>
      rw [h.failures] at hcounter
      rw [List.length_append]
      exact hcounter

/-- What holds before each round. -/
theorem Stage.kept (horderly : Orderly prober)
    (h : Stage prober candidates timeout start past found notes s) :
    Kept candidates past found notes := by
  induction h with
  | first =>
      exact kept_first candidates
  | @next past found found' notes notes' ds ps s s' s'' s''' e others i f h hcounter halive hdraw
      hprobe hattempt ih =>
      obtain ⟨hdraws, hwarnings⟩ := horderly.probe_notes hprobe
      obtain ⟨rfl, rfl⟩ := attempt_inl hdraw hprobe hattempt
      rw [horderly.draw_notes hdraw]
      refine ih.next (b := ⟨e :: others, (e :: others).get i, f⟩) halive (List.get_mem _ _) ?_ ?_
      · rw [drawSizes_append, drawSizes_append, hdraws]
        rfl
      · rw [warnings_append, warnings_append, hwarnings]
        rfl

/-- Each stage is one of the choice, which goes on from there. -/
theorem search_of_stage (h : Stage prober candidates timeout start past found notes s) :
    search prober candidates timeout candidates.length {} start =
      (search prober candidates timeout (candidates.length - past.length) found s).prepend
        notes := by
  induction h with
  | first =>
      rfl
  | @next past found found' notes notes' ds ps s s' s'' s''' e others i f h hcounter halive hdraw
      hprobe hattempt ih =>
      have hrounds : candidates.length - past.length =
          candidates.length - (past.length + 1) + 1 := by
        rw [h.failures] at hcounter
        omega
      rw [ih, hrounds, search_succ halive, round_of_inl _ _ hattempt, List.length_append,
        List.length_singleton, Run.prepend_prepend]

/-- A choice ends after one of its stages. -/
theorem exists_stage_ends (horderly : Orderly prober) {rounds : Nat}
    (h : Stage prober candidates timeout start past found notes s)
    (hrounds : past.length + rounds = candidates.length) :
    ∃ past' found' notes' s' r, Stage prober candidates timeout start past' found' notes' s' ∧
      Ends prober candidates timeout found' s' r ∧
      (search prober candidates timeout rounds found s).prepend notes = r.prepend notes' := by
  rw [← h.failures] at hrounds
  induction rounds generalizing past found notes s with
  | zero =>
      have halive := ((h.kept horderly).counted hrounds).alive_eq_nil
      exact ⟨past, found, notes, s, _, h, .exhausted halive, rfl⟩
  | succ rounds ih =>
      cases halive : found.alive candidates with
      | nil =>
          rw [search, halive]
          exact ⟨past, found, notes, s, _, h, .exhausted halive, rfl⟩
      | cons e others =>
          have hcounter : found.failures < candidates.length := by omega
          obtain ⟨i, s', hdraw⟩ := horderly.draw others.length s
          obtain ⟨f, ps, s'', hprobe, -⟩ := horderly.probe ((e :: others).get i) timeout s'
          rw [search_succ halive]
          cases f with
          | none =>
              have hends := Ends.reached hcounter halive hdraw hprobe
              refine ⟨past, found, notes, s, _, h, hends, ?_⟩
              rw [round_of_inr _ _ (attempt_of_reached hdraw hprobe)]
              simp
          | some f =>
              by_cases hf : f.isSystem = true
              · have hattempt : attempt prober candidates.length timeout found e others s = _ :=
                  attempt_of_buried hdraw hprobe hf
                have hnext := h.next hcounter halive hdraw hprobe hattempt
                have hleft : (found.bury ((e :: others).get i)).failures + rounds =
                    candidates.length := (Nat.succ_add_eq_add_succ _ _).trans hrounds
                obtain ⟨past', found', notes', s₂, r, hstage, hends, hrun⟩ := ih hnext hleft
                refine ⟨past', found', notes', s₂, r, hstage, hends, ?_⟩
                rw [round_of_inl _ _ hattempt, Run.prepend_prepend]
                exact hrun
              · have hescapes := Bool.eq_false_iff.2 hf
                have hends := Ends.escaped hcounter halive hdraw hprobe hescapes
                refine ⟨past, found, notes, s, _, h, hends, ?_⟩
                rw [round_of_fault _ _ (attempt_of_escaped hdraw hprobe hescapes)]

/-- Every choice ends after some stage. -/
theorem exists_last_stage (horderly : Orderly prober) (hne : candidates ≠ []) (timeout : Binary64)
    (start : σ) :
    ∃ past found notes s r, Stage prober candidates timeout start past found notes s ∧
      Ends prober candidates timeout found s r ∧
      select prober candidates timeout start = r.prepend notes := by
  have hfirst : Stage prober candidates timeout start [] {} [] start := .first
  obtain ⟨past, found, notes, s, r, hstage, hends, hrun⟩ :=
    exists_stage_ends horderly hfirst (Nat.zero_add candidates.length)
  refine ⟨past, found, notes, s, r, hstage, hends, ?_⟩
  rw [select_of_ne_nil prober hne]
  exact hrun

/-- The last round draws from the candidates left, unless none is left, and warns of nothing. -/
theorem Ends.lastDraw (horderly : Orderly prober) {r : Run σ Endpoint}
    (h : Ends prober candidates timeout found s r)
    (hleft : found.alive candidates = left candidates past) :
    (left candidates past = [] ∧ drawSizes r.notes = [] ∨
      left candidates past ≠ [] ∧ drawSizes r.notes = [(left candidates past).length]) ∧
      warnings r.notes = [] := by
  rw [← hleft]
  cases h with
  | exhausted halive =>
      exact ⟨Or.inl ⟨halive, rfl⟩, rfl⟩
  | reached hcounter halive hdraw hprobe =>
      obtain ⟨hdraws, hwarnings⟩ := horderly.probe_notes hprobe
      rw [halive, horderly.draw_notes hdraw, drawSizes_append, drawSizes_append, warnings_append,
        warnings_append, hdraws, hwarnings]
      exact ⟨Or.inr ⟨List.cons_ne_nil _ _, rfl⟩, rfl⟩
  | escaped hcounter halive hdraw hprobe hf =>
      obtain ⟨hdraws, hwarnings⟩ := horderly.probe_notes hprobe
      rw [halive, horderly.draw_notes hdraw, drawSizes_append, warnings_append, hdraws, hwarnings]
      exact ⟨Or.inr ⟨List.cons_ne_nil _ _, rfl⟩, rfl⟩

end Stages

/-! ### Plans and networks -/

theorem orderly_rehearsed : Orderly rehearsedProber where
  draw n plan := by
    obtain ⟨outcomes, draws⟩ := plan
    cases draws with
    | nil =>
        exact ⟨_, _, rfl⟩
    | cons d draws =>
        exact ⟨_, _, rfl⟩
  probe e timeout plan := by
    have hrun : ∃ f plan', ProbePlan.probe e timeout plan =
        ⟨.ofFault f, [.probed e timeout], plan'⟩ := by
      unfold ProbePlan.probe
      cases hplan : plan.outcomes e with
      | nil =>
          exact ⟨none, plan, by simp [hplan, Outcome.ofFault]⟩
      | cons f rest =>
          let outcomes := if rest.isEmpty then plan.outcomes
            else fun x => if x = e then rest else plan.outcomes x
          refine ⟨f, ⟨outcomes, plan.draws⟩, ?_⟩
          cases f <;> cases rest <;> simp [outcomes, hplan, Outcome.ofFault, Act.set]
    obtain ⟨f, plan', hrun⟩ := hrun
    exact ⟨f, _, plan', hrun, rfl, rfl⟩

/-- What a probe on a network notes besides its events is for debugging only. -/
theorem orderly_network (mode : Mode) : Orderly (networkProber mode) where
  draw n net := ⟨_, _, Network.draw_apply n net⟩
  probe e timeout net := by
    cases hbegins : Network.begins mode timeout with
    | false =>
        exact ⟨some .noTime, [], net, probe_of_untimely hbegins e net, rfl, rfl⟩
    | true =>
        have hdraws : drawSizes (probeNotes mode e net) = [] := by
          refine List.filterMap_eq_nil_iff.2 ?_
          intro n hn
          rcases mem_probeNotes hn with ⟨id, rfl⟩ | ⟨m, rfl⟩
          · rfl
          · rfl
        have hwarnings : warnings (probeNotes mode e net) = [] := by
          refine List.filter_eq_nil_iff.2 ?_
          intro r hr
          obtain ⟨n, hn, hrecord⟩ := List.mem_filterMap.1 hr
          rcases mem_probeNotes hn with ⟨id, rfl⟩ | ⟨m, rfl⟩
          · cases hrecord
          · cases hrecord
            exact Bool.false_ne_true
        exact ⟨_, _, _, probe_apply hbegins e net, hdraws, hwarnings⟩

end Selection
end ReplicaRead
