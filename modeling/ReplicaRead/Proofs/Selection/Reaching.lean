import ReplicaRead.Proofs.Connections

/-!
# How a choice on the network ends

A choice ends in one of three ways, in both modes and on every network. It reaches a candidate by the
only probe of it; or it reaches none; or a probe ends with a fault that is not a failure of the
system, which some connection brought. Scripts are only used up by the way.

Results: `RoundEnds` and `round_ends`, for one probe, and `SearchEnds` and `select_ends`, for the
choice.
-/

namespace ReplicaRead

open Act

/-- An attempt leaves an end of the scripts. -/
theorem Network.afterAttempt_suffix (net : Network) (e x : Endpoint) :
    (net.afterAttempt e).scripts x <:+ net.scripts x := by
  by_cases hx : x = e
  · subst hx
    simpa [afterAttempt, dropScript] using List.tail_suffix (net.scripts x)
  · simp [afterAttempt, dropScript, hx]

namespace Selection

/-! ### One probe -/

/-- The endpoint `e` has been reached by the only probe of it, which has used up a script. -/
structure Reached (net : Network) (e : Endpoint) (notes : List Note) (net' : Network) :
    Prop where
  script : ∃ script, net.scripts e = script :: net'.scripts e ∧ script.connectFault = none
  probed : ∃ before id timeout, events notes = before ++ [.connect id e timeout, .close id] ∧
    ∀ n ∈ before, n.connect? ≠ some e
  kept : ∀ x, net'.scripts x <:+ net.scripts x

/-- A probe has been made of `e` at most, or of no endpoint. -/
structure Probed (net : Network) (e : Endpoint) (notes : List Note) (net' : Network) :
    Prop where
  others : ∀ x ≠ e, net'.scripts x = net.scripts x
  notes : ∀ n ∈ notes, ∀ x ≠ e, n.connect? ≠ some x
  kept : ∀ x, net'.scripts x <:+ net.scripts x

/-- Some connection brings a fault when it is made or closed. -/
def Brings (net : Network) (f : Fault) : Prop :=
  ∃ e, ∃ script ∈ net.scripts e, script.connectFault = some f ∨ script.closeFault = some f

/-- The ways in which a round ends that probes `e`. -/
inductive RoundEnds {β : Type} (net : Network) (e : Endpoint) (found : Findings)
    (k : Endpoint → Act Network β) (next : Findings → Act Network β) : Run Network β → Prop where
  | reached {notes : List Note} {net' : Network} (h : Reached net e notes net') :
      RoundEnds net e found k next ((k e net').prepend notes)
  | buried {notes : List Note} {net' : Network} (h : Probed net e notes net') :
      RoundEnds net e found k next ((next (found.bury e) net').prepend notes)
  | escaped {f : Fault} {notes : List Note} {net' : Network} (hf : f.isSystem = false)
      (h : Brings net f) : RoundEnds net e found k next ⟨.fault f, notes, net'⟩

section Round

variable {mode : Mode} {timeout : Binary64} {net net₁ net' : Network} {e : Endpoint}

/-- A probe that makes a connection and closes it reaches its endpoint. -/
theorem Reached.of_answered {link : Link} (hanswer : net.answer e = .ok link) (mode : Mode)
    (draws : List Int) (size : Nat) (timeout : Option Binary64) (r : Record) :
    Reached net e ([.draw size] ++ ((.connect net.attempts e timeout :: .close link.id ::
      hangUpLog mode e link) ++ [.record r])) ({ net with draws }.afterAttempt e) := by
  obtain ⟨script, -, hhead, hfault, rfl⟩ := Network.exists_script_of_answer hanswer
  obtain ⟨rest, hscripts⟩ := List.head?_eq_some_iff.1 hhead
  have hrest : ({ net with draws }.afterAttempt e).scripts e = rest := by
    simp [Network.afterAttempt, Network.dropScript, hscripts]
  have hlog : events (hangUpLog mode e (script.link net.attempts)) = [] := by
    refine events_eq_nil ?_
    intro n hn
    obtain ⟨m, rfl⟩ := mem_hangUpLog hn
    rfl
  refine ⟨⟨script, ?_, hfault⟩,
    ⟨[], net.attempts, timeout, ?_, fun n hn => absurd hn List.not_mem_nil⟩,
    Network.afterAttempt_suffix { net with draws } e⟩
  · rw [hrest, hscripts]
  · rw [events_append, events_append]
    show _ ++ ((.connect net.attempts e timeout :: .close net.attempts ::
      events (hangUpLog mode e (script.link net.attempts))) ++ _) = _
    rw [hlog]
    rfl

/-- What is done before on another endpoint does not matter. -/
theorem Reached.after_probed {x : Endpoint} {before notes : List Note} (h : Reached net₁ e notes net')
    (hprobed : Probed net x before net₁) (hne : e ≠ x) : Reached net e (before ++ notes) net' := by
  obtain ⟨script, hscript, hfault⟩ := h.script
  obtain ⟨before', id, timeout, hevents, hbefore'⟩ := h.probed
  refine ⟨⟨script, (hprobed.others e hne).symm.trans hscript, hfault⟩,
    ⟨events before ++ before', id, timeout, ?_, ?_⟩, fun y => (h.kept y).trans (hprobed.kept y)⟩
  · rw [events_append, hevents, List.append_assoc]
  · intro n hn
    rcases List.mem_append.1 hn with hn | hn
    · exact hprobed.notes n (List.mem_of_mem_filter hn) e hne
    · exact hbefore' n hn

/-- A connection that fails otherwise than by the system brings the fault itself. -/
theorem Brings.of_unanswered {f : Fault} (hanswer : net.answer e = .error f)
    (hf : (wrapInvalidHost e.host f).isSystem = false) : Brings net (wrapInvalidHost e.host f) := by
  have hsame : wrapInvalidHost e.host f = f := by
    unfold wrapInvalidHost at hf ⊢
    split at hf
    · cases hf
    · rename_i hkind
      exact if_neg hkind
  rw [hsame] at hf ⊢
  rcases Network.fault_of_answer hanswer with rfl | ⟨script, hmem, hfault⟩
  · cases hf
  · exact ⟨e, script, hmem, Or.inl hfault⟩

theorem Brings.of_answered {link : Link} {f : Fault} (hanswer : net.answer e = .ok link)
    (hf : link.closingFault mode = some f) : Brings net f := by
  obtain ⟨script, hmem, -, -, rfl⟩ := Network.exists_script_of_answer hanswer
  refine ⟨e, script, hmem, Or.inr ?_⟩
  cases mode with
  | sync =>
      cases hf
  | async =>
      exact (Option.filter_eq_some_iff.1 hf).1

theorem Brings.of_kept {f : Fault} (h : Brings net₁ f)
    (hkept : ∀ x, net₁.scripts x <:+ net.scripts x) : Brings net f := by
  obtain ⟨e, script, hmem, hf⟩ := h
  exact ⟨e, script, (hkept e).subset hmem, hf⟩

/-- How a round on the network ends. -/
theorem round_ends {β : Type} (mode : Mode) (total : Nat) (timeout : Binary64) (found : Findings)
    (first : Endpoint) (others : List Endpoint) (k : Endpoint → Act Network β)
    (next : Findings → Act Network β) (net : Network) :
    RoundEnds net (chosen net first others) found k next
      (round (networkProber mode) total timeout found first others k next net) := by
  let drawn : Network := { net with draws := net.draws.tail }
  have hdraw : (networkProber mode).draw others.length net = _ :=
    Network.draw_apply others.length net
  -- A failure of the system buries the endpoint.
  have hburied : ∀ {f : Fault} {probes : List Note} {net₁ : Network},
      (networkProber mode).probe (chosen net first others) timeout drawn =
        ⟨.fault f, probes, net₁⟩ → f.isSystem = true →
      Probed net (chosen net first others) probes net₁ →
      RoundEnds net (chosen net first others) found k next
        (round (networkProber mode) total timeout found first others k next net) := by
    intro f probes net₁ hprobe hsystem hprobed
    rw [round_of_inl _ _ (attempt_of_buried hdraw hprobe hsystem)]
    refine .buried ⟨hprobed.others, ?_, hprobed.kept⟩
    intro n hn x hx
    simp only [List.mem_append, List.mem_singleton] at hn
    rcases hn with rfl | hn | rfl
    · exact nofun
    · exact hprobed.notes n hn x hx
    · exact nofun
  cases hbegins : Network.begins mode timeout with
  | false =>
      exact hburied (probe_of_untimely hbegins _ drawn) rfl
        ⟨fun _ _ => rfl, nofun, fun _ => List.suffix_rfl⟩
  | true =>
      cases hanswer : net.answer (chosen net first others) with
      | error f =>
          have hprobe : (networkProber mode).probe (chosen net first others) timeout drawn = _ :=
            probe_of_unanswered hbegins hanswer
          by_cases hsystem : (wrapInvalidHost (chosen net first others).host f).isSystem = true
          · refine hburied hprobe hsystem ⟨fun x hx => if_neg hx, ?_,
              Network.afterAttempt_suffix drawn _⟩
            intro n hn x hx heq
            rw [List.mem_singleton.1 hn] at heq
            exact hx (Option.some.inj heq).symm
          · have hescapes := Bool.eq_false_iff.2 hsystem
            rw [round_of_fault _ _ (attempt_of_escaped hdraw hprobe hescapes)]
            exact .escaped hescapes (.of_unanswered hanswer hescapes)
      | ok link =>
          have hprobe : (networkProber mode).probe (chosen net first others) timeout drawn = _ :=
            probe_of_answered hbegins hanswer
          cases hfault : link.closingFault mode with
          | none =>
              rw [hfault] at hprobe
              rw [round_of_inr _ _ (attempt_of_reached hdraw hprobe)]
              exact .reached (.of_answered hanswer mode _ _ _ _)
          | some f =>
              have hescapes := Link.isSystem_of_closingFault hfault
              rw [hfault] at hprobe
              rw [round_of_fault _ _ (attempt_of_escaped hdraw hprobe hescapes)]
              exact .escaped hescapes (.of_answered hanswer hfault)

end Round

/-! ### The search -/

/-- The ways in which a choice among candidates ends when some have been found dead. -/
inductive SearchEnds (net : Network) (candidates dead : List Endpoint) :
    Run Network Endpoint → Prop where
  | reached {e : Endpoint} {notes : List Note} {net' : Network} (he : e ∈ candidates)
      (hnew : e ∉ dead) (h : Reached net e notes net') :
      SearchEnds net candidates dead ⟨.ok e, notes, net'⟩
  | unreached {f : Fault} {notes : List Note} {net' : Network}
      (hf : f = .noCandidates ∨ f = .noReachableReplica candidates.length) :
      SearchEnds net candidates dead ⟨.fault f, notes, net'⟩
  | escaped {f : Fault} {notes : List Note} {net' : Network} (hf : f.isSystem = false)
      (h : Brings net f) : SearchEnds net candidates dead ⟨.fault f, notes, net'⟩

/-- An endpoint that has been found dead is not chosen after. -/
theorem SearchEnds.after_probed {net net₁ : Network} {candidates dead : List Endpoint} {x : Endpoint}
    {before : List Note} {r : Run Network Endpoint} (h : SearchEnds net₁ candidates (x :: dead) r)
    (hprobed : Probed net x before net₁) : SearchEnds net candidates dead (r.prepend before) := by
  cases h with
  | @reached e notes net' he hnew hreached =>
      have hne : e ≠ x := by
        rintro rfl
        exact hnew List.mem_cons_self
      exact .reached he (fun hdead => hnew (List.mem_cons_of_mem _ hdead))
        (hreached.after_probed hprobed hne)
  | unreached hf =>
      exact .unreached hf
  | escaped hf hbrings =>
      exact .escaped hf (hbrings.of_kept hprobed.kept)

/-- How a search on the network ends. -/
theorem search_ends (mode : Mode) (candidates : List Endpoint) (timeout : Binary64) (rounds : Nat)
    (found : Findings) (net : Network) :
    SearchEnds net candidates found.dead
      (search (networkProber mode) candidates timeout rounds found net) := by
  induction rounds generalizing found net with
  | zero =>
      exact .unreached (Or.inr rfl)
  | succ rounds ih =>
      cases halive : found.alive candidates with
      | nil =>
          rw [search, halive]
          exact .unreached (Or.inr rfl)
      | cons first others =>
          obtain ⟨hcandidate, hnew⟩ :=
            Findings.get_alive halive (Network.drawn net.draws others.length)
          rw [search_succ halive]
          have hround := round_ends mode candidates.length timeout found first others Pure.pure
            (search (networkProber mode) candidates timeout rounds) net
          generalize round (networkProber mode) candidates.length timeout found first others _ _ net
            = r at hround ⊢
          cases hround with
          | reached h =>
              rw [pure_apply, Run.prepend_mk, List.append_nil]
              exact .reached hcandidate hnew h
          | buried h =>
              exact (ih (found.bury (chosen net first others)) _).after_probed h
          | escaped hf h =>
              exact .escaped hf h

/-- How a choice on the network ends. -/
theorem select_ends (mode : Mode) (candidates : List Endpoint) (timeout : Binary64)
    (net : Network) :
    SearchEnds net candidates [] (select (networkProber mode) candidates timeout net) := by
  unfold select
  split
  · exact .unreached (Or.inl rfl)
  · exact search_ends mode candidates timeout candidates.length {} net

end Selection
end ReplicaRead
