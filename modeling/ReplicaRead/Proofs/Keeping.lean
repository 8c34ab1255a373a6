import ReplicaRead.Proofs.Evaluation
import ReplicaRead.ReadLoop
import ReplicaRead.Selection

/-!
# What actions keep

An action keeps a property of states, and leaves only notes of some sort, if each of its parts
does. So a property of whole runs is proved of the parts that touch the state or leave notes, and
follows for the loops around them.

Results: `Act.Keeps`, one rule for each way in which an action is made of others, and
`ReadLoop.fill_keeps` and `Selection.search_keeps` for the two loops.
-/

namespace ReplicaRead

section Keeping

variable {σ α β : Type} {I : σ → Prop} {Q : Note → Prop}

/-- The run ends in a state with the property `I`, and all its notes are of the sort `Q`. -/
structure Run.Keeps (I : σ → Prop) (Q : Note → Prop) (r : Run σ α) : Prop where
  state : I r.state
  notes : ∀ n ∈ r.notes, Q n

theorem Run.Keeps.prepend {r : Run σ α} {notes : List Note} (h : r.Keeps I Q)
    (hnotes : ∀ n ∈ notes, Q n) : (r.prepend notes).Keeps I Q := by
  refine ⟨h.state, ?_⟩
  intro n hn
  rcases List.mem_append.1 hn with hn | hn
  · exact hnotes n hn
  · exact h.notes n hn

namespace Act

/-- From a state with the property `I` the action ends in such a state, and all its notes are of
the sort `Q`. -/
def Keeps (I : σ → Prop) (Q : Note → Prop) (p : Act σ α) : Prop :=
  ∀ s, I s → (p s).Keeps I Q

theorem Keeps.pure (a : α) : Keeps I Q (Pure.pure a : Act σ α) :=
  fun _ hs => ⟨hs, by simp⟩

theorem Keeps.raise (f : Fault) : Keeps I Q (Act.raise f : Act σ α) :=
  fun _ hs => ⟨hs, by simp⟩

theorem Keeps.unfinished : Keeps I Q (Act.unfinished : Act σ α) :=
  fun _ hs => ⟨hs, by simp [Act.unfinished]⟩

theorem Keeps.ofExcept (x : Except Fault α) : Keeps I Q (Act.ofExcept x : Act σ α) := by
  intro s hs
  rw [ofExcept_apply]
  exact ⟨hs, by simp⟩

theorem Keeps.note {n : Note} (hn : Q n) : Keeps I Q (Act.note n) :=
  fun _ hs => ⟨hs, by simpa using hn⟩

theorem Keeps.bind {p : Act σ α} {f : α → Act σ β} (hp : Keeps I Q p)
    (hf : ∀ a, Keeps I Q (f a)) : Keeps I Q (p >>= f) := by
  intro s hs
  have h := hp s hs
  cases hrun : p s with
  | mk outcome notes s' =>
      rw [hrun] at h
      cases outcome with
      | ok a =>
          rw [bind_of_ok hrun]
          exact (hf a s' h.state).prepend h.notes
      | fault e =>
          rw [bind_of_fault hrun]
          exact ⟨h.state, h.notes⟩
      | unfinished =>
          rw [bind_of_unfinished hrun]
          exact ⟨h.state, h.notes⟩

theorem Keeps.recover {p : Act σ α} {handled : Fault → Bool} {handler : Fault → Act σ α}
    (hp : Keeps I Q p) (hh : ∀ f, Keeps I Q (handler f)) :
    Keeps I Q (p.recover handled handler) := by
  intro s hs
  have h := hp s hs
  cases hrun : p s with
  | mk outcome notes s' =>
      rw [hrun] at h
      cases outcome with
      | ok a =>
          rw [recover_of_ok hrun]
          exact h
      | fault e =>
          cases he : handled e with
          | true =>
              rw [recover_of_handled hrun he]
              exact (hh e s' h.state).prepend h.notes
          | false =>
              rw [recover_of_unhandled hrun he]
              exact h
      | unfinished =>
          rw [recover_of_unfinished hrun]
          exact h

end Act

/-! ### The two loops -/

theorem ReadLoop.step_keeps {read : Nat → Act σ Bytes} (hread : ∀ n, (read n).Keeps I Q)
    (hlog : ∀ m, Q (.record ⟨.debug, .streaming, m⟩)) (loop : ReadLoop) :
    (step read loop).Keeps I Q := by
  unfold step
  refine Act.Keeps.recover ?_ ?_
  · exact (hread _).bind fun _ => Act.Keeps.ofExcept _
  · intro f
    refine (Act.Keeps.ofExcept _).bind fun loop' => ?_
    exact (Act.Keeps.note (hlog _)).bind fun _ => Act.Keeps.pure _

/-- The read loop keeps what its reads keep. -/
theorem ReadLoop.fill_keeps {read : Nat → Act σ Bytes} (hread : ∀ n, (read n).Keeps I Q)
    (hlog : ∀ m, Q (.record ⟨.debug, .streaming, m⟩)) (reads : Nat) (loop : ReadLoop) :
    (fill read reads loop).Keeps I Q := by
  induction reads generalizing loop with
  | zero =>
      unfold fill
      split
      · exact Act.Keeps.pure _
      · exact Act.Keeps.unfinished
  | succ reads ih =>
      unfold fill
      split
      · exact Act.Keeps.pure _
      · exact (step_keeps hread hlog loop).bind ih

section Selection

variable {prober : Prober σ} {timeout : Binary64}
variable (hdraw : ∀ n, (prober.draw n).Keeps I Q)
variable (hprobe : ∀ e, (prober.probe e timeout).Keeps I Q)
variable (hlog : ∀ level m, Q (.record ⟨level, .selection, m⟩))
include hdraw hprobe hlog

theorem Selection.attempt_keeps (total : Nat) (found : Findings) (e : Endpoint)
    (others : List Endpoint) :
    (attempt prober total timeout found e others).Keeps I Q := by
  unfold attempt
  refine (hdraw _).bind fun i => ?_
  refine Act.Keeps.bind ?_ ?_
  · refine Act.Keeps.recover ?_ ?_
    · exact (hprobe _).bind fun _ => Act.Keeps.pure _
    · intro f
      exact (Act.Keeps.note (hlog _ _)).bind fun _ => Act.Keeps.pure _
  · intro outcome
    cases outcome with
    | inl found =>
        exact Act.Keeps.pure _
    | inr chosen =>
        exact (Act.Keeps.note (hlog _ _)).bind fun _ => Act.Keeps.pure _

/-- The search for a replica keeps what draws and probes keep. -/
theorem Selection.search_keeps (candidates : List Endpoint) (rounds : Nat) (found : Findings) :
    (search prober candidates timeout rounds found).Keeps I Q := by
  induction rounds generalizing found with
  | zero =>
      exact Act.Keeps.raise _
  | succ rounds ih =>
      unfold search
      split
      · exact Act.Keeps.raise _
      · refine (attempt_keeps hdraw hprobe hlog _ _ _ _).bind fun outcome => ?_
        cases outcome with
        | inl found =>
            exact ih found
        | inr chosen =>
            exact Act.Keeps.pure _

end Selection

end Keeping

end ReplicaRead
