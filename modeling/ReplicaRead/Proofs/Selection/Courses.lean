import ReplicaRead.Note
import ReplicaRead.Act

/-!
# The courses of a choice

A choice among candidates, each of which can be reached or not, may probe them in many orders,
depending on the draws. Here the orders that are possible are described without reference to draws,
to the number of rounds or to candidates that occur more than once.

Results: `Course`, the ways in which a choice can go on after some endpoints were found dead;
`exists_course_iff`, by which the courses of a whole choice are the admissible orders; and
`Law.of_courses`, what follows for runs that take all courses and no others.
-/

namespace ReplicaRead
namespace Selection

/-! ### Courses -/

/-- The ways in which a choice can go on after the endpoints `dead` were found dead: which endpoints
are probed, and what comes of it. An endpoint without an assigned fault can be reached. -/
inductive Course (outcome : Endpoint → Option Fault) (candidates : List Endpoint) :
    List Endpoint → List Endpoint → Outcome Endpoint → Prop where
  /-- No candidate is left. -/
  | exhausted {dead : List Endpoint} (hall : ∀ e ∈ candidates, e ∈ dead) :
      Course outcome candidates dead [] (.fault (.noReachableReplica candidates.length))
  /-- A candidate is reached. -/
  | reached {dead : List Endpoint} {e : Endpoint} (he : e ∈ candidates) (hnew : e ∉ dead)
      (hreach : outcome e = none) :
      Course outcome candidates dead [e] (.ok e)
  /-- A candidate is found dead. -/
  | buried {dead t : List Endpoint} {e : Endpoint} {f : Fault} {o : Outcome Endpoint}
      (he : e ∈ candidates) (hnew : e ∉ dead) (hdead : outcome e = some f)
      (hrest : Course outcome candidates (e :: dead) t o) :
      Course outcome candidates dead (e :: t) o

section Courses

variable {outcome : Endpoint → Option Fault} {candidates : List Endpoint}

/-- The probes of a course never repeat an endpoint, and are of candidates not yet found dead. -/
theorem Course.fresh {dead t : List Endpoint} {o : Outcome Endpoint}
    (h : Course outcome candidates dead t o) :
    t.Nodup ∧ ∀ e ∈ t, e ∈ candidates ∧ e ∉ dead := by
  induction h with
  | exhausted =>
      exact ⟨List.nodup_nil, by simp⟩
  | reached he hnew =>
      refine ⟨by simp, ?_⟩
      intro x hx
      rw [List.mem_singleton] at hx
      subst hx
      exact ⟨he, hnew⟩
  | @buried dead t e f o he hnew hdead hrest ih =>
      obtain ⟨hnodup, hmem⟩ := ih
      constructor
      · rw [List.nodup_cons]
        exact ⟨fun hin => (hmem e hin).2 List.mem_cons_self, hnodup⟩
      · intro x hx
        rcases List.mem_cons.1 hx with rfl | hx
        · exact ⟨he, hnew⟩
        · exact ⟨(hmem x hx).1, fun hin => (hmem x hx).2 (List.mem_cons_of_mem _ hin)⟩

/-- A course reaches its last endpoint and no other, or it reaches none and leaves none. -/
theorem Course.ending {dead t : List Endpoint} {o : Outcome Endpoint}
    (h : Course outcome candidates dead t o) :
    (∃ front e, t = front ++ [e] ∧ (∀ x ∈ front, (outcome x).isSome) ∧ outcome e = none ∧
      o = .ok e) ∨
    ((∀ x ∈ t, (outcome x).isSome) ∧ (∀ x ∈ candidates, x ∈ dead ∨ x ∈ t) ∧
      o = .fault (.noReachableReplica candidates.length)) := by
  induction h with
  | exhausted hall =>
      exact Or.inr ⟨by simp, fun x hx => Or.inl (hall x hx), rfl⟩
  | @reached dead e he hnew hreach =>
      exact Or.inl ⟨[], e, rfl, by simp, hreach, rfl⟩
  | @buried dead t e f o he hnew hdead hrest ih =>
      have hsome : (outcome e).isSome := Option.isSome_of_eq_some hdead
      rcases ih with ⟨front, last, rfl, hfront, hlast, ho⟩ | ⟨hfront, hall, ho⟩
      · refine Or.inl ⟨e :: front, last, rfl, ?_, hlast, ho⟩
        intro x hx
        rcases List.mem_cons.1 hx with rfl | hx
        · exact hsome
        · exact hfront x hx
      · refine Or.inr ⟨?_, ?_, ho⟩
        · intro x hx
          rcases List.mem_cons.1 hx with rfl | hx
          · exact hsome
          · exact hfront x hx
        · intro x hx
          rcases hall x hx with hin | hin
          · rcases List.mem_cons.1 hin with rfl | hin
            · exact Or.inr List.mem_cons_self
            · exact Or.inl hin
          · exact Or.inr (List.mem_cons_of_mem _ hin)

/-- Endpoints that are unreachable, new and different from each other start a course. -/
theorem Course.of_front {front dead t : List Endpoint} {o : Outcome Endpoint}
    (hnodup : front.Nodup) (hnew : ∀ e ∈ front, e ∈ candidates ∧ e ∉ dead)
    (hdead : ∀ e ∈ front, (outcome e).isSome)
    (h : Course outcome candidates (front.reverse ++ dead) t o) :
    Course outcome candidates dead (front ++ t) o := by
  induction front generalizing dead with
  | nil =>
      exact h
  | cons e front ih =>
      rw [List.nodup_cons] at hnodup
      obtain ⟨f, hf⟩ := Option.isSome_iff_exists.1 (hdead e List.mem_cons_self)
      obtain ⟨he, hdead'⟩ := hnew e List.mem_cons_self
      refine .buried he hdead' hf (ih hnodup.2 ?_ ?_ ?_)
      · intro x hx
        obtain ⟨hcandidate, hfresh⟩ := hnew x (List.mem_cons_of_mem _ hx)
        refine ⟨hcandidate, ?_⟩
        intro hin
        rcases List.mem_cons.1 hin with rfl | hin
        · exact hnodup.1 hx
        · exact hfresh hin
      · intro x hx
        exact hdead x (List.mem_cons_of_mem _ hx)
      · rw [List.reverse_cons, List.append_assoc] at h
        exact h

/-- The lists of endpoints that may be the order of the probes of one choice. -/
def Admissible (outcome : Endpoint → Option Fault) (candidates t : List Endpoint) : Prop :=
  ∃ front last, t = front ++ [last] ∧ t.Nodup ∧ t ⊆ candidates ∧
    (∀ e ∈ front, (outcome e).isSome) ∧
    (outcome last = none ∨ ((outcome last).isSome ∧ candidates ⊆ t))

/-- The admissible orders are those of the courses of a whole choice. -/
theorem exists_course_iff (hne : candidates ≠ []) (t : List Endpoint) :
    (∃ o, Course outcome candidates [] t o) ↔ Admissible outcome candidates t := by
  constructor
  · rintro ⟨o, h⟩
    obtain ⟨hnodup, hmem⟩ := h.fresh
    have hsubset : t ⊆ candidates := fun e he => (hmem e he).1
    rcases h.ending with ⟨front, e, rfl, hfront, hreach, -⟩ | ⟨hdead, hall, -⟩
    · exact ⟨front, e, rfl, hnodup, hsubset, hfront, Or.inl hreach⟩
    · have hcovered : candidates ⊆ t := fun e he => (hall e he).resolve_left List.not_mem_nil
      have ht : t ≠ [] := by
        rintro rfl
        exact hne (List.eq_nil_of_subset_nil hcovered)
      have hsplit := List.dropLast_concat_getLast ht
      refine ⟨t.dropLast, t.getLast ht, hsplit.symm, hnodup, hsubset, ?_, ?_⟩
      · intro e he
        exact hdead e ((List.dropLast_sublist t).subset he)
      · exact Or.inr ⟨hdead _ (List.getLast_mem ht), hcovered⟩
  · rintro ⟨front, last, rfl, hnodup, hsubset, hfront, hlast⟩
    have hnew : ∀ e ∈ front ++ [last], e ∈ candidates ∧ e ∉ ([] : List Endpoint) :=
      fun e he => ⟨hsubset he, List.not_mem_nil⟩
    obtain ⟨hnodup', -, hapart⟩ := List.nodup_append.1 hnodup
    rcases hlast with hreach | ⟨hdead, hcovered⟩
    · refine ⟨.ok last, Course.of_front hnodup' ?_ hfront ?_⟩
      · intro e he
        exact hnew e (List.mem_append_left _ he)
      · refine .reached (hsubset (List.mem_append_right _ List.mem_cons_self)) ?_ hreach
        intro hin
        rw [List.append_nil, List.mem_reverse] at hin
        exact hapart last hin last List.mem_cons_self rfl
    · refine ⟨.fault (.noReachableReplica candidates.length), ?_⟩
      have hcourse : Course outcome candidates [] ((front ++ [last]) ++ [])
          (.fault (.noReachableReplica candidates.length)) := by
        refine Course.of_front hnodup hnew ?_ (.exhausted ?_)
        · intro e he
          rcases List.mem_append.1 he with he | he
          · exact hfront e he
          · rw [List.mem_singleton] at he
            subst he
            exact hdead
        · intro e he
          rw [List.append_nil, List.mem_reverse]
          exact hcovered he
      rw [List.append_nil] at hcourse
      exact hcourse

end Courses

/-! ### Laws of a choice -/

/-- What holds of a choice whose probes end as assigned, as the draws vary. -/
structure Law {σ : Type} (outcome : Endpoint → Option Fault) (candidates : List Endpoint)
    (probed? : Note → Option Endpoint) (run : List Int → Run σ Endpoint) : Prop where
  /-- The orders of probes that some draws lead to. -/
  orders : ∀ t, (∃ draws, (run draws).notes.filterMap probed? = t) ↔
    Admissible outcome candidates t
  /-- The last endpoint is chosen if it can be reached. -/
  chosen : ∀ draws front last, (run draws).notes.filterMap probed? = front ++ [last] →
    outcome last = none → (run draws).outcome = .ok last
  /-- The choice fails if the last endpoint cannot be reached. -/
  failed : ∀ draws front last, (run draws).notes.filterMap probed? = front ++ [last] →
    (outcome last).isSome →
    (run draws).outcome = .fault (.noReachableReplica candidates.length)
  /-- The choice succeeds exactly if some candidate can be reached. -/
  succeeds : ∀ draws, (∃ e, (run draws).outcome = .ok e) ↔ ∃ e ∈ candidates, outcome e = none
  /-- Only an endpoint whose probe reached it is chosen. -/
  sound : ∀ draws e, (run draws).outcome = .ok e → outcome e = none
  /-- No endpoint is probed twice. -/
  once : ∀ draws e, ((run draws).notes.filterMap probed?).count e ≤ 1
  /-- If no candidate can be reached, each is probed once. -/
  complete : (∀ e ∈ candidates, (outcome e).isSome) → ∀ draws, ∀ e ∈ candidates,
    ((run draws).notes.filterMap probed?).count e = 1

/-- The laws hold of runs that follow all courses and no others. -/
theorem Law.of_courses {σ : Type} {outcome : Endpoint → Option Fault} {candidates : List Endpoint}
    {probed? : Note → Option Endpoint} {run : List Int → Run σ Endpoint} (hne : candidates ≠ [])
    (hcourse : ∀ draws, Course outcome candidates [] ((run draws).notes.filterMap probed?)
      (run draws).outcome)
    (hdraws : ∀ t o, Course outcome candidates [] t o →
      ∃ draws, (run draws).notes.filterMap probed? = t) :
    Law outcome candidates probed? run := by
  refine ⟨?orders, ?chosen, ?failed, ?succeeds, ?sound, ?once, ?complete⟩
  case orders =>
      intro t
      rw [← exists_course_iff hne]
      constructor
      · rintro ⟨draws, rfl⟩
        exact ⟨_, hcourse draws⟩
      · rintro ⟨o, h⟩
        exact hdraws t o h
  case chosen =>
      intro draws front last ht hreach
      rcases (hcourse draws).ending with ⟨front', e, ht', -, -, ho⟩ | ⟨hdead, -, -⟩
      · rw [ht'] at ht
        obtain ⟨-, he⟩ := List.append_inj' ht rfl
        cases he
        exact ho
      · have hsome := hdead last (by rw [ht]; simp)
        rw [hreach] at hsome
        cases hsome
  case failed =>
      intro draws front last ht hdead
      rcases (hcourse draws).ending with ⟨front', e, ht', -, hreach, -⟩ | ⟨-, -, ho⟩
      · rw [ht'] at ht
        obtain ⟨-, he⟩ := List.append_inj' ht rfl
        cases he
        rw [hreach] at hdead
        cases hdead
      · exact ho
  case succeeds =>
      intro draws
      obtain ⟨-, hmem⟩ := (hcourse draws).fresh
      rcases (hcourse draws).ending with ⟨front, e, ht, -, hreach, ho⟩ | ⟨hdead, hall, ho⟩
      · refine ⟨fun _ => ⟨e, (hmem e (by rw [ht]; simp)).1, hreach⟩, fun _ => ⟨e, ho⟩⟩
      · constructor
        · rintro ⟨e, he⟩
          rw [ho] at he
          cases he
        · rintro ⟨e, he, hreach⟩
          have hsome := hdead e ((hall e he).resolve_left List.not_mem_nil)
          rw [hreach] at hsome
          cases hsome
  case sound =>
      intro draws e he
      rcases (hcourse draws).ending with ⟨front, last, -, -, hreach, ho⟩ | ⟨-, -, ho⟩
      · rw [ho] at he
        cases he
        exact hreach
      · rw [ho] at he
        cases he
  case once =>
      intro draws e
      exact List.nodup_iff_count.1 (hcourse draws).fresh.1 e
  case complete =>
      intro hdead draws e he
      obtain ⟨hnodup, hmem⟩ := (hcourse draws).fresh
      rw [hnodup.count, if_pos]
      rcases (hcourse draws).ending with ⟨front, last, ht, -, hreach, -⟩ | ⟨-, hall, -⟩
      · have hsome := hdead last (hmem last (by rw [ht]; simp)).1
        rw [hreach] at hsome
        cases hsome
      · exact (hall e he).resolve_left List.not_mem_nil

end Selection
end ReplicaRead
