import Mathlib.Data.List.Basic
import Mathlib.Data.List.TakeWhile
import ReplicaRead.Text.Blank

/-!
# What is left of a list without its ends

Members that satisfy a test are taken away at both ends of a list. What is left can be told without
saying how it is found: all that surrounds it satisfies the test, and it neither begins nor ends
with a member that does. If all members satisfy the test, nothing is left.

Results: `Text.stripEnds_eq_iff`; `Text.stripEnds_eq_nil_iff`, when nothing is left; and
`Text.IsCore.head?_eq`, where what is left begins.
-/

namespace ReplicaRead
namespace Text

section Core

variable {α : Type} {p : α → Bool}

/-- What is left of a list when all members at its ends that satisfy a test have been taken away. -/
structure IsCore (p : α → Bool) (l core : List α) : Prop where
  around : ∃ left right, l = left ++ core ++ right ∧ (∀ x ∈ left, p x = true) ∧
    ∀ x ∈ right, p x = true
  head : ∀ x ∈ core.head?, p x = false
  last : ∀ x ∈ core.getLast?, p x = false

theorem isCore_self {l : List α} (hhead : ∀ x ∈ l.head?, p x = false)
    (hlast : ∀ x ∈ l.getLast?, p x = false) : IsCore p l l :=
  ⟨⟨[], [], by simp, nofun, nofun⟩, hhead, hlast⟩

theorem dropWhile_of_head {l : List α} (h : ∀ x ∈ l.head?, p x = false) : l.dropWhile p = l := by
  cases l with
  | nil =>
      rfl
  | cons x l =>
      exact List.dropWhile_cons_of_neg (by simp [h x rfl])

theorem head_dropWhile (l : List α) : ∀ x ∈ (l.dropWhile p).head?, p x = false := by
  intro x hx
  have hnot := List.head?_dropWhile_not p l
  rwa [Option.mem_def.1 hx] at hnot

theorem dropEndWhile_of_last {l : List α} (h : ∀ x ∈ l.getLast?, p x = false) :
    dropEndWhile p l = l := by
  rw [dropEndWhile, dropWhile_of_head, List.reverse_reverse]
  rwa [List.head?_reverse]

theorem last_dropEndWhile (l : List α) : ∀ x ∈ (dropEndWhile p l).getLast?, p x = false := by
  rw [dropEndWhile, List.getLast?_reverse]
  exact head_dropWhile l.reverse

/-- What is dropped at the end does not change where a list begins, unless all of it is dropped. -/
theorem head?_of_mem_dropEndWhile {l : List α} {x : α} (h : x ∈ (dropEndWhile p l).head?) :
    x ∈ l.head? := by
  obtain ⟨right, hl, -⟩ := exists_dropEndWhile_append p l
  rw [hl]
  exact List.mem_head?_append_of_mem_head? h

theorem isCore_stripEnds (p : α → Bool) (l : List α) : IsCore p l (stripEnds p l) := by
  obtain ⟨right, hright, hall⟩ := exists_dropEndWhile_append p (l.dropWhile p)
  refine ⟨⟨l.takeWhile p, right, ?_, ?_, hall⟩, ?_, last_dropEndWhile _⟩
  · rw [stripEnds, List.append_assoc, ← hright, List.takeWhile_append_dropWhile]
  · exact fun x hx => List.mem_takeWhile_imp hx
  · exact fun x hx => head_dropWhile l x (head?_of_mem_dropEndWhile hx)

theorem IsCore.stripEnds_eq {l core : List α} (h : IsCore p l core) : stripEnds p l = core := by
  obtain ⟨left, right, rfl, hleft, hright⟩ := h.around
  rw [stripEnds, List.append_assoc, List.dropWhile_append_of_pos hleft]
  by_cases hcore : core = []
  · rw [hcore, List.nil_append, List.dropWhile_eq_nil_iff.2 hright]
    rfl
  · have hhead : ∀ x ∈ (core ++ right).head?, p x = false := by
      rw [List.head?_append_of_ne_nil core hcore]
      exact h.head
    rw [dropWhile_of_head hhead, dropEndWhile_append_of_all p core right hright,
      dropEndWhile_of_last h.last]

theorem stripEnds_eq_iff {l core : List α} : stripEnds p l = core ↔ IsCore p l core := by
  constructor
  · rintro rfl
    exact isCore_stripEnds p l
  · exact IsCore.stripEnds_eq

/-- Nothing is left exactly if all members satisfy the test. -/
theorem stripEnds_eq_nil_iff {l : List α} : stripEnds p l = [] ↔ ∀ x ∈ l, p x = true := by
  rw [stripEnds_eq_iff]
  constructor
  · rintro ⟨⟨left, right, rfl, hleft, hright⟩, -, -⟩
    intro x hx
    rw [List.append_nil, List.mem_append] at hx
    exact hx.elim (hleft x) (hright x)
  · intro h
    exact ⟨⟨l, [], by simp, h, nofun⟩, nofun, nofun⟩

/-- What is left begins with the first member that does not satisfy the test. -/
theorem IsCore.head?_eq {left right core : List α} {x : α}
    (h : IsCore p (left ++ x :: right) core) (hleft : ∀ y ∈ left, p y = true) (hx : p x = false) :
    core.head? = some x := by
  have hhead : ∀ y ∈ (x :: right).head?, p y = false := by
    intro y hy
    cases hy
    exact hx
  rw [← h.stripEnds_eq, stripEnds, List.dropWhile_append_of_pos hleft, dropWhile_of_head hhead]
  obtain ⟨rest, hrest, hall⟩ := exists_dropEndWhile_append p (x :: right)
  cases hkept : dropEndWhile p (x :: right) with
  | nil =>
      rw [hkept, List.nil_append] at hrest
      have hdropped := hall x (hrest ▸ List.mem_cons_self)
      rw [hx] at hdropped
      cases hdropped
  | cons y kept =>
      rw [hkept, List.cons_append] at hrest
      rw [(List.cons.inj hrest).1]
      rfl

end Core

end Text
end ReplicaRead
