import ReplicaRead.Proofs.Text.LineStarts

/-!
# Lines of data in two parts

Data is shown in parts, and each part is split into lines by itself. The lines of the parts are the
lines of all the data exactly if a line ends where the first part ends, or if one of the parts is
empty. Otherwise the line that goes over the end of the first part is counted on both sides, so that
the parts have one line more than the data.

Input: two parts, and the offset of the first byte of the first of them.

Algorithm: induction over the lines of the first part, when it ends with a newline; else the lines
are counted.

Results: `Lines.splitLines_append_of_newline`, `Lines.length_splitLines_of_cut`,
`Lines.splitLines_eq_shift` and `Lines.splitLines_parts`.
-/

namespace ReplicaRead

/-- The line with an amount added to its offset. -/
def Line.shift (amount : Int) (line : Line) : Line :=
  { line with offset := line.offset + amount }

namespace Lines

/-! ### Another start -/

theorem map_shift_place (amount start : Int) (lines : List Bytes) :
    (place start lines).map (Line.shift amount) = place (start + amount) lines := by
  induction lines generalizing start with
  | nil =>
      rfl
  | cons line lines ih =>
      have hnext : start + line.length + 1 + amount = start + amount + line.length + 1 := by omega
      rw [place, List.map_cons, ih, hnext, place]
      rfl

/-- Another start moves all lines by the same amount. -/
theorem splitLines_eq_shift (data : Bytes) (start : Int) :
    splitLines data start = (splitLines data 0).map (Line.shift start) := by
  rw [splitLines, splitLines, map_shift_place, Int.zero_add]

/-! ### Two parts -/

@[simp] theorem splitLines_nil (start : Int) : splitLines [] start = [] :=
  rfl

theorem splitLines_ended {line : Bytes} (h : newline ∉ line) (rest : Bytes) (start : Int) :
    splitLines (line ++ newline :: rest) start =
      ⟨String.ofList (Utf8.decode line), start⟩ :: splitLines rest (start + line.length + 1) := by
  rw [splitLines, byteLines_ended h, place, splitLines]

/-- Behind a newline the lines of the second part follow those of the first. -/
theorem splitLines_append_of_newline {front : Bytes} (h : front.getLast? = some newline)
    (back : Bytes) (start : Int) :
    splitLines (front ++ back) start =
      splitLines front start ++ splitLines back (start + front.length) := by
  induction front using byLines generalizing start with
  | last line hline =>
      exact absurd (List.mem_of_getLast? h) hline
  | ended line rest hline ih =>
      have hlength : start + ((line ++ newline :: rest).length : Nat) =
          start + line.length + 1 + rest.length := by
        rw [List.length_append, List.length_cons]
        omega
      rw [List.append_assoc, List.cons_append, splitLines_ended hline, splitLines_ended hline,
        List.cons_append, hlength]
      by_cases hrest : rest = []
      · simp [hrest]
      · rw [getLast?_ended line hrest] at h
        rw [ih h]

/-- Where no newline ends the first part, a line is counted in both parts. -/
theorem length_splitLines_of_cut {front back : Bytes} (hfront : front ≠ [])
    (hcut : front.getLast? ≠ some newline) (hback : back ≠ []) (start start' : Int) :
    (splitLines front start ++ splitLines back start').length =
      (splitLines (front ++ back) start).length + 1 := by
  have hlast : (front ++ back).getLast? = back.getLast? := by
    rw [List.getLast?_append, List.getLast?_eq_some_getLast hback, Option.some_or]
  rw [List.length_append, length_splitLines, length_splitLines, length_splitLines,
    if_pos ⟨hfront, hcut⟩, hlast, List.count_append]
  simp only [ne_eq, List.append_eq_nil_iff, hfront, hback, false_and, not_false_eq_true, true_and]
  omega

/-- The lines of two parts are the lines of all the data exactly if one of the parts is empty or the
first part ends with a newline. And the lines from any start are those from zero, with the start
added to each offset. -/
theorem splitLines_parts (start : Int) :
    (∀ front back : Bytes,
      splitLines front start ++ splitLines back (start + front.length) =
          splitLines (front ++ back) start ↔
        front = [] ∨ back = [] ∨ front.getLast? = some newline) ∧
    ∀ data : Bytes, splitLines data start = (splitLines data 0).map (Line.shift start) := by
  refine ⟨?_, fun data => splitLines_eq_shift data start⟩
  intro front back
  constructor
  · intro h
    refine Classical.byContradiction fun hcut => ?_
    rw [not_or, not_or] at hcut
    obtain ⟨hfront, hback, hlast⟩ := hcut
    have hlength := length_splitLines_of_cut hfront hlast hback start (start + front.length)
    rw [h] at hlength
    omega
  · rintro (rfl | rfl | hlast)
    · simp
    · simp
    · exact (splitLines_append_of_newline hlast back start).symm

end Lines
end ReplicaRead
