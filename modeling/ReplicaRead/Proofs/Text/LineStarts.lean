import ReplicaRead.Proofs.Text.Lines

/-!
# Where lines begin

A line begins at the first byte and behind each newline that is not the last byte. The positions at
which lines begin tell everything about the lines: how many there are, in which order, the offset of
each of them, and its text, which goes on up to the next newline.

Input: the bytes, and the offset of the first of them.

Algorithm: the positions at which lines begin are picked from all positions of the data, without
running through the lines. Induction over the lines shows that this gives the same lines.

Results: `Lines.splitLines_eq_map_starts`, `Lines.length_splitLines` and
`Lines.splitLines_exact`.
-/

namespace ReplicaRead
namespace Lines

/-! ### Positions -/

/-- A line begins at a position: there is a byte, and it is the first of all or the first behind a
newline. -/
def StartsAt (data : Bytes) (i : Nat) : Prop :=
  i < data.length ∧ (i = 0 ∨ data[i - 1]? = some newline)

instance (data : Bytes) (i : Nat) : Decidable (StartsAt data i) :=
  inferInstanceAs (Decidable (_ ∧ _))

/-- The bytes from a position up to the next newline. -/
def lineAt (data : Bytes) (i : Nat) : Bytes :=
  (data.drop i).takeWhile (· != newline)

/-- The positions at which lines begin, in order. -/
def starts (data : Bytes) : List Nat :=
  (List.range data.length).filter fun i => decide (StartsAt data i)

theorem mem_starts {data : Bytes} {i : Nat} : i ∈ starts data ↔ StartsAt data i := by
  simp only [starts, List.mem_filter, List.mem_range, decide_eq_true_eq]
  exact ⟨fun h => h.2, fun h => ⟨h.1, h⟩⟩

theorem pairwise_starts (data : Bytes) : (starts data).Pairwise (· < ·) :=
  List.pairwise_lt_range.filter _

theorem startsAt_zero (b : UInt8) (bs : Bytes) : StartsAt (b :: bs) 0 :=
  ⟨Nat.zero_lt_succ _, Or.inl rfl⟩

/-- Within a line no other begins. -/
theorem not_startsAt_of_le {line : Bytes} (h : newline ∉ line) (rest : Bytes) {i : Nat}
    (hpos : 0 < i) (hle : i ≤ line.length) : ¬ StartsAt (line ++ rest) i := by
  rintro ⟨-, hi | hi⟩
  · exact Nat.ne_of_gt hpos hi
  · rw [List.getElem?_append_left (by omega)] at hi
    exact h (List.mem_of_getElem? hi)

/-- Behind the newline of a line the others begin as they do in what follows. -/
theorem startsAt_ended_iff (line rest : Bytes) (i : Nat) :
    StartsAt (line ++ newline :: rest) (line.length + 1 + i) ↔ StartsAt rest i := by
  cases i with
  | zero =>
      simp [StartsAt]
  | succ i =>
      have hbefore : line.length + 1 + (i + 1) - 1 = line.length + (i + 1) := by omega
      simp [StartsAt, hbefore, List.getElem?_append_right]
      omega

theorem starts_last {line : Bytes} (h : newline ∉ line) :
    starts line = if line = [] then [] else [0] := by
  cases line with
  | nil =>
      rfl
  | cons b bs =>
      have hrest : ∀ i < bs.length, ¬ StartsAt (b :: bs) (i + 1) := by
        intro i hi
        have hline := not_startsAt_of_le h [] (Nat.succ_pos i) (Nat.succ_le_succ (Nat.le_of_lt hi))
        rwa [List.append_nil] at hline
      simpa [starts, List.range_succ_eq_map, List.filter_map, startsAt_zero] using hrest

theorem starts_ended {line : Bytes} (h : newline ∉ line) (rest : Bytes) :
    starts (line ++ newline :: rest) = 0 :: (starts rest).map (line.length + 1 + ·) := by
  have hlength : (line ++ newline :: rest).length = line.length + 1 + rest.length := by
    rw [List.length_append, List.length_cons]
    omega
  have hzero : StartsAt (line ++ newline :: rest) 0 := by
    refine ⟨?_, Or.inl rfl⟩
    omega
  -- The positions of the line and of its newline come first.
  have hfirst : (List.range (line.length + 1)).filter
      (fun i => decide (StartsAt (line ++ newline :: rest) i)) = [0] := by
    have hrest : ∀ i < line.length, ¬ StartsAt (line ++ newline :: rest) (i + 1) :=
      fun i hi => not_startsAt_of_le h _ (Nat.succ_pos i) hi
    simpa [List.range_succ_eq_map, List.filter_map, hzero] using hrest
  have hothers : ((List.range rest.length).map (line.length + 1 + ·)).filter
      (fun i => decide (StartsAt (line ++ newline :: rest) i)) =
        (starts rest).map (line.length + 1 + ·) := by
    simp only [List.filter_map, Function.comp_def, startsAt_ended_iff, starts]
  rw [starts, hlength, List.range_add, List.filter_append, hfirst, hothers]
  rfl

/-! ### Lines at positions -/

theorem takeWhile_line {line : Bytes} (h : newline ∉ line) (rest : Bytes) :
    (line ++ rest).takeWhile (· != newline) = line ++ rest.takeWhile (· != newline) := by
  refine List.takeWhile_append_of_pos ?_
  intro b hb
  exact bne_iff_ne.2 fun heq => h (heq ▸ hb)

theorem lineAt_last {line : Bytes} (h : newline ∉ line) : lineAt line 0 = line := by
  simpa [lineAt] using takeWhile_line h []

theorem lineAt_first {line : Bytes} (h : newline ∉ line) (rest : Bytes) :
    lineAt (line ++ newline :: rest) 0 = line := by
  simp [lineAt, takeWhile_line h]

theorem lineAt_ended (line rest : Bytes) (i : Nat) :
    lineAt (line ++ newline :: rest) (line.length + 1 + i) = lineAt rest i := by
  have hdrop : (line ++ newline :: rest).drop (line.length + 1 + i) = rest.drop i := by
    simp [List.drop_append, Nat.add_assoc, Nat.add_comm 1 i]
  rw [lineAt, hdrop, lineAt]

/-- The line that begins at a position of the data, with its offset. -/
def placedAt (data : Bytes) (start : Int) (i : Nat) : Line :=
  ⟨String.ofList (Utf8.decode (lineAt data i)), start + i⟩

theorem placedAt_ended (line rest : Bytes) (start : Int) (i : Nat) :
    placedAt (line ++ newline :: rest) start (line.length + 1 + i) =
      placedAt rest (start + line.length + 1) i := by
  rw [placedAt, placedAt, lineAt_ended]
  simp [Int.add_assoc]

/-- There is one line for each position at which a line begins, in order. -/
theorem splitLines_eq_map_starts (data : Bytes) (start : Int) :
    splitLines data start = (starts data).map (placedAt data start) := by
  rw [splitLines]
  induction data using byLines generalizing start with
  | last line h =>
      rw [byteLines_last h, starts_last h]
      split
      · rfl
      · simp [place, placedAt, lineAt_last h]
  | ended line rest h ih =>
      have hfirst : placedAt (line ++ newline :: rest) start 0 =
          ⟨String.ofList (Utf8.decode line), start⟩ := by
        simp [placedAt, lineAt_first h]
      rw [byteLines_ended h, starts_ended h, place, ih, List.map_cons, List.map_map, hfirst]
      simp only [Function.comp_def, placedAt_ended]

theorem getLast?_ended (line : Bytes) {rest : Bytes} (h : rest ≠ []) :
    (line ++ newline :: rest).getLast? = rest.getLast? := by
  simp [List.getLast?_append, List.getLast?_cons, List.getLast?_eq_some_getLast h]

/-- There are as many lines as newlines, and one more if the last line has none. -/
theorem length_splitLines (data : Bytes) (start : Int) :
    (splitLines data start).length = data.count newline +
      if data ≠ [] ∧ data.getLast? ≠ some newline then 1 else 0 := by
  rw [splitLines_eq_map_starts, List.length_map]
  induction data using byLines with
  | last line h =>
      have hlast : line.getLast? ≠ some newline := fun hl => h (List.mem_of_getLast? hl)
      rw [starts_last h, List.count_eq_zero.2 h]
      by_cases hne : line = []
      · simp [hne]
      · simp [hne, hlast]
  | ended line rest h ih =>
      rw [starts_ended h, List.length_cons, List.length_map, ih, List.count_append,
        List.count_cons_self, List.count_eq_zero.2 h]
      by_cases hne : rest = []
      · simp [hne]
      · simp [hne, getLast?_ended line hne]
        omega

/-! ### Offsets, texts and number -/

theorem map_offset_splitLines (data : Bytes) (start : Int) :
    (splitLines data start).map Line.offset = (starts data).map fun i : Nat => start + i := by
  rw [splitLines_eq_map_starts, List.map_map]
  rfl

/-- The offsets of the lines are those of the positions at which lines begin, in order and each
once. The text of a line is read from the bytes up to the next newline. There are as many lines as
newlines, and one more if there is data that does not end with a newline. -/
theorem splitLines_exact (data : Bytes) (start : Int) :
    ((splitLines data start).map Line.offset).Pairwise (· < ·) ∧
    (∀ offset, offset ∈ (splitLines data start).map Line.offset ↔
      ∃ i : Nat, StartsAt data i ∧ offset = start + i) ∧
    (∀ line ∈ splitLines data start, ∀ i : Nat, line.offset = start + i →
      line.text = String.ofList (Utf8.decode (lineAt data i))) ∧
    (splitLines data start).length = data.count newline +
      if data ≠ [] ∧ data.getLast? ≠ some newline then 1 else 0 := by
  refine ⟨?ordered, ?offsets, ?texts, length_splitLines data start⟩
  case ordered =>
      rw [map_offset_splitLines, List.pairwise_map]
      refine (pairwise_starts data).imp ?_
      intro i j hij
      omega
  case offsets =>
      intro offset
      simp only [map_offset_splitLines, List.mem_map, mem_starts, eq_comm]
  case texts =>
      intro line hline i hi
      rw [splitLines_eq_map_starts] at hline
      obtain ⟨j, -, rfl⟩ := List.mem_map.1 hline
      have hj : start + (j : Int) = start + i := hi
      have heq : j = i := by omega
      rw [heq, placedAt]

end Lines
end ReplicaRead
