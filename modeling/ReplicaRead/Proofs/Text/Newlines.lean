import ReplicaRead.Proofs.Text.Lines

/-!
# Newlines in what is read

Bytes are read as characters, whether they are well-formed or not. A newline byte is read as a
newline, also when it cuts off a character of which some bytes have come before: that becomes a
replacement character, and the newline stays. No other byte is read as a newline: a character that
has been started can only become one above 127, since overlong forms are ruled out.

So it does not matter whether data is split into lines first and then read, or read first and then
split.

Results: `Utf8.decode_append_newline`, `Utf8.newline_not_mem_decode` and
`Lines.texts_splitLines`.
-/

namespace ReplicaRead
namespace Utf8

open Lines (newline)

/-! ### A newline between bytes -/

/-- A newline ends a started character, and is read as itself. -/
theorem step_newline (p : Option Started) :
    (step p newline).1 = decodeFrom p [] ++ ['\n'] ∧ (step p newline).2 = none := by
  cases p with
  | none | some p =>
      exact ⟨rfl, rfl⟩

/-- A newline is read as itself, also behind a character that has been started. -/
theorem decodeFrom_append_newline (p : Option Started) (as bs : Bytes) :
    decodeFrom p (as ++ newline :: bs) = decodeFrom p as ++ '\n' :: decode bs := by
  induction as generalizing p with
  | nil =>
      obtain ⟨hchars, hstarted⟩ := step_newline p
      rw [List.nil_append, decodeFrom_cons, hchars, hstarted, List.append_assoc]
      rfl
  | cons a as ih =>
      rw [List.cons_append, decodeFrom_cons, ih, decodeFrom_cons, List.append_assoc]

theorem decode_append_newline (as bs : Bytes) :
    decode (as ++ newline :: bs) = decode as ++ '\n' :: decode bs :=
  decodeFrom_append_newline none as bs

/-! ### Bytes without a newline -/

theorem ofNat_ne_newline {n : Nat} (h : n ≠ 10) : Char.ofNat n ≠ '\n' := by
  intro heq
  by_cases hvalid : n.isValidChar
  · have hnat : (Char.ofNat n).toNat = n := by
      rw [Char.ofNat, dif_pos hvalid]
      rfl
    rw [heq] at hnat
    exact h hnat.symm
  · rw [Char.ofNat, dif_neg hvalid] at heq
    cases heq

/-- All characters that a started one can become are above 127. -/
def Started.IsLong (p : Started) : Prop :=
  0x80 ≤ (p.code * 64 + p.least) * Nat.pow 64 p.owed

/-- What a first byte does: it is a character, or it is replaced, or it starts a long character. -/
theorem first_cases (b : UInt8) :
    first b = ([Char.ofNat b.toNat], none) ∨ first b = ([replacement], none) ∨
      ∃ p : Started, p.IsLong ∧ first b = ([], some p) := by
  simp only [first]
  generalize b.toNat = n
  split
  · exact Or.inl rfl
  split
  · exact Or.inr (Or.inl rfl)
  split
  · refine Or.inr (Or.inr ⟨_, ?_, rfl⟩)
    show 0x80 ≤ ((n - 0xC0) * 64 + 0) * 1
    omega
  split
  · refine Or.inr (Or.inr ⟨_, ?_, rfl⟩)
    show 0x80 ≤ ((n - 0xE0) * 64 + if n = 0xE0 then 0x20 else 0) * 64
    split <;> omega
  split
  · refine Or.inr (Or.inr ⟨_, ?_, rfl⟩)
    show 0x80 ≤ ((n - 0xF0) * 64 + if n = 0xF0 then 0x10 else 0) * 4096
    split <;> omega
  · exact Or.inr (Or.inl rfl)

/-- A first byte starts only long characters, and finishes no newline but itself. -/
theorem first_spec {b : UInt8} (hb : b ≠ newline) :
    '\n' ∉ (first b).1 ∧ ∀ p, (first b).2 = some p → p.IsLong := by
  rcases first_cases b with hfirst | hfirst | ⟨p, hp, hfirst⟩
  · have hnewline : b.toNat ≠ 10 := fun h => hb (UInt8.toNat_inj.1 h)
    rw [hfirst]
    exact ⟨by simpa using (ofNat_ne_newline hnewline).symm, nofun⟩
  · rw [hfirst]
    exact ⟨by decide, nofun⟩
  · rw [hfirst]
    exact ⟨nofun, fun q hq => Option.some.inj hq ▸ hp⟩

/-- A long character stays long as it is continued, and is no newline when it is finished. -/
theorem Started.IsLong.continue {p : Started} (hp : p.IsLong) {bits : Nat}
    (hbits : p.least ≤ bits) :
    '\n' ∉ (p.continue bits).1 ∧ ∀ q, (p.continue bits).2 = some q → q.IsLong := by
  obtain ⟨code, least, most, owed⟩ := p
  have hcode : code * 64 + least ≤ code * 64 + bits := Nat.add_le_add_left hbits _
  cases owed with
  | zero =>
      have hlong : 0x80 ≤ (code * 64 + least) * 1 := hp
      have hne : code * 64 + bits ≠ 10 := by omega
      exact ⟨by simpa [Started.continue] using (ofNat_ne_newline hne).symm, nofun⟩
  | succ owed =>
      refine ⟨nofun, ?_⟩
      intro q hq
      obtain rfl := Option.some.inj hq
      have hpow : Nat.pow 64 (owed + 1) = 64 * Nat.pow 64 owed := Nat.pow_succ'
      calc 0x80 ≤ (code * 64 + least) * Nat.pow 64 (owed + 1) := hp
        _ ≤ (code * 64 + bits) * Nat.pow 64 (owed + 1) := Nat.mul_le_mul_right _ hcode
        _ = ((code * 64 + bits) * 64 + 0) * Nat.pow 64 owed := by
          rw [hpow, Nat.add_zero, Nat.mul_assoc]

/-- So no byte but a newline finishes one. -/
theorem step_spec {p : Option Started} (hp : ∀ q, p = some q → q.IsLong) {b : UInt8}
    (hb : b ≠ newline) :
    '\n' ∉ (step p b).1 ∧ ∀ q, (step p b).2 = some q → q.IsLong := by
  obtain ⟨hchars, hstarted⟩ := first_spec hb
  -- A byte that does not continue the started character is read as a first one.
  have hcut : '\n' ∉ replacement :: (first b).1 := by
    rw [List.mem_cons, not_or]
    exact ⟨by decide, hchars⟩
  cases p with
  | none =>
      exact ⟨hchars, hstarted⟩
  | some p =>
      rw [step]
      split
      · split
        case isTrue hbits =>
            exact (hp p rfl).continue hbits.1
        case isFalse =>
            exact ⟨hcut, hstarted⟩
      · exact ⟨hcut, hstarted⟩

theorem newline_not_mem_decodeFrom {p : Option Started} (hp : ∀ q, p = some q → q.IsLong)
    {bs : Bytes} (h : newline ∉ bs) : '\n' ∉ decodeFrom p bs := by
  induction bs generalizing p with
  | nil =>
      cases p with
      | none =>
          exact nofun
      | some p =>
          exact (by decide : '\n' ∉ [replacement])
  | cons b bs ih =>
      rw [List.mem_cons, not_or] at h
      obtain ⟨hchars, hstarted⟩ := step_spec hp (Ne.symm h.1)
      rw [decodeFrom_cons, List.mem_append, not_or]
      exact ⟨hchars, ih hstarted h.2⟩

/-- A newline is read only where there is one. -/
theorem newline_not_mem_decode {bs : Bytes} (h : newline ∉ bs) : '\n' ∉ decode bs :=
  newline_not_mem_decodeFrom (p := none) nofun h

/-! ### Reading nothing -/

/-- A byte finishes a character or leaves one started. -/
theorem step_leaves (p : Option Started) (b : UInt8) :
    (step p b).1 ≠ [] ∨ (step p b).2 ≠ none := by
  cases p with
  | none =>
      show (first b).1 ≠ [] ∨ (first b).2 ≠ none
      rcases first_cases b with hfirst | hfirst | ⟨p, hp, hfirst⟩ <;> simp [hfirst]
  | some p =>
      rw [step]
      split
      · split
        · rw [Started.continue]
          split <;> simp
        · simp
      · simp

theorem decodeFrom_some_ne_nil (p : Started) (bs : Bytes) : decodeFrom (some p) bs ≠ [] := by
  induction bs generalizing p with
  | nil =>
      exact List.cons_ne_nil _ _
  | cons b bs ih =>
      rw [decodeFrom_cons]
      rcases step_leaves (some p) b with hchars | hstarted
      · exact List.append_ne_nil_of_left_ne_nil hchars _
      · obtain ⟨q, hq⟩ := Option.ne_none_iff_exists'.1 hstarted
        rw [hq]
        exact List.append_ne_nil_of_right_ne_nil _ (ih q)

/-- Only nothing is read as nothing. -/
theorem decode_eq_nil_iff {bs : Bytes} : decode bs = [] ↔ bs = [] := by
  cases bs with
  | nil =>
      exact ⟨fun _ => rfl, fun _ => rfl⟩
  | cons b bs =>
      refine ⟨fun h => ?_, nofun⟩
      rw [decode, decodeFrom_cons, List.append_eq_nil_iff] at h
      rcases step_leaves none b with hchars | hstarted
      · exact absurd h.1 hchars
      · obtain ⟨p, hp⟩ := Option.ne_none_iff_exists'.1 hstarted
        rw [hp] at h
        exact absurd h.2 (decodeFrom_some_ne_nil p bs)

end Utf8

namespace Lines

/-! ### Pieces of a text -/

/-- The pieces of a text between its newlines. An empty piece behind the last newline is none. -/
def pieces (text : String) : List String :=
  let pieces := text.toList.splitOn '\n'
  (if pieces.getLast? = some [] then pieces.dropLast else pieces).map String.ofList

theorem pieces_last {cs : List Char} (h : '\n' ∉ cs) :
    pieces (String.ofList cs) = if cs = [] then [] else [String.ofList cs] := by
  rw [pieces, String.toList_ofList, List.splitOn_eq_singleton h]
  by_cases hne : cs = []
  · simp [hne]
  · simp [hne]

theorem pieces_ended {cs : List Char} (h : '\n' ∉ cs) (ds : List Char) :
    pieces (String.ofList (cs ++ '\n' :: ds)) = String.ofList cs :: pieces (String.ofList ds) := by
  have hsplit : (cs ++ '\n' :: ds).splitOn '\n' = cs :: ds.splitOn '\n' := by
    rw [List.splitOn_append_cons_self, List.splitOn_eq_singleton h, List.singleton_append]
  have hne : ds.splitOn '\n' ≠ [] := List.splitOn_ne_nil _ _
  rw [pieces, pieces, String.toList_ofList, String.toList_ofList, hsplit]
  simp only [List.getLast?_cons_of_ne_nil hne, List.dropLast_cons_of_ne_nil hne]
  split <;> rfl

/-- The texts of the lines are the pieces of the text as which all the data is read. -/
theorem texts_splitLines (data : Bytes) (start : Int) :
    (splitLines data start).map Line.text = pieces (String.ofList (Utf8.decode data)) := by
  rw [splitLines, map_text_place]
  induction data using byLines with
  | last line h =>
      rw [byteLines_last h, pieces_last (Utf8.newline_not_mem_decode h)]
      simp only [Utf8.decode_eq_nil_iff]
      split <;> rfl
  | ended line rest h ih =>
      rw [byteLines_ended h, Utf8.decode_append_newline,
        pieces_ended (Utf8.newline_not_mem_decode h), List.map_cons, ih]

end Lines
end ReplicaRead
