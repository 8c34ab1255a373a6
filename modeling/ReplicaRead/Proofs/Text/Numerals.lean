import Mathlib.Data.Nat.Digits.Defs
import ReplicaRead.Proofs.Text.Stripping
import ReplicaRead.Text.Numeral

/-!
# Numerals that are made of digits

A text of digits alone has no sign, no underscore and no margin, so that it is a numeral exactly if
every digit has a place value. Its value is that of the digits in base ten. A number that is written
in decimal is such a numeral, and is read as itself.

Results: `Text.isBlank_of_isDigit`, `Text.integer?_eq_some_iff` and `Text.ofDigits_decimalDigits`.
-/

namespace ReplicaRead
namespace Text

/-! ### Digits among the characters -/

/-- Where digits of any kind are found. -/
theorem code_of_isDigit {c : Char} (h : isDigit c = true) :
    0x30 ≤ c.toNat ∧ c.toNat ≤ 0x39 ∨ 0xB2 ≤ c.toNat ∧ c.toNat ≤ 0x1371 ∨
      0x17E0 ≤ c.toNat ∧ c.toNat ≤ 0x1C59 ∨ 0x2070 ≤ c.toNat ∧ c.toNat ≤ 0x2792 ∨
      0xA620 ≤ c.toNat := by
  rw [isDigit, Bool.or_eq_true] at h
  rcases h with hplace | hplaceless
  · have hzeros : ∀ z ∈ digitZeros, z = 0x30 ∨ 0xB2 ≤ z ∧ z + 9 ≤ 0x1371 ∨
        0x17E0 ≤ z ∧ z + 9 ≤ 0x1C59 ∨ 0xA620 ≤ z := by
      decide
    obtain ⟨d, hd⟩ := Option.isSome_iff_exists.1 hplace
    obtain ⟨z, hz, -⟩ := Option.map_eq_some_iff.1 hd
    have hrange := List.find?_some hz
    have hzero := hzeros z (List.mem_of_find?_eq_some hz)
    simp only [Bool.and_eq_true, decide_eq_true_eq] at hrange
    omega
  · have hruns : ∀ run ∈ placelessDigits, 0xB2 ≤ run.1 ∧ run.2 ≤ 0x1371 ∨
        0x17E0 ≤ run.1 ∧ run.2 ≤ 0x1C59 ∨ 0x2070 ≤ run.1 ∧ run.2 ≤ 0x2792 ∨
        0xA620 ≤ run.1 := by
      decide
    obtain ⟨run, hmem, hrange⟩ := List.any_eq_true.1 hplaceless
    have hrun := hruns run hmem
    simp only [Bool.and_eq_true, decide_eq_true_eq] at hrange
    omega

theorem isBlank_of_isDigit {c : Char} (h : isDigit c = true) : isBlank c = false := by
  have hcode := code_of_isDigit h
  simp only [isBlank, Bool.or_eq_false_iff, Bool.and_eq_false_iff, decide_eq_false_iff_not,
    beq_eq_false_iff_ne]
  omega

theorem not_mem_of_digits {cs : List Char} (h : ∀ c ∈ cs, isDigit c = true) {x : Char}
    (hx : isDigit x = false) : x ∉ cs := by
  intro hmem
  have hdigit := h x hmem
  rw [hx] at hdigit
  cases hdigit

theorem isDigit_of_digitValue? {c : Char} {d : Nat} (h : digitValue? c = some d) :
    isDigit c = true := by
  rw [isDigit, h]
  rfl

theorem isDigit_of_values {cs : List Char} {ds : List Nat} (h : cs.map digitValue? = ds.map some)
    {c : Char} (hc : c ∈ cs) : isDigit c = true := by
  have hvalue : digitValue? c ∈ ds.map some := by
    rw [← h]
    exact List.mem_map_of_mem hc
  obtain ⟨d, -, hd⟩ := List.mem_map.1 hvalue
  exact isDigit_of_digitValue? hd.symm

/-! ### Values -/

theorem ofDigits_eq (ds : List Nat) : ofDigits ds = Nat.ofDigits 10 ds.reverse := by
  rw [Nat.ofDigits_eq_foldr, List.foldr_reverse, ofDigits]
  congr 1
  funext n d
  rw [Nat.cast_id, Nat.add_comm]

/-- Without underscores, the digits of a numeral are the values of its characters. -/
theorem numeralDigits?_eq_some_iff {cs : List Char} (h : '_' ∉ cs) {ds : List Nat} :
    numeralDigits? cs = some ds ↔ cs ≠ [] ∧ cs.map digitValue? = ds.map some := by
  induction cs using numeralDigits?.induct generalizing ds with
  | case1 =>
      simp [numeralDigits?]
  | case2 c =>
      cases ds with
      | nil =>
          simp [numeralDigits?]
      | cons d ds =>
          cases ds <;> simp [numeralDigits?]
  | case3 c rest =>
      exact absurd h (by simp)
  | case4 c rest hne hunderscore ih =>
      have hrest : rest ≠ [] := hne
      rw [numeralDigits?.eq_4 c rest hne hunderscore]
      have hdigits := @ih (fun hmem => h (List.mem_cons_of_mem c hmem))
      simp only [Option.bind_eq_some_iff, Option.map_eq_some_iff, hdigits, ne_eq, hrest,
        not_false_eq_true, true_and, reduceCtorEq, List.map_cons]
      cases ds with
      | nil =>
          simp
      | cons d ds =>
          simp [and_comm]

theorem isMargin_of_isDigit {c : Char} (h : isDigit c = true) : isMargin c = false := by
  rw [isMargin, isBlank_of_isDigit h, Bool.false_and]

/-- A text of digits is an integer numeral exactly if all of them have values, and its value is
theirs in base ten. -/
theorem integer?_eq_some_iff {cs : List Char} (h : ∀ c ∈ cs, isDigit c = true) {n : Int} :
    integer? cs = some n ↔
      cs ≠ [] ∧ ∃ ds : List Nat, cs.map digitValue? = ds.map some ∧
        n = (Nat.ofDigits 10 ds.reverse : Nat) := by
  have hunderscore : '_' ∉ cs := not_mem_of_digits h (by decide)
  have hcore : IsCore isMargin cs cs := by
    refine isCore_self ?_ ?_
    · exact fun c hc => isMargin_of_isDigit (h c (List.mem_of_mem_head? hc))
    · exact fun c hc => isMargin_of_isDigit (h c (List.mem_of_getLast? hc))
  have hunsigned : integer? cs = Option.map (fun k : Nat => (k : Int)) (natural? cs) := by
    rw [integer?, hcore.stripEnds_eq]
    split
    · exact absurd List.mem_cons_self (not_mem_of_digits h (by decide))
    · exact absurd List.mem_cons_self (not_mem_of_digits h (by decide))
    · cases natural? cs <;> rfl
  rw [hunsigned, natural?]
  simp only [Option.map_map, Option.map_eq_some_iff, numeralDigits?_eq_some_iff hunderscore,
    Function.comp_apply, ofDigits_eq]
  constructor
  · rintro ⟨ds, ⟨hne, hds⟩, rfl⟩
    exact ⟨hne, ds, hds, rfl⟩
  · rintro ⟨hne, ds, hds, rfl⟩
    exact ⟨ds, ⟨hne, hds⟩, rfl⟩

/-! ### Numbers in decimal -/

theorem digitValue?_of_isDecimal {c : Char} (h : c.isDigit = true) :
    digitValue? c = some (c.toNat - '0'.toNat) := by
  have hrange : 0x30 ≤ c.toNat ∧ c.toNat < 0x30 + 10 := by
    simp only [Char.isDigit, ge_iff_le, Bool.and_eq_true, decide_eq_true_eq, UInt32.le_iff_toNat_le]
      at h
    exact ⟨h.1, Nat.lt_succ_of_le h.2⟩
  have hzeros : digitZeros = 0x30 :: digitZeros.tail := rfl
  rw [digitValue?, hzeros, List.find?_cons_of_pos (by simpa using hrange)]
  rfl

/-- The values of the digits with which a number is written. -/
def decimalDigits (n : Nat) : List Nat :=
  (Nat.toDigits 10 n).map fun c => c.toNat - '0'.toNat

theorem map_digitValue?_toDigits (n : Nat) :
    (Nat.toDigits 10 n).map digitValue? = (decimalDigits n).map some := by
  rw [decimalDigits, List.map_map]
  refine List.map_congr_left ?_
  intro c hc
  exact digitValue?_of_isDecimal (Nat.isDigit_of_mem_toDigits (by decide) (by decide) hc)

/-- The digits with which a number is written have this number as their value. -/
theorem ofDigits_decimalDigits (n : Nat) : Nat.ofDigits 10 (decimalDigits n).reverse = n := by
  rw [← ofDigits_eq, ofDigits, decimalDigits, List.foldl_map]
  exact Nat.ofDigitChars_ten_toDigits

end Text
end ReplicaRead
