import Mathlib.Data.List.Induction
import ReplicaRead.Status

/-!
# Words as numbers

Writing a number in a fixed count of bytes and reading it back undo each other, on the numbers that
fit and on all bytes; so do wrapping a signed number and taking its sign back.

Results: `Word.toNat_ofNat` and `Word.ofNat_toNat`, `Word.signed_wrap` and `Word.wrap_signed`; and
`Status.ofBytes_eq_toInt`, for the status word.
-/

namespace ReplicaRead
namespace Word

theorem count_succ (width : Nat) : count (width + 1) = count width * 256 :=
  Nat.pow_succ 256 width

theorem count_pos (width : Nat) : 0 < count width :=
  Nat.pow_pos (by decide)

/-! ### Unsigned numbers -/

theorem toNat_append_singleton (bs : Bytes) (b : UInt8) :
    toNat (bs ++ [b]) = toNat bs * 256 + b.toNat := by
  simp [toNat]

theorem toNat_ofNat {width n : Nat} (h : n < count width) : toNat (ofNat width n) = n := by
  induction width generalizing n with
  | zero =>
      have hzero : n < 1 := h
      have hn : n = 0 := by omega
      rw [hn]
      rfl
  | succ width ih =>
      rw [count_succ] at h
      have hfront : n / 256 < count width := by omega
      have hlast : (UInt8.ofNat n).toNat = n % 256 := UInt8.toNat_ofNat'
      rw [ofNat, toNat_append_singleton, ih hfront, hlast]
      omega

theorem toNat_lt_count (bs : Bytes) : toNat bs < count bs.length := by
  induction bs using List.reverseRecOn with
  | nil =>
      exact count_pos 0
  | append_singleton bs b ih =>
      have hb : b.toNat < 256 := b.toNat_lt
      rw [toNat_append_singleton, List.length_append, List.length_singleton, count_succ]
      omega

theorem ofNat_toNat (bs : Bytes) : ofNat bs.length (toNat bs) = bs := by
  induction bs using List.reverseRecOn with
  | nil =>
      rfl
  | append_singleton bs b ih =>
      have hb : b.toNat < 256 := b.toNat_lt
      have hfront : (toNat bs * 256 + b.toNat) / 256 = toNat bs := by omega
      have hlast : UInt8.ofNat (toNat bs * 256 + b.toNat) = b := by
        refine UInt8.toNat_inj.1 ?_
        rw [UInt8.toNat_ofNat']
        omega
      rw [List.length_append, List.length_singleton, ofNat, toNat_append_singleton, hfront, hlast,
        ih]

/-! ### Signed numbers -/

theorem wrap_lt_count (width : Nat) (n : Int) : wrap width n < count width := by
  have hpos : (0 : Int) < count width := Int.natCast_pos.2 (count_pos width)
  have hlt := Int.emod_lt_of_pos n hpos
  have hnonneg := Int.emod_nonneg n (Int.ne_of_gt hpos)
  unfold wrap
  omega

theorem signed_wrap {width : Nat} {n : Int} (h : InRange width n) :
    signed width (wrap width n) = n := by
  obtain ⟨hlow, hhigh⟩ := h
  unfold signed wrap
  by_cases hn : 0 ≤ n
  · rw [Int.emod_eq_of_lt hn (by omega), if_pos (by omega)]
    omega
  · have hmod : n % (count width : Int) = n + count width := by
      rw [← Int.add_emod_right, Int.emod_eq_of_lt (by omega) (by omega)]
    rw [hmod, if_neg (by omega)]
    omega

theorem inRange_signed {width n : Nat} (h : n < count width) : InRange width (signed width n) := by
  unfold signed InRange
  split
  · omega
  · omega

theorem wrap_signed {width n : Nat} (h : n < count width) : wrap width (signed width n) = n := by
  unfold signed wrap
  split
  · rw [Int.emod_eq_of_lt (by omega) (by omega)]
    omega
  · have hmod : ((n : Int) - count width) % (count width : Int) = n := by
      rw [← Int.add_emod_right, Int.sub_add_cancel, Int.emod_eq_of_lt (by omega) (by omega)]
    rw [hmod]
    omega

end Word

/-! ### The status -/

namespace Status

theorem toNat_pair (high low : UInt8) :
    Word.toNat [high, low] = high.toNat * 256 + low.toNat := by
  simp [Word.toNat]

theorem toNat_toBitVec_append (high low : UInt8) :
    (high.toBitVec ++ low.toBitVec).toNat = Word.toNat [high, low] := by
  rw [BitVec.toNat_append, ← Nat.shiftLeft_add_eq_or_of_lt low.toBitVec.isLt, Nat.shiftLeft_eq,
    toNat_pair]
  rfl

/-- A status is the signed number of sixteen bits whose first eight are the first byte. -/
theorem ofBytes_eq_toInt (high low : UInt8) :
    ofBytes high low = (high.toBitVec ++ low.toBitVec).toInt := by
  rw [BitVec.toInt_eq_toNat_cond, toNat_toBitVec_append]
  rfl

/-- Only two zero bytes denote success. -/
theorem ofBytes_eq_success_iff {high low : UInt8} :
    ofBytes high low = success ↔ high = 0 ∧ low = 0 := by
  rw [ofBytes_eq_toInt]
  constructor
  · intro h
    have hbits : high.toBitVec ++ low.toBitVec = 0#16 := BitVec.eq_of_toInt_eq h
    have hnumber : high.toNat * 256 + low.toNat = 0 := by
      rw [← toNat_pair, ← toNat_toBitVec_append, hbits]
      rfl
    have hhigh : high.toNat = 0 := by omega
    have hlow : low.toNat = 0 := by omega
    exact ⟨UInt8.toNat_inj.1 hhigh, UInt8.toNat_inj.1 hlow⟩
  · rintro ⟨rfl, rfl⟩
    rfl

end Status
end ReplicaRead
