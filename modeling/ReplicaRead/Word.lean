import ReplicaRead.Text.Utf8

/-!
# Big-endian words

Numbers travel in a fixed count of bytes, the most significant first; signed numbers in two's
complement.

Results: `Word.ofNat` and `Word.toNat` on natural numbers, `Word.wrap` and `Word.signed` between
signed numbers and the natural numbers that stand for them.
-/

namespace ReplicaRead
namespace Word

/-- The last `width` bytes of a number. -/
def ofNat : Nat → Nat → Bytes
  | 0, _ => []
  | width + 1, n => ofNat width (n / 256) ++ [UInt8.ofNat n]

/-- The number that bytes denote. -/
def toNat (bs : Bytes) : Nat :=
  bs.foldl (fun n b => n * 256 + b.toNat) 0

/-- The number of unsigned values of `width` bytes. -/
def count (width : Nat) : Nat := Nat.pow 256 width

/-- The unsigned value that stands for a signed number of `width` bytes. -/
def wrap (width : Nat) (n : Int) : Nat :=
  (n % count width).toNat

/-- The signed number of `width` bytes for which an unsigned value stands. -/
def signed (width n : Nat) : Int :=
  if 2 * n < count width then n else (n : Int) - count width

/-- The signed numbers of `width` bytes. -/
def InRange (width : Nat) (n : Int) : Prop :=
  -(count width : Int) ≤ 2 * n ∧ 2 * n < count width

instance (width : Nat) (n : Int) : Decidable (InRange width n) :=
  inferInstanceAs (Decidable (_ ∧ _))

@[simp] theorem length_ofNat (width n : Nat) : (ofNat width n).length = width := by
  induction width generalizing n with
  | zero => rfl
  | succ width ih => simp [ofNat, ih]

end Word
end ReplicaRead
