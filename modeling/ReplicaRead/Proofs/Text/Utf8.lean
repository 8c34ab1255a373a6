import ReplicaRead.Text.Utf8

/-!
# Reading written characters

What is written as UTF-8 is read back as it was, whatever bytes follow. A character is written in one
to four bytes; each of these cases is a run of the reader from a first byte through the continuation
bytes that it owes.

Results: `Utf8.decodeFrom_encodeChar`, for one character, and `Utf8.decode_encode` and
`Utf8.decode?_encode`, for all; `Utf8.encode_of_decode?`, by which only written texts are
well-formed.
-/

namespace ReplicaRead
namespace Utf8

/-! ### Single bytes -/

theorem toNat_ofNat_of_lt {n : Nat} (h : n < 256) : (UInt8.ofNat n).toNat = n := by
  rw [UInt8.toNat_ofNat']
  omega

theorem first_of_ascii {n : Nat} (h : n < 0x80) :
    first (UInt8.ofNat n) = ([Char.ofNat n], none) := by
  unfold first
  rw [toNat_ofNat_of_lt (by omega)]
  exact if_pos h

/-- The first of two bytes. -/
theorem first_of_two {n : Nat} (hlow : 2 ≤ n) (hhigh : n < 0x20) :
    first (UInt8.ofNat (n + 0xC0)) = ([], some ⟨n, 0, 0x3F, 0⟩) := by
  unfold first
  rw [toNat_ofNat_of_lt (by omega)]
  simp only [Nat.add_sub_cancel]
  rw [if_neg (by omega), if_neg (by omega), if_pos (by omega)]

/-- The first of three bytes. -/
theorem first_of_three {n : Nat} (h : n < 0x10) :
    first (UInt8.ofNat (n + 0xE0)) =
      ([], some ⟨n, if n = 0 then 0x20 else 0, if n = 0xD then 0x1F else 0x3F, 1⟩) := by
  unfold first
  rw [toNat_ofNat_of_lt (by omega)]
  simp only [Nat.add_sub_cancel, Nat.add_eq_right, Nat.reduceEqDiff]
  rw [if_neg (by omega), if_neg (by omega), if_neg (by omega), if_pos (by omega)]

/-- The first of four bytes. -/
theorem first_of_four {n : Nat} (h : n < 5) :
    first (UInt8.ofNat (n + 0xF0)) =
      ([], some ⟨n, if n = 0 then 0x10 else 0, if n = 4 then 0x0F else 0x3F, 2⟩) := by
  unfold first
  rw [toNat_ofNat_of_lt (by omega)]
  simp only [Nat.add_sub_cancel, Nat.add_eq_right, Nat.reduceEqDiff]
  rw [if_neg (by omega), if_neg (by omega), if_neg (by omega), if_neg (by omega),
    if_pos (by omega)]

/-- A continuation byte that the started character allows. -/
theorem step_of_continuation {p : Started} {bits : Nat} (h : bits < 0x40) (hlow : p.least ≤ bits)
    (hhigh : bits ≤ p.most) :
    step (some p) (UInt8.ofNat (bits + 0x80)) = p.continue bits := by
  have hcontinuation : continuation? (UInt8.ofNat (bits + 0x80)) = some bits := by
    unfold continuation?
    rw [toNat_ofNat_of_lt (by omega), if_pos (by omega), Nat.add_sub_cancel]
  simp only [step, hcontinuation, hlow, hhigh, and_self, if_true]

/-! ### Single characters -/

theorem decodeFrom_ascii {n : Nat} (h : n < 0x80) (bs : Bytes) :
    decodeFrom none (UInt8.ofNat n :: bs) = Char.ofNat n :: decodeFrom none bs := by
  rw [decodeFrom_cons, step, first_of_ascii h]
  rfl

/-- The last byte of a character. -/
theorem decodeFrom_last {code least most bits : Nat} (h : bits < 0x40) (hlow : least ≤ bits)
    (hhigh : bits ≤ most) (bs : Bytes) :
    decodeFrom (some ⟨code, least, most, 0⟩) (UInt8.ofNat (bits + 0x80) :: bs) =
      Char.ofNat (code * 64 + bits) :: decodeFrom none bs := by
  rw [decodeFrom_cons, step_of_continuation h hlow hhigh]
  rfl

/-- A continuation byte that is not the last. -/
theorem decodeFrom_continued {code least most owed bits : Nat} (h : bits < 0x40)
    (hlow : least ≤ bits) (hhigh : bits ≤ most) (bs : Bytes) :
    decodeFrom (some ⟨code, least, most, owed + 1⟩) (UInt8.ofNat (bits + 0x80) :: bs) =
      decodeFrom (some ⟨code * 64 + bits, 0, 0x3F, owed⟩) bs := by
  rw [decodeFrom_cons, step_of_continuation h hlow hhigh]
  rfl

/-- A written character is read back. -/
theorem decodeFrom_encodeChar (c : Char) (bs : Bytes) :
    decodeFrom none (String.utf8EncodeChar c ++ bs) = c :: decodeFrom none bs := by
  have hvalid : c.val.toNat < 0xD800 ∨ 0xDFFF < c.val.toNat ∧ c.val.toNat < 0x110000 := c.valid
  have hchar : Char.ofNat c.val.toNat = c := Char.ofNat_toNat c
  unfold String.utf8EncodeChar
  generalize c.val.toNat = v at hvalid hchar ⊢
  dsimp only
  split
  case isTrue hone =>
      rw [List.singleton_append, decodeFrom_ascii (by omega), hchar]
  case isFalse hone =>
    split
    case isTrue htwo =>
        have hcode : v / 64 % 0x20 * 64 + v % 0x40 = v := by omega
        rw [List.cons_append, List.singleton_append, decodeFrom_cons, step,
          first_of_two (by omega) (by omega), List.nil_append,
          decodeFrom_last (by omega) (by omega) (by omega), hcode, hchar]
    case isFalse htwo =>
      split
      case isTrue hthree =>
          have hcode : (v / 4096 % 0x10 * 64 + v / 64 % 0x40) * 64 + v % 0x40 = v := by omega
          rw [List.cons_append, List.cons_append, List.singleton_append, decodeFrom_cons, step,
            first_of_three (by omega), List.nil_append,
            decodeFrom_continued (by omega) (by split <;> omega) (by split <;> omega),
            decodeFrom_last (by omega) (by omega) (by omega), hcode, hchar]
      case isFalse hthree =>
          have hcode : ((v / 262144 % 0x08 * 64 + v / 4096 % 0x40) * 64 + v / 64 % 0x40) * 64 +
              v % 0x40 = v := by omega
          rw [List.cons_append, List.cons_append, List.cons_append, List.singleton_append,
            decodeFrom_cons, step, first_of_four (by omega), List.nil_append,
            decodeFrom_continued (by omega) (by split <;> omega) (by split <;> omega),
            decodeFrom_continued (by omega) (by omega) (by omega),
            decodeFrom_last (by omega) (by omega) (by omega), hcode, hchar]

/-! ### Texts -/

theorem decode_encode (cs : List Char) : decode (encode cs) = cs := by
  unfold decode
  induction cs with
  | nil =>
      rfl
  | cons c cs ih =>
      rw [encode_cons, decodeFrom_encodeChar, ih]

theorem decode?_encode (cs : List Char) : decode? (encode cs) = some cs := by
  unfold decode?
  rw [decode_encode, if_pos rfl]

/-- What is read as a well-formed text is how that text is written. -/
theorem encode_of_decode? {bs : Bytes} {cs : List Char} (h : decode? bs = some cs) :
    encode cs = bs := by
  unfold decode? at h
  split at h
  · rename_i hencode
    cases h
    exact hencode
  · cases h

/-- The bytes of a text are counted as those of a string are. -/
theorem length_encode (s : String) : (encode s.toList).length = s.utf8ByteSize := by
  have hsize : s.utf8ByteSize = s.toByteArray.size := rfl
  rw [hsize, ← String.utf8Encode_toList]
  simp [List.utf8Encode, encode]

end Utf8
end ReplicaRead
