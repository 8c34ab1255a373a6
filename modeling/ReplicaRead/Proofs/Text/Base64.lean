import ReplicaRead.Text.Base64

/-!
# Reading written Base64

What is written in Base64 is read back as it was, whatever the number of bytes. Each group of three
bytes makes four digits, none of which is padding, so that the groups are read one by one; the one or
two bytes of the last group are told apart by its padding.

Results: `Base64.decode?_encode`.
-/

namespace ReplicaRead
namespace Base64

/-! ### Digits -/

theorem value?_digit : ∀ n, n < 64 → value? (digit n) = some n := by
  decide +kernel

/-- Padding has no value, and every digit has one. -/
theorem digit_ne_padding {n : Nat} (h : n < 64) : digit n ≠ '=' := by
  intro hpadding
  have hvalue := value?_digit n h
  rw [hpadding, (by decide : value? '=' = none)] at hvalue
  cases hvalue

/-! ### Groups -/

theorem decode?_one {a b : Char} {m n : Nat} (ha : value? a = some m) (hb : value? b = some n) :
    decode? [a, b, '=', '='] = some [UInt8.ofNat ((m * 64 + n) / 16)] := by
  simp [decode?, ha, hb]

theorem decode?_two {a b c : Char} {l m n : Nat} (hc : c ≠ '=') (ha : value? a = some l)
    (hb : value? b = some m) (hn : value? c = some n) :
    decode? [a, b, c, '='] =
      some [UInt8.ofNat (((l * 64 + m) * 64 + n) / 1024),
        UInt8.ofNat (((l * 64 + m) * 64 + n) / 4)] := by
  rw [decode?]
  · simp [ha, hb, hn]
  · exact fun h => absurd h hc

/-- A group without padding is read, and then the rest, unless that is all padding. -/
theorem decode?_three {a b c d : Char} {k l m n : Nat} (hd : d ≠ '=') (ha : value? a = some k)
    (hb : value? b = some l) (hc : value? c = some m) (hn : value? d = some n) {rest : List Char}
    {bs : Bytes} (hrest : decode? rest = some bs) (hpadding : rest.all (· == '=') = true → bs = []) :
    decode? (a :: b :: c :: d :: rest) =
      some (UInt8.ofNat ((((k * 64 + l) * 64 + m) * 64 + n) / 65536) ::
        UInt8.ofNat ((((k * 64 + l) * 64 + m) * 64 + n) / 256) ::
        UInt8.ofNat (((k * 64 + l) * 64 + m) * 64 + n) :: bs) := by
  rw [decode?]
  · cases hall : rest.all (· == '=') with
    | true =>
        simp [ha, hb, hc, hn, hpadding hall]
    | false =>
        simp [ha, hb, hc, hn, hrest]
  · exact fun _ h => absurd h hd
  · exact fun h => absurd h hd

/-- A text that is written begins with a digit, if there is anything to write. -/
theorem eq_nil_of_encode_padding {bs : Bytes} (h : (encode bs).all (· == '=') = true) :
    bs = [] := by
  have hbegins : ∀ {n : Nat} {cs : List Char}, n < 64 →
      ¬ (digit n :: cs).all (· == '=') = true := by
    intro n cs hn hall
    rw [List.all_cons, Bool.and_eq_true, beq_iff_eq] at hall
    exact digit_ne_padding hn hall.1
  match bs with
  | [] =>
      rfl
  | [a] =>
      have ha := a.toNat_lt
      exact absurd h (hbegins (by omega))
  | [a, b] =>
      have ha := a.toNat_lt
      have hb := b.toNat_lt
      exact absurd h (hbegins (by omega))
  | a :: b :: c :: rest =>
      have ha := a.toNat_lt
      have hb := b.toNat_lt
      have hc := c.toNat_lt
      exact absurd h (hbegins (by omega))

theorem ofNat_eq_of_mod {n : Nat} {b : UInt8} (h : n % 256 = b.toNat) : UInt8.ofNat n = b := by
  apply UInt8.toNat_inj.1
  rw [UInt8.toNat_ofNat', h]

/-- What is written in Base64 is read back. -/
theorem decode?_encode (bs : Bytes) : decode? (encode bs) = some bs := by
  match bs with
  | [] =>
      rfl
  | [a] =>
      have ha := a.toNat_lt
      rw [encode, decode?_one (value?_digit _ (by omega)) (value?_digit _ (by omega)),
        ofNat_eq_of_mod (b := a) (by omega)]
  | [a, b] =>
      have ha := a.toNat_lt
      have hb := b.toNat_lt
      rw [encode, decode?_two (digit_ne_padding (by omega)) (value?_digit _ (by omega))
        (value?_digit _ (by omega)) (value?_digit _ (by omega)),
        ofNat_eq_of_mod (b := a) (by omega), ofNat_eq_of_mod (b := b) (by omega)]
  | a :: b :: c :: rest =>
      have ha := a.toNat_lt
      have hb := b.toNat_lt
      have hc := c.toNat_lt
      have hrest := decode?_encode rest
      rw [encode, decode?_three (digit_ne_padding (by omega)) (value?_digit _ (by omega))
        (value?_digit _ (by omega)) (value?_digit _ (by omega)) (value?_digit _ (by omega)) hrest
        eq_nil_of_encode_padding,
        ofNat_eq_of_mod (b := a) (by omega), ofNat_eq_of_mod (b := b) (by omega),
        ofNat_eq_of_mod (b := c) (by omega)]

end Base64
end ReplicaRead
