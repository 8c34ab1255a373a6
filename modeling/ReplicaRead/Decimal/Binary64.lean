/-!
# Binary floating-point numbers

Timeouts are binary floating-point numbers with 53 significant bits and exponents from -1074 to
971, kept here as exact integers.

Input: a decimal number, as digits and a power of ten.

Algorithm: the exact quotient is rounded once, to the nearest number, ties to the even mantissa.

Results: `Binary64.ofScientific`, and the order `Binary64.le`.
-/

namespace ReplicaRead

/-- A binary floating-point number. -/
inductive Binary64 where
  /-- The number `mantissa * 2 ^ exponent`, with its sign; both zeros have a sign. -/
  | finite (negative : Bool) (mantissa : Nat) (exponent : Int)
  | infinite (negative : Bool)
  | nan
deriving DecidableEq, Repr

namespace Binary64

def minExponent : Int := -1074

def maxExponent : Int := 971

/-- The quotient `num / den` rounded to the nearest integer, ties to even. -/
def roundQuotient (num den : Nat) : Nat :=
  let q := num / den
  let r := num % den
  if den < 2 * r ∨ (2 * r = den ∧ q % 2 = 1) then q + 1 else q

/-- The fraction `num / den` divided by `2 ^ e`, as a fraction. -/
def scaleDown (num den : Nat) (e : Int) : Nat × Nat :=
  if 0 ≤ e then (num, den * Nat.pow 2 e.toNat) else (num * Nat.pow 2 (-e).toNat, den)

/-- The number with a mantissa of at most `2 ^ 53`, an infinity if the exponent is too great. -/
def ofRounded (negative : Bool) (mantissa : Nat) (e : Int) : Binary64 :=
  let (mantissa, e) :=
    if mantissa = Nat.pow 2 53 then (Nat.pow 2 52, e + 1) else (mantissa, e)
  if maxExponent < e then infinite negative else finite negative mantissa e

/-- The number nearest to `num / den`. -/
def ofRatio (negative : Bool) (num den : Nat) : Binary64 :=
  if num = 0 then finite negative 0 minExponent
  else
    -- With this exponent the quotient lies between `2 ^ 52` and `2 ^ 54`, or is subnormal.
    let low := max ((Nat.log2 num : Int) - Nat.log2 den - 53) minExponent
    let (n, d) := scaleDown num den low
    let e := if Nat.pow 2 53 ≤ n / d then low + 1 else low
    let (n, d) := scaleDown num den e
    ofRounded negative (roundQuotient n d) e

/-- The number nearest to `digits * 10 ^ power`. Powers far outside the range are settled by the
count of digits alone. -/
def ofScientific (negative : Bool) (digits : Nat) (power : Int) : Binary64 :=
  let magnitude := power + Nat.log2 digits / 3
  if digits = 0 then finite negative 0 minExponent
  else if 400 < power then infinite negative
  else if magnitude < -400 then finite negative 0 minExponent
  else if 0 ≤ power then ofRatio negative (digits * Nat.pow 10 power.toNat) 1
  else ofRatio negative digits (Nat.pow 10 (-power).toNat)

def ofInt (n : Int) : Binary64 :=
  ofScientific (n < 0) n.natAbs 0

/-- A finite number as a multiple of the least positive one. -/
def multiple (negative : Bool) (mantissa : Nat) (e : Int) : Int :=
  let size : Int := (mantissa * Nat.pow 2 (e - minExponent).toNat : Nat)
  if negative then -size else size

/-- The order of numbers; `nan` is not comparable, not even with itself. -/
def le : Binary64 → Binary64 → Bool
  | finite s m e, finite s' m' e' => multiple s m e ≤ multiple s' m' e'
  | finite _ _ _, infinite s => !s
  | infinite s, finite _ _ _ => s
  | infinite s, infinite s' => s || !s'
  | _, _ => false

/-- The value of a number that is an integer. -/
def integer? : Binary64 → Option Int
  | finite s m e =>
    let n := multiple s m e
    let unit : Int := Nat.pow 2 (-minExponent).toNat
    if n % unit = 0 then some (n / unit) else none
  | _ => none

end Binary64
end ReplicaRead
