import ReplicaRead.Decimal.Binary64

/-!
# The shortest decimal text of a number

Messages and reports show a timeout by the fewest decimal digits that read back as the same
number, and by the nearest such digits.

Input: a floating-point number.

Algorithm: for 1, 2, … digits the two neighbours of the number on the decimal grid are read back;
the first grid with a hit gives the digits. Numbers from 0.0001 up to 10 ^ 16 are written
positionally, with at least one decimal place, all others with an exponent of at least two digits.

Results: `Binary64.text`.
-/

namespace ReplicaRead
namespace Binary64

/-- The least `k` such that `mantissa * 2 ^ e` is below `10 ^ k`. -/
def decimalOrder (mantissa : Nat) (e : Int) : Int :=
  let guess := ((Nat.log2 mantissa : Int) + e) * 30103 / 100000
  let below (k : Int) : Bool :=
    let (n, d) := scaleDown mantissa 1 (-e)
    if 0 ≤ k then n < d * Nat.pow 10 k.toNat else n * Nat.pow 10 (-k).toNat < d
  [guess - 1, guess, guess + 1, guess + 2].find? below |>.getD guess

/-- The decimal grid point nearest to the number among those of its two neighbours that read back,
for the grid of multiples of `10 ^ power`; a tie goes to the even one. -/
def gridHit? (mantissa : Nat) (e power : Int) : Option Nat :=
  let (n, d) := scaleDown mantissa 1 (-e)
  let (n, d) :=
    if 0 ≤ power then (n, d * Nat.pow 10 power.toNat)
    else (n * Nat.pow 10 (-power).toNat, d)
  let near := roundQuotient n d
  let far := if n < near * d then near - 1 else near + 1
  [near, far].find? fun k => decide (ofScientific false k power = finite false mantissa e)

/-- The digits and the power of ten of the shortest decimal number that reads back as
`mantissa * 2 ^ e`. -/
def shortest (mantissa : Nat) (e : Int) : Nat × Int :=
  let order := decimalOrder mantissa e
  let grid (i : Nat) : Option (Nat × Int) :=
    let power := order - (i + 1)
    (gridHit? mantissa e power).map fun k => (k, power)
  ((List.range 17).findSome? grid).getD (0, 0)

/-- Decimal digits without the zeros at their end, with the power of ten adjusted. -/
def trimZeros (digits : List Char) (power : Int) : List Char × Int :=
  let kept := (digits.reverse.dropWhile (· == '0')).reverse
  (kept, power + (digits.length - kept.length : Nat))

/-- The positional text of `0.d₁d₂… * 10 ^ point`. -/
def positional (digits : List Char) (point : Int) : List Char :=
  let count := (digits.length : Int)
  if point ≤ 0 then '0' :: '.' :: List.replicate (-point).toNat '0' ++ digits
  else if count ≤ point then digits ++ List.replicate (point - count).toNat '0' ++ ['.', '0']
  else digits.take point.toNat ++ '.' :: digits.drop point.toNat

/-- The text of `d₁.d₂… * 10 ^ power`. -/
def exponential (digits : List Char) (power : Int) : List Char :=
  let fraction := match digits.drop 1 with
    | [] => []
    | rest => '.' :: rest
  let size := Nat.toDigits 10 power.natAbs
  let padding := List.replicate (2 - size.length) '0'
  digits.take 1 ++ fraction ++ 'e' :: (if power < 0 then '-' else '+') :: padding ++ size

def magnitudeText (mantissa : Nat) (e : Int) : List Char :=
  let (n, power) := shortest mantissa e
  let (digits, power) := trimZeros (Nat.toDigits 10 n) power
  let point := power + digits.length
  if -4 < point ∧ point ≤ 16 then positional digits point else exponential digits (point - 1)

/-- The decimal text of a number. -/
def text : Binary64 → String
  | finite negative mantissa e =>
    let size := if mantissa = 0 then ['0', '.', '0'] else magnitudeText mantissa e
    String.ofList (if negative then '-' :: size else size)
  | infinite negative => if negative then "-inf" else "inf"
  | nan => "nan"

end Binary64
end ReplicaRead
