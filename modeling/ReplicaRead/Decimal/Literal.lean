import ReplicaRead.Decimal.Binary64
import ReplicaRead.Text.Numeral

/-!
# Floating-point literals

Timeouts are given in decimal notation, on the command line and in the environment.

Input: a text without blank characters at its ends.

Algorithm: an optional sign, then a name of an infinity or of `nan` in any case of letters, or
digits with an optional point and at least one digit on either side of it, then an optional
exponent.

Results: `Binary64.ofLiteral?`.
-/

namespace ReplicaRead
namespace Binary64

open Text

/-- Splits a text after its leading decimal digits. -/
def spanDigits (cs : List Char) : List Nat × List Char :=
  (cs.takeWhile (·.isDigit) |>.map fun c => c.toNat - '0'.toNat, cs.dropWhile (·.isDigit))

/-- An integer of at least one digit with an optional sign. -/
def exponent? : List Char → Option Int
  | '-' :: cs => (digits? cs).map fun n => -(n : Int)
  | '+' :: cs => (digits? cs).map fun n => (n : Int)
  | cs => (digits? cs).map fun n => (n : Int)
where
  digits? (cs : List Char) : Option Nat :=
    match spanDigits cs with
    | ([], _) => none
    | (ds, []) => some (ofDigits ds)
    | _ => none

/-- An unsigned number in decimal notation. -/
def ofUnsigned? (negative : Bool) (cs : List Char) : Option Binary64 :=
  let (whole, rest) := spanDigits cs
  let (places, rest) := match rest with
    | '.' :: rest => spanDigits rest
    | rest => ([], rest)
  if whole.isEmpty && places.isEmpty then none
  else
    let finish (power : Int) :=
      some (ofScientific negative (ofDigits (whole ++ places)) (power - places.length))
    match rest with
    | [] => finish 0
    | 'e' :: rest | 'E' :: rest => (exponent? rest).bind finish
    | _ => none

/-- The number that a literal denotes. -/
def ofLiteral? (cs : List Char) : Option Binary64 :=
  let (negative, cs) := match cs with
    | '-' :: cs => (true, cs)
    | '+' :: cs => (false, cs)
    | cs => (false, cs)
  let name := String.ofList (cs.map Char.toLower)
  if name = "inf" ∨ name = "infinity" then some (infinite negative)
  else if name = "nan" then some nan
  else ofUnsigned? negative cs

end Binary64
end ReplicaRead
