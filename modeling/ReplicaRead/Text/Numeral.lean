import ReplicaRead.Text.Blank
import ReplicaRead.Text.Digit

/-!
# Integer numerals

Ports and the sizes of pieces are integers written as text.

Input: a text, as a list of characters.

Algorithm: after blank characters at both ends there may be one sign; then come decimal digits of
any script, taken by value, with at most one underscore between two digits.

Results: `integer?` is the value of a numeral, and `none` of any other text.
-/

namespace ReplicaRead
namespace Text

/-- The values of the digits of an unsigned numeral, in which single underscores may stand between
two digits. -/
def numeralDigits? : List Char → Option (List Nat)
  | [] => none
  | [c] => (digitValue? c).map ([·])
  | c :: '_' :: rest => (digitValue? c).bind fun d => (numeralDigits? rest).map (d :: ·)
  | c :: rest => (digitValue? c).bind fun d => (numeralDigits? rest).map (d :: ·)

/-- The number with the given decimal digits, the most significant first. -/
def ofDigits (ds : List Nat) : Nat :=
  ds.foldl (fun n d => 10 * n + d) 0

/-- The value of an unsigned numeral. -/
def natural? (cs : List Char) : Option Nat :=
  (numeralDigits? cs).map ofDigits

/-- The value of an integer numeral. -/
def integer? (cs : List Char) : Option Int :=
  match stripEnds isMargin cs with
  | '-' :: rest => (natural? rest).map fun n => -(n : Int)
  | '+' :: rest => (natural? rest).map fun n => (n : Int)
  | rest => (natural? rest).map fun n => (n : Int)

end Text
end ReplicaRead
