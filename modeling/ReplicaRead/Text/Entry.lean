import ReplicaRead.Decimal.Literal
import ReplicaRead.Text.Blank

/-!
# Numbers as they are entered

The numbers in options and settings are read more freely than other numerals in some ways, and in
ASCII digits only.

Input: a text.

Algorithm: an integer loses the blank characters at its ends, a plus sign, the zeros at its front
or behind its minus sign, a fraction of zeros and the underscores that stand apart, in this order;
what is left must be digits behind at most one minus sign, without zeros before other digits. The
zeros are taken away once, in front of a minus sign or behind it: `0-5` is -5, and `0-05` is no
integer. A number is a floating-point literal between blank characters, or becomes one when its
underscores are taken away.

Results: `Entry.integer?` and `Entry.number?`.
-/

namespace ReplicaRead
namespace Text
namespace Entry

/-- Whether two underscores stand side by side. -/
def hasDoubleUnderscore : List Char → Bool
  | '_' :: '_' :: _ => true
  | _ :: cs => hasDoubleUnderscore cs
  | [] => false

/-- A text without its underscores, if none of them stands at an end or beside another. -/
def dropUnderscores? (cs : List Char) : Option (List Char) :=
  if cs.head? == some '_' || cs.getLast? == some '_' || hasDoubleUnderscore cs then none
  else some (cs.filter (· != '_'))

/-- A text without a plus sign at its front, which no minus sign may follow. -/
def dropPlus? : List Char → Option (List Char)
  | '+' :: '-' :: _ => none
  | '+' :: cs => some cs
  | cs => some cs

/-- The rest of a text after zeros and underscores, the last of which is `last`. The last of them
stays if the text ends or a point follows; otherwise a digit or a minus sign must follow. -/
def afterZeros? (last : Char) : List Char → Option (List Char)
  | [] => some [last]
  | c :: cs =>
    if c = '0' ∨ c = '_' then afterZeros? c cs
    else if c = '.' then some (last :: c :: cs)
    else if c.isDigit ∨ c = '-' then some (c :: cs)
    else none

/-- A text without the zeros at its front, among which there may be underscores. It must begin with
a digit. -/
def dropZeros? : List Char → Option (List Char)
  | [] => none
  | c :: cs => if c = '0' then afterZeros? c cs else if c.isDigit then some (c :: cs) else none

/-- A text without the zeros at its front or behind the minus sign there. -/
def dropSignedZeros? : List Char → Option (List Char)
  | '-' :: cs => (dropZeros? cs).map ('-' :: ·)
  | cs => dropZeros? cs

/-- A text without a fraction that consists of zeros, of which there is at least one. -/
def dropFraction (cs : List Char) : List Char :=
  match cs.dropWhile (· != '.') with
  | _ :: places =>
    if !places.isEmpty && places.all (· == '0') then cs.takeWhile (· != '.') else cs
  | [] => cs

/-- The value of a text of at least one digit, of which a zero comes first only if it is alone. -/
def digits? (cs : List Char) : Option Nat :=
  if !cs.isEmpty && cs.all Char.isDigit && (cs == ['0'] || cs.head? != some '0') then
    some (ofDigits (cs.map fun c => c.toNat - '0'.toNat))
  else none

/-- The value of digits behind at most one minus sign. -/
def signed? : List Char → Option Int
  | '-' :: cs => (digits? cs).map fun n => -(n : Int)
  | cs => (digits? cs).map fun n => (n : Int)

/-- The value of an integer as it is entered. -/
def integer? (s : String) : Option Int := do
  let cs ← dropPlus? (stripEnds isMargin s.toList)
  let cs ← dropSignedZeros? cs
  let cs ← dropUnderscores? (dropFraction cs)
  signed? cs

/-- The value of a number as it is entered. Blank characters and underscores do not go together. -/
def number? (s : String) : Option Binary64 :=
  (Binary64.ofLiteral? (stripEnds isMargin s.toList)).or
    ((dropUnderscores? s.toList).bind Binary64.ofLiteral?)

end Entry
end Text
end ReplicaRead
