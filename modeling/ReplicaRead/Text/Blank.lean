/-!
# Blank characters, trimming and line breaks

Addresses, numerals and lines of standard input are read after the blank characters at both of
their ends have been taken away.

Input: a text, as a list of characters.

Algorithm: drop the longest prefix, then the longest suffix, whose characters satisfy a test.

Results: what is taken away satisfies the test, and the rest neither begins nor ends with such a
character.
-/

namespace ReplicaRead
namespace Text

/-- The blank characters: those with Unicode's property White_Space, and the four information
separators U+001C to U+001F. -/
def isBlank (c : Char) : Bool :=
  let n := c.toNat
  (0x09 ≤ n && n ≤ 0x0D) || (0x1C ≤ n && n ≤ 0x20) || n == 0x85 || n == 0xA0 || n == 0x1680
    || (0x2000 ≤ n && n ≤ 0x200A) || n == 0x2028 || n == 0x2029 || n == 0x202F || n == 0x205F
    || n == 0x3000

/-- The blank characters that may surround a numeral: all but the information separators. -/
def isMargin (c : Char) : Bool :=
  isBlank c && !(0x1C ≤ c.toNat && c.toNat ≤ 0x1F)

section StripEnds

variable {α : Type}

/-- The list without its longest suffix of members that satisfy `p`. -/
def dropEndWhile (p : α → Bool) (l : List α) : List α :=
  (l.reverse.dropWhile p).reverse

/-- The list without its longest prefix and its longest suffix of members that satisfy `p`. -/
def stripEnds (p : α → Bool) (l : List α) : List α :=
  dropEndWhile p (l.dropWhile p)

theorem dropEndWhile_append_of_all (p : α → Bool) (l r : List α) (h : ∀ x ∈ r, p x = true) :
    dropEndWhile p (l ++ r) = dropEndWhile p l := by
  simp only [dropEndWhile, List.reverse_append]
  rw [List.dropWhile_append_of_pos (by simpa using h)]

/-- What is dropped at the end satisfies the test. -/
theorem exists_dropEndWhile_append (p : α → Bool) (l : List α) :
    ∃ r, l = dropEndWhile p l ++ r ∧ ∀ x ∈ r, p x = true := by
  refine ⟨(l.reverse.takeWhile p).reverse, ?_, ?_⟩
  · rw [dropEndWhile, ← List.reverse_append, List.takeWhile_append_dropWhile, List.reverse_reverse]
  · intro x hx
    rw [List.mem_reverse] at hx
    exact List.all_eq_true.1 List.all_takeWhile x hx

end StripEnds

/-- The text without the blank characters at its ends. -/
def trim (cs : List Char) : List Char :=
  stripEnds isBlank cs

/-- The lines of a text, each ended by a line feed or a carriage return, which is not part of it. A
carriage return with a line feed makes an empty line more. -/
def breakLines : List Char → List (List Char)
  | [] => []
  | c :: cs =>
    if c = '\n' || c = '\r' then [] :: breakLines cs
    else match breakLines cs with
      | [] => [[c]]
      | line :: lines => (c :: line) :: lines

end Text
end ReplicaRead
