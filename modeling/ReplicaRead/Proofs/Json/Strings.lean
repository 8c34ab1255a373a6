import ReplicaRead.Text.Json

/-!
# Reading written strings

A string of a document holds characters as they are, by a letter behind a backslash, or by their
UTF-16 units. Read as units throughout, it does not matter in which of these ways a character is
written. Two units that stand for one character are only put together at the end, and half of such a
pair stands for nothing.

Input: the text behind the first quotation mark of a string.

Results: `Utf16.toChars?_flatMap`, by which characters are read from their units, and
`Json.string?_escape`, by which a string as it is written is read up to its end.
-/

namespace ReplicaRead

/-! ### UTF-16 units -/

namespace Utf16

/-- The units of a character. -/
def ofChar (c : Char) : List Nat :=
  let n := c.toNat
  if n < 0x10000 then [n] else [0xD800 + (n - 0x10000) / 0x400, 0xDC00 + (n - 0x10000) % 0x400]

def isHigh (n : Nat) : Bool :=
  0xD800 ≤ n && n < 0xDC00

def isLow (n : Nat) : Bool :=
  0xDC00 ≤ n && n < 0xE000

/-- The characters for which units stand. Half a character stands for none. -/
def toChars? : List Nat → Option (List Char)
  | [] => some []
  | n :: units =>
    if isHigh n then
      match units with
      | [] => none
      | low :: units =>
        if isLow low then
          (toChars? units).map
            (Char.ofNat (0x10000 + 0x400 * (n - 0xD800) + (low - 0xDC00)) :: ·)
        else none
    else if isLow n then none
    else (toChars? units).map (Char.ofNat n :: ·)

/-- The units of a character are read as this character, whatever follows. -/
theorem toChars?_ofChar (c : Char) (units : List Nat) :
    toChars? (ofChar c ++ units) = (toChars? units).map (c :: ·) := by
  have hvalid : c.toNat < 0xD800 ∨ 0xDFFF < c.toNat ∧ c.toNat < 0x110000 := c.valid
  unfold ofChar
  by_cases hsmall : c.toNat < 0x10000
  · have hhigh : isHigh c.toNat = false := by
      simp only [isHigh, Bool.and_eq_false_iff, decide_eq_false_iff_not]
      omega
    have hlow : isLow c.toNat = false := by
      simp only [isLow, Bool.and_eq_false_iff, decide_eq_false_iff_not]
      omega
    rw [if_pos hsmall, List.singleton_append, toChars?.eq_def]
    simp only [hhigh, hlow, Bool.false_eq_true, if_false, Char.ofNat_toNat]
  · have hhigh : isHigh (0xD800 + (c.toNat - 0x10000) / 0x400) = true := by
      simp only [isHigh, Bool.and_eq_true, decide_eq_true_eq]
      omega
    have hlow : isLow (0xDC00 + (c.toNat - 0x10000) % 0x400) = true := by
      simp only [isLow, Bool.and_eq_true, decide_eq_true_eq]
      omega
    have hjoin : 0x10000 + 0x400 * (0xD800 + (c.toNat - 0x10000) / 0x400 - 0xD800) +
        (0xDC00 + (c.toNat - 0x10000) % 0x400 - 0xDC00) = c.toNat := by
      omega
    rw [if_neg hsmall, List.cons_append, List.singleton_append, toChars?, if_pos hhigh]
    simp only [hlow, if_true, hjoin, Char.ofNat_toNat]

theorem toChars?_flatMap (cs : List Char) : toChars? (cs.flatMap ofChar) = some cs := by
  induction cs with
  | nil =>
      rfl
  | cons c cs ih =>
      rw [List.flatMap_cons, toChars?_ofChar, ih]
      rfl

end Utf16

namespace Json

/-! ### Strings -/

/-- The value of a hexadecimal digit. -/
def hexValue? (c : Char) : Option Nat :=
  if c.isDigit then some (c.toNat - '0'.toNat)
  else if 'a' ≤ c ∧ c ≤ 'f' then some (c.toNat - 'a'.toNat + 10)
  else if 'A' ≤ c ∧ c ≤ 'F' then some (c.toNat - 'A'.toNat + 10)
  else none

/-- A unit, by its four hexadecimal digits. -/
def unit? (a b c d : Char) : Option Nat := do
  let a ← hexValue? a
  let b ← hexValue? b
  let c ← hexValue? c
  let d ← hexValue? d
  return 16 * (16 * (16 * a + b) + c) + d

/-- The character for which a letter behind a backslash stands. -/
def escaped? : Char → Option Char
  | '"' => some '"'
  | '\\' => some '\\'
  | '/' => some '/'
  | 'b' => some '\x08'
  | 'f' => some '\x0c'
  | 'n' => some '\n'
  | 'r' => some '\r'
  | 't' => some '\t'
  | _ => none

/-- The units of a string up to its end, and the text after it. -/
def units? : List Char → Option (List Nat × List Char)
  | [] => none
  | '"' :: cs => some ([], cs)
  | '\\' :: 'u' :: a :: b :: c :: d :: cs =>
    (unit? a b c d).bind fun n => (units? cs).map fun r => (n :: r.1, r.2)
  | '\\' :: c :: cs =>
    (escaped? c).bind fun e => (units? cs).map fun r => (Utf16.ofChar e ++ r.1, r.2)
  | c :: cs =>
    if c.toNat < 0x20 then none
    else (units? cs).map fun r => (Utf16.ofChar c ++ r.1, r.2)

/-- The string behind its first quotation mark, and the text after it. -/
def string? (cs : List Char) : Option (String × List Char) :=
  (units? cs).bind fun r => (Utf16.toChars? r.1).map fun cs => (String.ofList cs, r.2)

theorem hexValue?_digitChar : ∀ d < 16, hexValue? (Nat.digitChar d) = some d := by
  decide

theorem units?_unitEscape {n : Nat} (h : n < 0x10000) (cs : List Char) :
    units? (unitEscape n ++ cs) = (units? cs).map fun r => (n :: r.1, r.2) := by
  have hdigits : Text.hexDigits 4 n = [Nat.digitChar (n / 16 / 16 / 16 % 16),
      Nat.digitChar (n / 16 / 16 % 16), Nat.digitChar (n / 16 % 16), Nat.digitChar (n % 16)] := rfl
  have hdigit : ∀ m, hexValue? (Nat.digitChar (m % 16)) = some (m % 16) := fun m =>
    hexValue?_digitChar _ (Nat.mod_lt m (by decide))
  have hvalue : 16 * (16 * (16 * (n / 16 / 16 / 16 % 16) + n / 16 / 16 % 16) + n / 16 % 16) +
      n % 16 = n := by
    omega
  rw [unitEscape, hdigits]
  simp only [List.cons_append, List.nil_append, units?, unit?, hdigit, Option.bind_eq_bind,
    Option.bind_some, Option.pure_def, hvalue]

theorem units?_plain {c : Char} (hmark : c ≠ '"') (hslash : c ≠ '\\') (hplain : 0x20 ≤ c.toNat)
    (cs : List Char) :
    units? (c :: cs) = (units? cs).map fun r => (Utf16.ofChar c ++ r.1, r.2) := by
  rw [units?.eq_def]
  split
  case h_5 c' cs' heq =>
      cases heq
      exact if_neg (Nat.not_lt.2 hplain)
  all_goals simp_all

/-- The characters that are written by a letter behind a backslash. -/
def lettered : List Char :=
  ['"', '\\', '\n', '\r', '\t', '\x08', '\x0c']

/-- The other characters are written as they are or by their units. -/
theorem escapeChar_of_not_lettered {c : Char} (h : c ∉ lettered) :
    escapeChar c = if 0x20 ≤ c.toNat ∧ c.toNat < 0x7F then [c]
      else (Utf16.ofChar c).flatMap unitEscape := by
  have hcode : ∀ d ∈ lettered, c.toNat ≠ d.toNat := by
    intro d hd hsame
    rw [← Char.ofNat_toNat d, ← hsame, Char.ofNat_toNat] at hd
    exact h hd
  have hback : c.toNat ≠ 8 := hcode '\x08' (by decide)
  have hform : c.toNat ≠ 12 := hcode '\x0c' (by decide)
  simp only [lettered, List.mem_cons, List.not_mem_nil, or_false, not_or] at h
  obtain ⟨hmark, hslash, hfeed, hreturn, htab, -, -⟩ := h
  simp only [escapeChar, Utf16.ofChar, hmark, hslash, hfeed, hreturn, htab, hback, hform, if_false]
  by_cases hsmall : c.toNat < 0x10000
  · simp [hsmall]
  · simp [hsmall]

/-- A character as it is written is read as its units. -/
theorem units?_escapeChar (c : Char) (cs : List Char) :
    units? (escapeChar c ++ cs) = (units? cs).map fun r => (Utf16.ofChar c ++ r.1, r.2) := by
  by_cases hlettered : c ∈ lettered
  · simp only [lettered, List.mem_cons, List.not_mem_nil, or_false] at hlettered
    rcases hlettered with rfl | rfl | rfl | rfl | rfl | rfl | rfl <;> rfl
  rw [escapeChar_of_not_lettered hlettered]
  by_cases hplain : 0x20 ≤ c.toNat ∧ c.toNat < 0x7F
  · have hmark : c ≠ '"' := fun h => hlettered (h ▸ by decide)
    have hslash : c ≠ '\\' := fun h => hlettered (h ▸ by decide)
    rw [if_pos hplain]
    exact units?_plain hmark hslash hplain.1 cs
  rw [if_neg hplain]
  have hvalid : c.toNat < 0xD800 ∨ 0xDFFF < c.toNat ∧ c.toNat < 0x110000 := c.valid
  by_cases hsmall : c.toNat < 0x10000
  · rw [Utf16.ofChar, if_pos hsmall, List.flatMap_singleton, units?_unitEscape hsmall]
    rfl
  · rw [Utf16.ofChar, if_neg hsmall, List.flatMap_cons, List.flatMap_singleton, List.append_assoc,
      units?_unitEscape (by omega), units?_unitEscape (by omega), Option.map_map]
    rfl

/-- A string as it is written is read up to its end. -/
theorem units?_flatMap (s cs : List Char) :
    units? (s.flatMap escapeChar ++ '"' :: cs) = some (s.flatMap Utf16.ofChar, cs) := by
  induction s with
  | nil =>
      rfl
  | cons c s ih =>
      rw [List.flatMap_cons, List.append_assoc, units?_escapeChar, ih]
      rfl

theorem string?_escape (s : String) (cs : List Char) :
    string? (s.toList.flatMap escapeChar ++ '"' :: cs) = some (s, cs) := by
  rw [string?, units?_flatMap, Option.bind_some, Utf16.toChars?_flatMap, Option.map_some,
    String.ofList_toList]

end Json
end ReplicaRead
