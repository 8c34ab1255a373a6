import ReplicaRead.Proofs.Json.Strings

/-!
# Reading written documents

What is written as JSON is read back as it was, by a reader of all JSON texts whose numbers are
integers: there may be blanks between the signs, and a number has no needless zeros in front.

Input: a text.

Algorithm: a value is told by its first character. The entries of arrays and objects are read one by
one, each with the comma or bracket behind it, and there are no more of them than characters. Behind
the value there are only blanks.

Results: `Json.natural?_toDigits` and `Json.list?_enclosed`, for the parts of a document, and
`Json.read?_render`, for all documents.
-/

namespace ReplicaRead
namespace Json

/-! ### Numbers -/

/-- The number at the front of a text, and the text after it. -/
def natural? (cs : List Char) : Option (Nat × List Char) :=
  match cs.takeWhile Char.isDigit with
  | [] => none
  | '0' :: _ :: _ => none
  | ds => some (Nat.ofDigitChars 10 ds 0, cs.dropWhile Char.isDigit)

/-- A text that does not go on with a digit. -/
def Halts (cs : List Char) : Prop :=
  ∀ c ∈ cs.head?, c.isDigit = false

theorem exists_toDigits (n : Nat) :
    ∃ c cs, Nat.toDigits 10 n = c :: cs ∧ c.isDigit = true := by
  obtain ⟨c, cs, hdigits⟩ := List.exists_cons_of_ne_nil
    (Nat.toDigits_ne_nil : Nat.toDigits 10 n ≠ [])
  have hmem : c ∈ Nat.toDigits 10 n := hdigits ▸ List.mem_cons_self
  exact ⟨c, cs, hdigits, Nat.isDigit_of_mem_toDigits (by decide) (by decide) hmem⟩

/-- A number that is not zero is written without a zero in front. -/
theorem head?_toDigits_ne_zero {n : Nat} (h : n ≠ 0) : (Nat.toDigits 10 n).head? ≠ some '0' := by
  induction n using Nat.strongRecOn with
  | ind n ih =>
      by_cases hsmall : n < 10
      · have hdigit : ∀ d < 10, d ≠ 0 → Nat.digitChar d ≠ '0' := by decide
        rw [Nat.toDigits_of_lt_base hsmall]
        simpa using hdigit n hsmall h
      · have hfront := ih (n / 10) (by omega) (by omega)
        obtain ⟨c, cs, hdigits, -⟩ := exists_toDigits (n / 10)
        rw [Nat.toDigits_of_base_le (by decide) (by omega), hdigits]
        rw [hdigits] at hfront
        exact hfront

theorem natural?_toDigits (n : Nat) {cs : List Char} (h : Halts cs) :
    natural? (Nat.toDigits 10 n ++ cs) = some (n, cs) := by
  have hdigits : ∀ c ∈ Nat.toDigits 10 n, c.isDigit = true := fun c hc =>
    Nat.isDigit_of_mem_toDigits (by decide) (by decide) hc
  have htake : cs.takeWhile Char.isDigit = [] := by
    cases cs with
    | nil =>
        rfl
    | cons c cs =>
        exact List.takeWhile_cons_of_neg (by simp [h c rfl])
  have hdrop : cs.dropWhile Char.isDigit = cs := by
    cases cs with
    | nil =>
        rfl
    | cons c cs =>
        exact List.dropWhile_cons_of_neg (by simp [h c rfl])
  unfold natural?
  rw [List.takeWhile_append_of_pos hdigits, htake, List.append_nil,
    List.dropWhile_append_of_pos hdigits, hdrop]
  split
  case h_1 hnil =>
      exact absurd hnil Nat.toDigits_ne_nil
  case h_2 c ds hzero =>
      by_cases hn : n = 0
      · subst hn
        cases hzero
      · exact absurd (congrArg List.head? hzero) (head?_toDigits_ne_zero hn)
  case h_3 =>
      rw [Nat.ofDigitChars_ten_toDigits]

/-! ### Lists of entries -/

/-- The characters that may stand between the signs of a document. -/
def isSpace (c : Char) : Bool :=
  c == ' ' || c == '\t' || c == '\n' || c == '\r'

def skipSpaces (cs : List Char) : List Char :=
  cs.dropWhile isSpace

section Entries

variable {α : Type}

/-- At most `steps` entries, with a comma behind each but the last and a bracket behind the last,
and the text after them. -/
def entries? (item? : List Char → Option (α × List Char)) (closing : Char) :
    (steps : Nat) → List Char → Option (List α × List Char)
  | 0, _ => none
  | steps + 1, cs =>
    (item? cs).bind fun entry =>
      match skipSpaces entry.2 with
      | [] => none
      | c :: cs =>
        if c = ',' then
          (entries? item? closing steps cs).map fun r => (entry.1 :: r.1, r.2)
        else if c = closing then some ([entry.1], cs)
        else none

/-- The entries behind an opening bracket, of which there may be none, and the text after them. -/
def list? (item? : List Char → Option (α × List Char)) (closing : Char) (cs : List Char) :
    Option (List α × List Char) :=
  match skipSpaces cs with
  | [] => none
  | c :: rest => if c = closing then some ([], rest) else entries? item? closing cs.length cs

/-- A line break and the blanks at the front of a line. -/
def lineBreak (depth : Nat) : List Char :=
  '\n' :: List.replicate (2 * depth) ' '

theorem isSpace_of_mem_lineBreak {depth : Nat} {c : Char} (hc : c ∈ lineBreak depth) :
    isSpace c = true := by
  rcases List.mem_cons.1 hc with rfl | hc
  · rfl
  · rw [List.eq_of_mem_replicate hc]
    rfl

theorem skipSpaces_append {blanks : List Char} (h : ∀ c ∈ blanks, isSpace c = true)
    (cs : List Char) : skipSpaces (blanks ++ cs) = skipSpaces cs :=
  List.dropWhile_append_of_pos h

theorem skipSpaces_lineBreak (depth : Nat) (cs : List Char) :
    skipSpaces (lineBreak depth ++ cs) = skipSpaces cs :=
  skipSpaces_append (fun _ => isSpace_of_mem_lineBreak) cs

theorem skipSpaces_cons {c : Char} (h : isSpace c = false) (cs : List Char) :
    skipSpaces (c :: cs) = c :: cs :=
  List.dropWhile_cons_of_neg (by simp [h])

theorem halts_lineBreak (depth : Nat) (cs : List Char) : Halts (lineBreak depth ++ cs) := by
  intro c hc
  cases hc
  rfl

/-- The entries between brackets, one a line, behind the opening bracket. -/
def enclosed (closing : Char) (depth : Nat) (entries : List (List Char)) : List Char :=
  if entries = [] then [closing]
  else lineBreak (depth + 1) ++
    ((',' :: lineBreak (depth + 1)).intercalate entries ++ (lineBreak depth ++ [closing]))

theorem toList_pushn (n : Nat) : ("".pushn ' ' n).toList = List.replicate n ' ' := by
  rw [String.pushn_eq_repeat_push]
  induction n with
  | zero =>
      rfl
  | succ n ih =>
      rw [Nat.repeat, String.toList_push, ih, List.replicate_succ']

theorem toList_enclose {opening closing : String} {c d : Char} (hopening : opening.toList = [c])
    (hclosing : closing.toList = [d]) (depth : Nat) (items : List String) :
    (enclose opening closing depth items).toList =
      c :: enclosed d depth (items.map String.toList) := by
  unfold enclose enclosed
  by_cases hitems : items = []
  · simp [hitems, hopening, hclosing]
  · simp [hitems, hopening, hclosing, toList_pushn, String.toList_intercalate, lineBreak]

/-- Entries are read in order, if each of them is read, whatever follows it but a digit. -/
theorem entries?_intercalate {item? : List Char → Option (α × List Char)} {closing : Char}
    {write : α → List Char} {depth : Nat} {xs : List α} (hne : xs ≠ [])
    (hcomma : closing ≠ ',') (hspace : isSpace closing = false)
    (hentry : ∀ x ∈ xs, ∀ rest, Halts rest →
      item? (lineBreak (depth + 1) ++ (write x ++ rest)) = some (x, rest))
    {steps : Nat} (hsteps : xs.length ≤ steps) (rest : List Char) :
    entries? item? closing steps (lineBreak (depth + 1) ++
        ((',' :: lineBreak (depth + 1)).intercalate (xs.map write) ++
          (lineBreak depth ++ closing :: rest))) =
      some (xs, rest) := by
  induction xs generalizing steps with
  | nil =>
      exact absurd rfl hne
  | cons x xs ih =>
      obtain ⟨steps, rfl⟩ : ∃ n, steps = n + 1 :=
        Nat.exists_eq_succ_of_ne_zero (Nat.ne_of_gt (Nat.lt_of_lt_of_le (Nat.succ_pos _) hsteps))
      cases xs with
      | nil =>
          have hx := hentry x List.mem_cons_self _ (halts_lineBreak depth (closing :: rest))
          rw [List.map_singleton, List.intercalate_singleton, entries?, hx, Option.bind_some]
          simp only [skipSpaces_lineBreak, skipSpaces_cons hspace, hcomma, if_false, if_true]
      | cons y ys =>
          have hx := hentry x List.mem_cons_self (',' :: (lineBreak (depth + 1) ++
            ((',' :: lineBreak (depth + 1)).intercalate ((y :: ys).map write) ++
              (lineBreak depth ++ closing :: rest)))) (by rintro c ⟨⟩; rfl)
          have hys := ih (List.cons_ne_nil y ys)
            (fun z hz => hentry z (List.mem_cons_of_mem x hz)) (Nat.le_of_succ_le_succ hsteps)
          have htext : (',' :: lineBreak (depth + 1)).intercalate ((x :: y :: ys).map write) ++
              (lineBreak depth ++ closing :: rest) =
              write x ++ (',' :: (lineBreak (depth + 1) ++
                ((',' :: lineBreak (depth + 1)).intercalate ((y :: ys).map write) ++
                  (lineBreak depth ++ closing :: rest)))) := by
            simp only [List.map_cons, List.intercalate_cons_cons, List.append_assoc,
              List.cons_append]
          rw [htext, entries?, hx, Option.bind_some]
          simp only [skipSpaces_cons (show isSpace ',' = false from rfl), if_true, hys]
          rfl

/-- An entry is no longer than the list, and there are no more entries than characters. -/
theorem length_le_of_intercalate (separator : List Char) (hpos : 0 < separator.length)
    (ts : List (List Char)) :
    (∀ t ∈ ts, t.length ≤ (separator.intercalate ts).length) ∧
      ts.length ≤ (separator.intercalate ts).length + 1 := by
  induction ts with
  | nil =>
      exact ⟨nofun, Nat.zero_le _⟩
  | cons t ts ih =>
      cases ts with
      | nil =>
          rw [List.intercalate_singleton]
          exact ⟨List.forall_mem_singleton.2 (Nat.le_refl _), Nat.le_add_left 1 _⟩
      | cons u us =>
          obtain ⟨hlengths, hcount⟩ := ih
          rw [List.intercalate_cons_cons, List.length_append, List.length_append]
          refine ⟨List.forall_mem_cons.2 ⟨by omega, ?_⟩, ?_⟩
          · intro v hv
            have hlength := hlengths v hv
            omega
          · rw [List.length_cons]
            omega

theorem length_lt_of_enclosed (closing : Char) (depth : Nat) {ts : List (List Char)} {t : List Char}
    (ht : t ∈ ts) : t.length < (enclosed closing depth ts).length := by
  have hne : ts ≠ [] := List.ne_nil_of_mem ht
  obtain ⟨hlengths, -⟩ :=
    length_le_of_intercalate (',' :: lineBreak (depth + 1)) (Nat.succ_pos _) ts
  have hlength := hlengths t ht
  rw [enclosed, if_neg hne, List.length_append, List.length_append, List.length_append,
    List.length_singleton]
  omega

/-- Entries between brackets are read behind the opening bracket, also if there are none. -/
theorem list?_enclosed {item? : List Char → Option (α × List Char)} {closing : Char}
    {write : α → List Char} {depth : Nat} {xs : List α}
    (hcomma : closing ≠ ',') (hspace : isSpace closing = false)
    (hfirst : ∀ x ∈ xs, ∃ c cs, write x = c :: cs ∧ isSpace c = false ∧ c ≠ closing)
    (hentry : ∀ x ∈ xs, ∀ rest, Halts rest →
      item? (lineBreak (depth + 1) ++ (write x ++ rest)) = some (x, rest)) (rest : List Char) :
    list? item? closing (enclosed closing depth (xs.map write) ++ rest) = some (xs, rest) := by
  cases xs with
  | nil =>
      show list? item? closing (closing :: rest) = _
      simp only [list?, skipSpaces_cons hspace, if_true]
  | cons x xs =>
      have hne : (x :: xs).map write ≠ [] := List.cons_ne_nil _ _
      obtain ⟨c, cs, hwritten, hc, hopens⟩ := hfirst x List.mem_cons_self
      have htext : enclosed closing depth ((x :: xs).map write) ++ rest =
          lineBreak (depth + 1) ++
            ((',' :: lineBreak (depth + 1)).intercalate ((x :: xs).map write) ++
              (lineBreak depth ++ closing :: rest)) := by
        rw [enclosed, if_neg hne]
        simp only [List.append_assoc, List.singleton_append]
      obtain ⟨cs', hbegins⟩ : ∃ cs', (',' :: lineBreak (depth + 1)).intercalate
          ((x :: xs).map write) = c :: cs' := by
        rw [List.map_cons, hwritten]
        cases xs.map write with
        | nil =>
            exact ⟨cs, List.intercalate_singleton⟩
        | cons t ts =>
            exact ⟨_, by rw [List.intercalate_cons_cons, List.cons_append, List.cons_append]⟩
      have hsteps : (x :: xs).length ≤
          (enclosed closing depth ((x :: xs).map write) ++ rest).length := by
        obtain ⟨-, hcount⟩ := length_le_of_intercalate (',' :: lineBreak (depth + 1))
          (Nat.succ_pos _) ((x :: xs).map write)
        have hbreak : 1 ≤ (lineBreak (depth + 1)).length := Nat.le_add_left 1 _
        rw [List.length_map] at hcount
        rw [htext, List.length_append, List.length_append]
        omega
      have hskip : skipSpaces (enclosed closing depth ((x :: xs).map write) ++ rest) =
          c :: (cs' ++ (lineBreak depth ++ closing :: rest)) := by
        rw [htext, skipSpaces_lineBreak, hbegins, List.cons_append, skipSpaces_cons hc]
      rw [list?, hskip]
      simp only [if_neg hopens]
      rw [htext] at hsteps ⊢
      exact entries?_intercalate (List.cons_ne_nil x xs) hcomma hspace hentry hsteps rest

end Entries

/-! ### Documents -/

/-- A name in quotation marks, a colon and a value, and the text after them. -/
def member? (value? : List Char → Option (Json × List Char)) (cs : List Char) :
    Option ((String × Json) × List Char) :=
  match skipSpaces cs with
  | '"' :: cs =>
    (string? cs).bind fun name =>
      match skipSpaces name.2 with
      | ':' :: cs => (value? cs).map fun r => ((name.1, r.1), r.2)
      | _ => none
  | _ => none

/-- The value at the front of a text, if it has at most `levels` levels, and the text after it. -/
def value? : (levels : Nat) → List Char → Option (Json × List Char)
  | 0, _ => none
  | levels + 1, cs =>
    match skipSpaces cs with
    | 'n' :: 'u' :: 'l' :: 'l' :: cs => some (null, cs)
    | 't' :: 'r' :: 'u' :: 'e' :: cs => some (bool true, cs)
    | 'f' :: 'a' :: 'l' :: 's' :: 'e' :: cs => some (bool false, cs)
    | '"' :: cs => (string? cs).map fun r => (text r.1, r.2)
    | '[' :: cs => (list? (value? levels) ']' cs).map fun r => (array r.1, r.2)
    | '{' :: cs => (list? (member? (value? levels)) '}' cs).map fun r => (object r.1, r.2)
    | '-' :: cs => (natural? cs).map fun r => (int (-r.1), r.2)
    | cs => (natural? cs).map fun r => (int r.1, r.2)

/-- The document that a text holds, if there is nothing but blanks around it. -/
def read? (s : String) : Option Json :=
  let cs := s.toList
  (value? cs.length cs).bind fun r => if r.2.all isSpace then some r.1 else none

/-- The blanks before a value do not matter. -/
theorem value?_append {blanks : List Char} (h : ∀ c ∈ blanks, isSpace c = true) (levels : Nat)
    (cs : List Char) : value? levels (blanks ++ cs) = value? levels cs := by
  cases levels with
  | zero =>
      rfl
  | succ levels =>
      rw [value?, value?, skipSpaces_append h]

theorem value?_mark (levels : Nat) (cs : List Char) :
    value? (levels + 1) ('"' :: cs) = (string? cs).map fun r => (text r.1, r.2) := rfl

theorem value?_bracket (levels : Nat) (cs : List Char) :
    value? (levels + 1) ('[' :: cs) =
      (list? (value? levels) ']' cs).map fun r => (array r.1, r.2) := rfl

theorem value?_brace (levels : Nat) (cs : List Char) :
    value? (levels + 1) ('{' :: cs) =
      (list? (member? (value? levels)) '}' cs).map fun r => (object r.1, r.2) := rfl

theorem value?_minus (levels : Nat) (cs : List Char) :
    value? (levels + 1) ('-' :: cs) = (natural? cs).map fun r => (int (-r.1), r.2) := rfl

theorem ne_of_isDigit {c d : Char} (h : c.isDigit = true) (hd : d.isDigit = false) : c ≠ d := by
  rintro rfl
  cases h.symm.trans hd

theorem isSpace_of_isDigit {c : Char} (h : c.isDigit = true) : isSpace c = false := by
  simp only [isSpace, Bool.or_eq_false_iff, beq_eq_false_iff_ne]
  exact ⟨⟨⟨ne_of_isDigit h rfl, ne_of_isDigit h rfl⟩, ne_of_isDigit h rfl⟩, ne_of_isDigit h rfl⟩

theorem value?_digit {c : Char} (h : c.isDigit = true) (levels : Nat) (cs : List Char) :
    value? (levels + 1) (c :: cs) = (natural? (c :: cs)).map fun r => (int r.1, r.2) := by
  rw [value?, skipSpaces_cons (isSpace_of_isDigit h)]
  split
  case h_8 =>
      rfl
  all_goals
    rename_i heq
    exact absurd (List.cons.inj heq).1 (ne_of_isDigit h rfl)

theorem renderItems_eq (depth : Nat) (items : List Json) :
    renderItems depth items = items.map (renderAt depth) := by
  induction items with
  | nil =>
      rfl
  | cons item items ih =>
      rw [renderItems, ih, List.map_cons]

/-- A field as it is written. -/
def writeField (depth : Nat) (field : String × Json) : String :=
  escape field.1 ++ ": " ++ renderAt depth field.2

theorem renderFields_eq (depth : Nat) (fields : List (String × Json)) :
    renderFields depth fields = fields.map (writeField depth) := by
  induction fields with
  | nil =>
      rfl
  | cons field fields ih =>
      rw [renderFields, ih, List.map_cons]
      rfl

theorem toList_escape (s : String) :
    (escape s).toList = '"' :: (s.toList.flatMap escapeChar ++ ['"']) := by
  rw [escape, String.toList_ofList, List.cons_append]

theorem exists_writeField (depth : Nat) (field : String × Json) :
    ∃ c cs, (writeField depth field).toList = c :: cs ∧ isSpace c = false ∧ c ≠ '}' := by
  rw [writeField, String.toList_append, String.toList_append, toList_escape]
  exact ⟨'"', _, rfl, rfl, by decide⟩

theorem length_le_of_writeField (depth : Nat) (field : String × Json) :
    (renderAt depth field.2).toList.length ≤ (writeField depth field).toList.length := by
  rw [writeField, String.toList_append, List.length_append]
  exact Nat.le_add_left _ _

theorem toList_array (depth : Nat) (items : List Json) :
    (renderAt depth (array items)).toList =
      '[' :: enclosed ']' depth (items.map fun item => (renderAt (depth + 1) item).toList) := by
  rw [renderAt, toList_enclose (c := '[') (d := ']') rfl rfl, renderItems_eq, List.map_map]
  rfl

theorem toList_object (depth : Nat) (fields : List (String × Json)) :
    (renderAt depth (object fields)).toList =
      '{' :: enclosed '}' depth
        (fields.map fun field => (writeField (depth + 1) field).toList) := by
  rw [renderAt, toList_enclose (c := '{') (d := '}') rfl rfl, renderFields_eq, List.map_map]
  rfl

theorem length_lt_of_mem_array {items : List Json} {item : Json} (h : item ∈ items) (depth : Nat) :
    (renderAt (depth + 1) item).toList.length < (renderAt depth (array items)).toList.length := by
  have hlength := length_lt_of_enclosed ']' depth
    (List.mem_map_of_mem (f := fun item => (renderAt (depth + 1) item).toList) h)
  rw [toList_array, List.length_cons]
  exact Nat.lt_succ_of_lt hlength

theorem length_lt_of_mem_object {fields : List (String × Json)} {field : String × Json}
    (h : field ∈ fields) (depth : Nat) : (renderAt (depth + 1) field.2).toList.length <
      (renderAt depth (object fields)).toList.length := by
  have hlength := length_lt_of_enclosed '}' depth
    (List.mem_map_of_mem (f := fun field => (writeField (depth + 1) field).toList) h)
  rw [toList_object, List.length_cons]
  exact Nat.lt_succ_of_lt (Nat.lt_of_le_of_lt (length_le_of_writeField (depth + 1) field) hlength)

/-- A field is read if its value is, which stands behind a blank. -/
theorem member?_writeField {read? : List Char → Option (Json × List Char)} {depth : Nat}
    {field : String × Json} {rest : List Char}
    (h : read? (' ' :: ((renderAt depth field.2).toList ++ rest)) = some (field.2, rest)) :
    member? read? (lineBreak depth ++ ((writeField depth field).toList ++ rest)) =
      some (field, rest) := by
  have hcolon : (": " : String).toList = [':', ' '] := rfl
  have htext : (writeField depth field).toList ++ rest = '"' ::
      (field.1.toList.flatMap escapeChar ++ '"' ::
        ':' :: ' ' :: ((renderAt depth field.2).toList ++ rest)) := by
    simp only [writeField, String.toList_append, toList_escape, hcolon, List.append_assoc,
      List.cons_append, List.nil_append]
  rw [member?, htext, skipSpaces_lineBreak, skipSpaces_cons rfl]
  simp only [string?_escape, Option.bind_some, skipSpaces_cons (show isSpace ':' = false from rfl),
    h, Option.map_some]

theorem toList_int (n : Int) :
    (toString n).toList =
      if 0 ≤ n then Nat.toDigits 10 n.toNat else '-' :: Nat.toDigits 10 (-n).toNat := by
  show n.repr.toList = _
  rw [Int.repr_eq_if]
  by_cases hn : 0 ≤ n
  · rw [if_pos hn, if_pos hn, Nat.repr_eq_ofList_toDigits, String.toList_ofList]
  · have hminus : ("-" : String).toList = ['-'] := rfl
    rw [if_neg hn, if_neg hn, Nat.repr_eq_ofList_toDigits, String.toList_append, hminus,
      String.toList_ofList, List.singleton_append]

/-- A value is not written with a blank or a closing bracket in front. -/
theorem exists_renderAt (depth : Nat) (j : Json) :
    ∃ c cs, (renderAt depth j).toList = c :: cs ∧ isSpace c = false ∧ c ≠ ']' := by
  cases j with
  | null =>
      rw [renderAt]
      exact ⟨'n', _, rfl, rfl, by decide⟩
  | bool b =>
      rw [renderAt]
      cases b with
      | false =>
          exact ⟨'f', _, rfl, rfl, by decide⟩
      | true =>
          exact ⟨'t', _, rfl, rfl, by decide⟩
  | int n =>
      rw [renderAt, toList_int]
      by_cases hn : 0 ≤ n
      · obtain ⟨c, cs, hdigits, hdigit⟩ := exists_toDigits n.toNat
        rw [if_pos hn]
        exact ⟨c, cs, hdigits, isSpace_of_isDigit hdigit, ne_of_isDigit hdigit rfl⟩
      · rw [if_neg hn]
        exact ⟨'-', _, rfl, rfl, by decide⟩
  | text s =>
      rw [renderAt, toList_escape]
      exact ⟨'"', _, rfl, rfl, by decide⟩
  | array items =>
      rw [toList_array]
      exact ⟨'[', _, rfl, rfl, by decide⟩
  | object fields =>
      rw [toList_object]
      exact ⟨'{', _, rfl, rfl, by decide⟩

/-- A number as it is written is read, whatever follows it but a digit. -/
theorem value?_int (levels : Nat) (n : Int) {rest : List Char} (hrest : Halts rest) :
    value? (levels + 1) ((toString n).toList ++ rest) = some (int n, rest) := by
  rw [toList_int]
  by_cases hn : 0 ≤ n
  · obtain ⟨c, cs, hdigits, hdigit⟩ := exists_toDigits n.toNat
    have hread := natural?_toDigits n.toNat hrest
    rw [if_pos hn]
    rw [hdigits, List.cons_append] at hread ⊢
    rw [value?_digit hdigit, hread, Option.map_some, Int.toNat_of_nonneg hn]
  · rw [if_neg hn, List.cons_append, value?_minus, natural?_toDigits _ hrest, Option.map_some]
    have hvalue : -((-n).toNat : Int) = n := by omega
    rw [hvalue]

/-- An array is read if its items are. -/
theorem value?_array {levels depth : Nat} {items : List Json}
    (h : ∀ item ∈ items, ∀ rest, Halts rest →
      value? levels ((renderAt (depth + 1) item).toList ++ rest) = some (item, rest))
    (rest : List Char) : value? (levels + 1) ((renderAt depth (array items)).toList ++ rest) =
      some (array items, rest) := by
  have hread : list? (value? levels) ']' (enclosed ']' depth
      (items.map fun item => (renderAt (depth + 1) item).toList) ++ rest) = some (items, rest) := by
    refine list?_enclosed (by decide) rfl (fun item _ => exists_renderAt _ item) ?_ rest
    intro item hitem rest' hrest'
    rw [value?_append fun _ => isSpace_of_mem_lineBreak]
    exact h item hitem rest' hrest'
  rw [toList_array, List.cons_append, value?_bracket, hread, Option.map_some]

/-- An object is read if the values of its fields are. -/
theorem value?_object {levels depth : Nat} {fields : List (String × Json)}
    (h : ∀ field ∈ fields, ∀ rest, Halts rest →
      value? levels ((renderAt (depth + 1) field.2).toList ++ rest) = some (field.2, rest))
    (rest : List Char) : value? (levels + 1) ((renderAt depth (object fields)).toList ++ rest) =
      some (object fields, rest) := by
  have hread : list? (member? (value? levels)) '}' (enclosed '}' depth
      (fields.map fun field => (writeField (depth + 1) field).toList) ++ rest) =
      some (fields, rest) := by
    refine list?_enclosed (by decide) rfl (fun field _ => exists_writeField _ field) ?_ rest
    intro field hfield rest' hrest'
    refine member?_writeField ?_
    rw [← List.singleton_append, value?_append (List.forall_mem_singleton.2 rfl)]
    exact h field hfield rest' hrest'
  rw [toList_object, List.cons_append, value?_brace, hread, Option.map_some]

/-- A value as it is written is read, whatever follows it but a digit. -/
theorem value?_renderAt {levels : Nat} (j : Json) (depth : Nat)
    (hlevels : (renderAt depth j).toList.length ≤ levels) {rest : List Char} (hrest : Halts rest) :
    value? levels ((renderAt depth j).toList ++ rest) = some (j, rest) := by
  induction levels generalizing j depth rest with
  | zero =>
      obtain ⟨c, cs, hwritten, -⟩ := exists_renderAt depth j
      rw [hwritten] at hlevels
      cases hlevels
  | succ levels ih =>
      cases j with
      | null =>
          rw [renderAt]
          rfl
      | bool b =>
          rw [renderAt]
          cases b <;> rfl
      | int n =>
          rw [renderAt]
          exact value?_int levels n hrest
      | text s =>
          rw [renderAt, toList_escape, List.cons_append, List.append_assoc, List.singleton_append,
            value?_mark, string?_escape, Option.map_some]
      | array items =>
          refine value?_array (fun item hitem rest' hrest' => ?_) rest
          have hlength := length_lt_of_mem_array hitem depth
          exact ih item (depth + 1) (by omega) hrest'
      | object fields =>
          refine value?_object (fun field hfield rest' hrest' => ?_) rest
          have hlength := length_lt_of_mem_object hfield depth
          exact ih field.2 (depth + 1) (by omega) hrest'

theorem halts_of_blank {cs : List Char} (h : ∀ c ∈ cs, isSpace c = true) : Halts cs := by
  intro c hc
  cases hdigit : c.isDigit with
  | false =>
      rfl
  | true =>
      have hspace := h c (List.mem_of_mem_head? hc)
      cases hspace.symm.trans (isSpace_of_isDigit hdigit)

/-- Every document is read as it was written, whatever blanks follow it. -/
theorem read?_render (j : Json) {blanks : String}
    (hblanks : ∀ c ∈ blanks.toList, isSpace c = true) : read? (j.render ++ blanks) = some j := by
  have hlength : (renderAt 0 j).toList.length ≤
      ((renderAt 0 j).toList ++ blanks.toList).length := by
    rw [List.length_append]
    exact Nat.le_add_right _ _
  have hread := value?_renderAt j 0 hlength (halts_of_blank hblanks)
  rw [read?, render, String.toList_append, hread, Option.bind_some]
  exact if_pos (List.all_eq_true.2 hblanks)

-- Other ways of writing a document are read as well, but a text with two documents is not.
example : read? "[1,\"\\u00E9\\/\"]" = some (array [int 1, text "é/"]) := by cbv

example : read? "[1] []" = none := by cbv

end Json
end ReplicaRead
