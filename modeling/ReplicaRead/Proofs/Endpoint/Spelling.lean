import ReplicaRead.Endpoint.Address
import ReplicaRead.Proofs.Text.Numerals

/-!
# Spellings of endpoints

The texts that are read as endpoints are described without saying how they are read: blank
characters, a host, a colon, the digits of a port, blank characters. A host may hold colons, and
blank characters except at its front. The digits may be of any script, and their value is a port.

Each such text can be taken apart in one way only, and names one endpoint: the port is the value of
the digits, and the host is the written one without the brackets at its ends. All other texts are
rejected as values that are not allowed.

Results: `Endpoint.parse_eq_ok_iff`, `Endpoint.Spelling`, `Endpoint.Spelling.parse_text`,
`Endpoint.exists_spelling_of_parse` and `Endpoint.parse_exact`.
-/

namespace ReplicaRead
namespace Endpoint

/-! ### The last separator -/

theorem splitLast?_eq_none_iff {sep : Char} {cs : List Char} :
    splitLast? sep cs = none ↔ sep ∉ cs := by
  induction cs with
  | nil =>
      simp [splitLast?]
  | cons c cs ih =>
      rw [splitLast?, List.mem_cons, not_or, ← ih]
      cases splitLast? sep cs with
      | none =>
          simp [eq_comm]
      | some parts =>
          simp

/-- A list is split at the separator behind which there is no other. -/
theorem splitLast?_append {sep : Char} (front : List Char) {back : List Char} (h : sep ∉ back) :
    splitLast? sep (front ++ sep :: back) = some (front, back) := by
  induction front with
  | nil =>
      simp [splitLast?, splitLast?_eq_none_iff.2 h]
  | cons c front ih =>
      rw [List.cons_append, splitLast?, ih]

theorem eq_append_of_splitLast? {sep : Char} {cs front back : List Char}
    (h : splitLast? sep cs = some (front, back)) : cs = front ++ sep :: back ∧ sep ∉ back := by
  induction cs generalizing front with
  | nil =>
      cases h
  | cons c cs ih =>
      rw [splitLast?] at h
      cases hrest : splitLast? sep cs with
      | none =>
          simp only [hrest, Option.ite_none_right_eq_some, Option.some.injEq, Prod.mk.injEq] at h
          obtain ⟨rfl, rfl, rfl⟩ := h
          exact ⟨rfl, splitLast?_eq_none_iff.1 hrest⟩
      | some parts =>
          simp only [hrest, Option.some.injEq, Prod.mk.injEq] at h
          obtain ⟨rfl, rfl⟩ := h
          obtain ⟨hcs, hback⟩ := ih hrest
          exact ⟨congrArg (c :: ·) hcs, hback⟩

/-! ### Hosts and ports -/

theorem eq_of_parts {e e' : Endpoint} (hhost : e.host = e'.host) (hport : e.port = e'.port) :
    e = e' := by
  cases e
  cases e'
  cases hhost
  cases hport
  rfl

/-- Every endpoint is made of its host and its port. -/
theorem make_eq_ok_iff {host : String} {port : Int} {e : Endpoint} :
    make host port = .ok e ↔ e.host = host ∧ (e.port : Int) = port := by
  rw [make]
  constructor
  · intro h
    split at h
    · rename_i hport
      cases h
      exact ⟨rfl, Int.toNat_of_nonneg (by omega)⟩
    · cases h
  · rintro ⟨rfl, rfl⟩
    have hone := e.one_le_port
    have hle := e.port_le
    rw [dif_pos ⟨by omega, by omega⟩, Except.ok.injEq]
    exact eq_of_parts rfl rfl

/-! ### The parts of a text -/

/-- A host and digits are an endpoint exactly if the digits have values that make a port. -/
theorem ofParts_eq_ok_iff {host port : List Char} (hport : port ≠ [])
    (hdigits : ∀ c ∈ port, Text.isDigit c = true) {e : Endpoint} :
    ofParts host port = .ok e ↔
      ∃ ds : List Nat, port.map Text.digitValue? = ds.map some ∧
        e.port = Nat.ofDigits 10 ds.reverse ∧
        e.host = String.ofList (Text.stripEnds isBracket host) := by
  rw [ofParts]
  constructor
  · intro h
    split at h
    · rename_i n hn
      obtain ⟨-, ds, hds, rfl⟩ := (Text.integer?_eq_some_iff hdigits).1 hn
      obtain ⟨hmade, hvalue⟩ := make_eq_ok_iff.1 h
      exact ⟨ds, hds, Int.ofNat.inj hvalue, hmade⟩
    · cases h
  · rintro ⟨ds, hds, hvalue, hmade⟩
    have hn : Text.integer? port = some (Nat.ofDigits 10 ds.reverse : Nat) :=
      (Text.integer?_eq_some_iff hdigits).2 ⟨hport, ds, hds, rfl⟩
    simp only [hn, ← hvalue]
    exact make_eq_ok_iff.2 ⟨hmade, rfl⟩

/-- A text is read by its last colon: there is a host in front of it, and behind it are digits. -/
theorem parse_eq_ok_iff {text : String} {e : Endpoint} :
    parse text = .ok e ↔ ∃ host port,
      splitLast? ':' (Text.trim text.toList) = some (host, port) ∧ host ≠ [] ∧ port ≠ [] ∧
        (∀ c ∈ port, Text.isDigit c = true) ∧ ofParts host port = .ok e := by
  rw [parse]
  cases hsplit : splitLast? ':' (Text.trim text.toList) with
  | none =>
      simp
  | some parts =>
      obtain ⟨host, port⟩ := parts
      have hbad : (host.isEmpty || port.isEmpty || !port.all Text.isDigit) = true ↔
          ¬ (host ≠ [] ∧ port ≠ [] ∧ ∀ c ∈ port, Text.isDigit c = true) := by
        simp [imp_iff_not_or, or_assoc]
      by_cases hgood : host ≠ [] ∧ port ≠ [] ∧ ∀ c ∈ port, Text.isDigit c = true
      · simp only [hbad, ite_not, if_pos hgood]
        constructor
        · intro h
          exact ⟨host, port, rfl, hgood.1, hgood.2.1, hgood.2.2, h⟩
        · rintro ⟨_, _, ⟨⟩, -, -, -, h⟩
          exact h
      · simp only [hbad, ite_not, if_neg hgood]
        constructor
        · intro h
          cases h
        · rintro ⟨_, _, ⟨⟩, hhost, hport, hdigits, -⟩
          exact absurd ⟨hhost, hport, hdigits⟩ hgood

/-! ### Spellings -/

/-- A way to spell an endpoint, by the parts of the text. -/
structure Spelling where
  before : List Char
  host : List Char
  port : List Char
  /-- The values of the digits of the port. -/
  digits : List Nat
  after : List Char
  blank_before : ∀ c ∈ before, Text.isBlank c = true
  host_ne_nil : host ≠ []
  host_head : ∀ c ∈ host.head?, Text.isBlank c = false
  port_ne_nil : port ≠ []
  port_values : port.map Text.digitValue? = digits.map some
  one_le_port : 1 ≤ Nat.ofDigits 10 digits.reverse
  port_le : Nat.ofDigits 10 digits.reverse ≤ 65535
  blank_after : ∀ c ∈ after, Text.isBlank c = true

namespace Spelling

variable (s : Spelling)

/-- The characters of the text. -/
def chars : List Char :=
  s.before ++ (s.host ++ ':' :: s.port) ++ s.after

def text : String :=
  String.ofList s.chars

/-- The value of the digits of the port, in base ten. -/
def portNumber : Nat :=
  Nat.ofDigits 10 s.digits.reverse

/-- A spelling names the endpoint with its port, and with its host less the brackets at the ends. -/
structure Names (e : Endpoint) : Prop where
  host : Text.IsCore isBracket s.host e.host.toList
  port : e.port = s.portNumber

/-- The endpoint that a spelling names. -/
def endpoint : Endpoint :=
  ⟨String.ofList (Text.stripEnds isBracket s.host), s.portNumber, s.one_le_port, s.port_le⟩

theorem names_iff (e : Endpoint) : s.Names e ↔ s.endpoint = e := by
  constructor
  · intro h
    refine eq_of_parts ?_ h.port.symm
    rw [endpoint, h.host.stripEnds_eq, String.ofList_toList]
  · rintro rfl
    refine ⟨?_, rfl⟩
    rw [endpoint, String.toList_ofList]
    exact Text.isCore_stripEnds _ _

theorem isDigit_port : ∀ c ∈ s.port, Text.isDigit c = true :=
  fun _ hc => Text.isDigit_of_values s.port_values hc

theorem colon_not_mem_port : ':' ∉ s.port :=
  Text.not_mem_of_digits s.isDigit_port (by decide)

/-- Without the blank characters at its ends, the text is host, colon and port. -/
theorem trim_chars : Text.trim s.chars = s.host ++ ':' :: s.port := by
  refine Text.IsCore.stripEnds_eq ⟨⟨s.before, s.after, rfl, s.blank_before, s.blank_after⟩, ?_, ?_⟩
  · rw [List.head?_append_of_ne_nil _ s.host_ne_nil]
    exact s.host_head
  · rw [List.getLast?_append, List.getLast?_cons_of_ne_nil s.port_ne_nil,
      List.getLast?_eq_some_getLast s.port_ne_nil, Option.some_or]
    rintro _ ⟨rfl⟩
    exact Text.isBlank_of_isDigit (s.isDigit_port _ (List.getLast_mem _))

/-- The blank characters in front are all those with which the text begins. -/
theorem takeWhile_chars : s.chars.takeWhile Text.isBlank = s.before := by
  obtain ⟨c, host, hhost⟩ := List.exists_cons_of_ne_nil s.host_ne_nil
  have hc : Text.isBlank c = false := by
    refine s.host_head c ?_
    rw [hhost]
    rfl
  rw [chars, hhost, List.append_assoc, List.takeWhile_append_of_pos s.blank_before]
  simp [hc]

theorem splitLast?_trim : splitLast? ':' (Text.trim s.chars) = some (s.host, s.port) := by
  rw [s.trim_chars, splitLast?_append s.host s.colon_not_mem_port]

/-- A spelling is read as the endpoint that it names. -/
theorem parse_text : parse s.text = .ok s.endpoint := by
  refine parse_eq_ok_iff.2
    ⟨s.host, s.port, ?_, s.host_ne_nil, s.port_ne_nil, s.isDigit_port, ?_⟩
  · rw [text, String.toList_ofList, s.splitLast?_trim]
  · exact (ofParts_eq_ok_iff s.port_ne_nil s.isDigit_port).2 ⟨s.digits, s.port_values, rfl, rfl⟩

end Spelling

/-! ### What is read -/

/-- Only spellings are read. -/
theorem exists_spelling_of_parse {text : String} {e : Endpoint} (h : parse text = .ok e) :
    ∃ s : Spelling, s.text = text ∧ s.endpoint = e := by
  obtain ⟨host, port, hsplit, hhost, hport, hisDigit, hparts⟩ := parse_eq_ok_iff.1 h
  obtain ⟨ds, hds, hvalue, hmade⟩ := (ofParts_eq_ok_iff hport hisDigit).1 hparts
  obtain ⟨htrim, -⟩ := eq_append_of_splitLast? hsplit
  have hcore : Text.IsCore Text.isBlank text.toList (host ++ ':' :: port) :=
    Text.stripEnds_eq_iff.1 htrim
  obtain ⟨before, after, htext, hbefore, hafter⟩ := hcore.around
  have hhead : ∀ c ∈ host.head?, Text.isBlank c = false := by
    rw [← List.head?_append_of_ne_nil host hhost]
    exact hcore.head
  let s : Spelling :=
    { before, host, port, digits := ds, after
      blank_before := hbefore
      host_ne_nil := hhost
      host_head := hhead
      port_ne_nil := hport
      port_values := hds
      one_le_port := hvalue ▸ e.one_le_port
      port_le := hvalue ▸ e.port_le
      blank_after := hafter }
  refine ⟨s, ?_, eq_of_parts hmade.symm hvalue.symm⟩
  rw [Spelling.text, Spelling.chars, ← htext, String.ofList_toList]

/-- A text can be taken apart in one way only. -/
theorem Spelling.eq_of_text {s t : Spelling} (h : s.text = t.text) : s = t := by
  have hchars : s.chars = t.chars := String.ofList_injective h
  have hparts : (s.host, s.port) = (t.host, t.port) := by
    rw [← Option.some_inj, ← s.splitLast?_trim, ← t.splitLast?_trim, hchars]
  obtain ⟨hhost, hport⟩ := Prod.mk.inj hparts
  have hdigits : s.digits = t.digits := by
    refine List.map_injective_iff.2 (Option.some_injective Nat) ?_
    rw [← s.port_values, ← t.port_values, hport]
  have hbefore : s.before = t.before := by
    rw [← s.takeWhile_chars, ← t.takeWhile_chars, hchars]
  have hafter : s.after = t.after := by
    rw [Spelling.chars, Spelling.chars, hbefore, hhost, hport] at hchars
    exact List.append_cancel_left hchars
  cases s
  cases t
  cases hbefore
  cases hhost
  cases hport
  cases hdigits
  cases hafter
  rfl

/-- A text that is not read is not allowed as a value. -/
theorem kind_of_parse_error {text : String} {f : Fault} (h : parse text = .error f) :
    f.kind = .invalidValue := by
  rw [parse] at h
  split at h
  · split at h
    · cases h
      rfl
    · rw [ofParts] at h
      split at h
      · rw [make] at h
        split at h
        · cases h
        · cases h
          rfl
      · cases h
        rfl
  · cases h
    rfl

/-- A text is read exactly if it spells an endpoint. What is read is the endpoint that the spelling
names, and there is one spelling only. All other texts are rejected as values that are not
allowed. -/
theorem parse_exact (text : String) :
    ((∃ e, parse text = .ok e) ↔ ∃ s : Spelling, s.text = text) ∧
    (∀ s : Spelling, s.text = text → ∀ e, parse text = .ok e ↔ s.Names e) ∧
    (∀ s t : Spelling, s.text = text → t.text = text → s = t) ∧
    ∀ f, parse text = .error f → f.kind = .invalidValue := by
  refine ⟨⟨?accepted, ?spelled⟩, ?named, ?unique, fun f => kind_of_parse_error⟩
  case accepted =>
      rintro ⟨e, h⟩
      obtain ⟨s, hs, -⟩ := exists_spelling_of_parse h
      exact ⟨s, hs⟩
  case spelled =>
      rintro ⟨s, rfl⟩
      exact ⟨s.endpoint, s.parse_text⟩
  case named =>
      rintro s rfl e
      rw [s.parse_text, Except.ok.injEq, s.names_iff]
  case unique =>
      intro s t hs ht
      exact Spelling.eq_of_text (hs.trans ht.symm)

end Endpoint
end ReplicaRead
