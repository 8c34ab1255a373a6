import ReplicaRead.Proofs.Endpoint.Spelling

/-!
# The texts of endpoints, and reading them back

An endpoint is written with its host as it is, a colon, and its port in decimal. The port has no
colon, so the last colon of the text is the one between host and port, whatever the host is. Hence
different endpoints have different texts.

Reading takes away blank characters at the ends of the text and brackets at the ends of the host. So
an endpoint is read back from its text exactly if there is nothing of that kind at the ends of its
host, and there is a host at all. What follows the host is a colon, so blank characters at its end
stay.

An endpoint that has been read need not be of this kind: the brackets are taken away last. The law
for what has been read is an equivalence, with a condition on the text.

Results: `Endpoint.text_roundTrip`, `Endpoint.settled_iff_of_parse` and
`Endpoint.not_settled_bareBrackets`.
-/

namespace ReplicaRead
namespace Endpoint

/-! ### Texts -/

/-- The digits of the port, as they are written. -/
def portDigits (e : Endpoint) : List Char :=
  Nat.toDigits 10 e.port

theorem toList_text (e : Endpoint) : e.text.toList = e.host.toList ++ ':' :: e.portDigits := by
  simp [text, portDigits, String.toList_append]

theorem isDigit_portDigits (e : Endpoint) : ∀ c ∈ e.portDigits, Text.isDigit c = true :=
  fun _ hc => Text.isDigit_of_values (Text.map_digitValue?_toDigits e.port) hc

theorem splitLast?_text (e : Endpoint) :
    splitLast? ':' e.text.toList = some (e.host.toList, e.portDigits) := by
  rw [e.toList_text]
  exact splitLast?_append _ (Text.not_mem_of_digits e.isDigit_portDigits (by decide))

/-- Different endpoints have different texts. -/
theorem text_injective : Function.Injective text := by
  intro e e' h
  have hparts : (e.host.toList, e.portDigits) = (e'.host.toList, e'.portDigits) := by
    rw [← Option.some_inj, ← e.splitLast?_text, ← e'.splitLast?_text, h]
  obtain ⟨hhost, hport⟩ := Prod.mk.inj hparts
  refine eq_of_parts (String.toList_inj.1 hhost) ?_
  have hvalues : Text.decimalDigits e.port = Text.decimalDigits e'.port := by
    rw [Text.decimalDigits, ← portDigits, hport, portDigits, Text.decimalDigits]
  rw [← Text.ofDigits_decimalDigits e.port, hvalues, Text.ofDigits_decimalDigits]

/-! ### Reading back -/

/-- A host that is read as it is written. -/
structure Plain (host : String) : Prop where
  ne_nil : host.toList ≠ []
  head_not_blank : ∀ c ∈ host.toList.head?, Text.isBlank c = false
  head_not_bracket : ∀ c ∈ host.toList.head?, isBracket c = false
  last_not_bracket : ∀ c ∈ host.toList.getLast?, isBracket c = false

theorem Plain.isCore {host : String} (h : Plain host) :
    Text.IsCore isBracket host.toList host.toList :=
  Text.isCore_self h.head_not_bracket h.last_not_bracket

/-- The spelling of an endpoint by its text, when its host can be spelled. -/
def spelling (e : Endpoint) (hne : e.host.toList ≠ [])
    (hhead : ∀ c ∈ e.host.toList.head?, Text.isBlank c = false) : Spelling where
  before := []
  host := e.host.toList
  port := e.portDigits
  digits := Text.decimalDigits e.port
  after := []
  blank_before := nofun
  host_ne_nil := hne
  host_head := hhead
  port_ne_nil := Nat.toDigits_ne_nil
  port_values := Text.map_digitValue?_toDigits e.port
  one_le_port := (Text.ofDigits_decimalDigits e.port).symm ▸ e.one_le_port
  port_le := (Text.ofDigits_decimalDigits e.port).symm ▸ e.port_le
  blank_after := nofun

theorem text_spelling (e : Endpoint) (hne : e.host.toList ≠ [])
    (hhead : ∀ c ∈ e.host.toList.head?, Text.isBlank c = false) :
    (e.spelling hne hhead).text = e.text := by
  refine String.toList_inj.1 ?_
  rw [Spelling.text, String.toList_ofList, Spelling.chars, toList_text]
  exact List.append_nil _

/-- A spelling of the text of an endpoint has the host of the endpoint behind the blank
characters. -/
theorem Spelling.before_append_host {s : Spelling} {e : Endpoint} (h : s.text = e.text) :
    s.before ++ s.host = e.host.toList := by
  have hafter : ':' ∉ s.after := by
    intro hmem
    have hblank := s.blank_after ':' hmem
    revert hblank
    decide
  have hcolon : ':' ∉ s.port ++ s.after := by
    rw [List.mem_append, not_or]
    exact ⟨s.colon_not_mem_port, hafter⟩
  have hchars : e.text.toList = (s.before ++ s.host) ++ ':' :: (s.port ++ s.after) := by
    rw [← h, text, String.toList_ofList]
    simp [chars]
  have hsplit := e.splitLast?_text
  rw [hchars, splitLast?_append _ hcolon] at hsplit
  exact (Prod.mk.inj (Option.some.inj hsplit)).1

/-- An endpoint is read back from its text exactly if its host is plain. -/
theorem parse_text_iff (e : Endpoint) : parse e.text = .ok e ↔ Plain e.host := by
  constructor
  · intro h
    obtain ⟨s, htext, hs⟩ := exists_spelling_of_parse h
    have hcore : Text.IsCore isBracket s.host e.host.toList := ((s.names_iff e).2 hs).host
    -- The host that is written is part of the host, and has the host as a part.
    have hhost : s.host = e.host.toList := by
      obtain ⟨left, right, hwritten, -, -⟩ := hcore.around
      have hwhole := Spelling.before_append_host htext
      have hbefore : s.before = [] := by
        refine List.eq_nil_of_length_eq_zero ?_
        have hlong := congrArg List.length hwhole
        have hshort := congrArg List.length hwritten
        rw [List.length_append] at hlong
        rw [List.length_append, List.length_append] at hshort
        omega
      rwa [hbefore] at hwhole
    exact ⟨hhost ▸ s.host_ne_nil, hhost ▸ s.host_head, hcore.head, hcore.last⟩
  · intro h
    have hnames : (e.spelling h.ne_nil h.head_not_blank).Names e :=
      ⟨h.isCore, (Text.ofDigits_decimalDigits e.port).symm⟩
    rw [← e.text_spelling h.ne_nil h.head_not_blank, Spelling.parse_text,
      (Spelling.names_iff _ e).1 hnames]

/-- Different endpoints have different texts. And an endpoint is read back from its text exactly if
its host is not empty, does not begin with a blank character, and neither begins nor ends with a
bracket. -/
theorem text_roundTrip :
    Function.Injective text ∧ ∀ e : Endpoint, parse e.text = .ok e ↔ Plain e.host :=
  ⟨text_injective, parse_text_iff⟩

/-! ### Endpoints that have been read -/

/-- An endpoint with a host that does not begin with a blank character, and that is read back from
its text. -/
structure Settled (e : Endpoint) : Prop where
  host_ne_nil : e.host.toList ≠ []
  host_head : ∀ c ∈ e.host.toList.head?, Text.isBlank c = false
  parse_text : parse e.text = .ok e

/-- Behind the brackets with which the host begins there is another character of the host, and it is
not blank. -/
def Spelling.Opens (s : Spelling) : Prop :=
  ∃ brackets c rest, s.host = brackets ++ c :: rest ∧ (∀ b ∈ brackets, isBracket b = true) ∧
    isBracket c = false ∧ Text.isBlank c = false

/-- The first character behind the brackets is the first of the host that is read. -/
theorem Spelling.Names.settled_iff {s : Spelling} {e : Endpoint} (h : s.Names e) :
    Settled e ↔ s.Opens := by
  constructor
  · intro hsettled
    obtain ⟨left, right, hwritten, hleft, -⟩ := h.host.around
    obtain ⟨c, rest, hhost⟩ := List.exists_cons_of_ne_nil hsettled.host_ne_nil
    have hc : c ∈ e.host.toList.head? := by
      rw [hhost]
      rfl
    refine ⟨left, c, rest ++ right, ?_, hleft, h.host.head c hc, hsettled.host_head c hc⟩
    rw [hwritten, hhost, List.append_assoc, List.cons_append]
  · rintro ⟨brackets, c, rest, hwritten, hbrackets, hbracket, hblank⟩
    have hcore := h.host
    rw [hwritten] at hcore
    have hc : e.host.toList.head? = some c := hcore.head?_eq hbrackets hbracket
    have hne : e.host.toList ≠ [] := by
      intro hnil
      rw [hnil] at hc
      cases hc
    have hhead : ∀ x ∈ e.host.toList.head?, Text.isBlank x = false := by
      rw [hc]
      rintro _ ⟨rfl⟩
      exact hblank
    exact ⟨hne, hhead, (parse_text_iff e).2 ⟨hne, hhead, hcore.head, hcore.last⟩⟩

/-- An endpoint that has been read has a host that does not begin with a blank character, and is
read back from its text, exactly if the text has a character of the host behind the first brackets
and this is not blank. -/
theorem settled_iff_of_parse {text : String} {e : Endpoint} (h : parse text = .ok e) :
    Settled e ↔ ∃ s : Spelling, s.text = text ∧ s.Opens := by
  obtain ⟨s, htext, hs⟩ := exists_spelling_of_parse h
  rw [((s.names_iff e).2 hs).settled_iff]
  constructor
  · exact fun hopens => ⟨s, htext, hopens⟩
  · rintro ⟨t, ht, hopens⟩
    rwa [Spelling.eq_of_text (htext.trans ht.symm)]

/-- The law for a host in two pairs of brackets, and a port in digits of another script. -/
theorem settled_iff_of_parse_bracketed :
    parse " [[::1]]:٠٨٠\n" = .ok { host := "::1", port := 80 } ∧
      (Settled { host := "::1", port := 80 } ↔
        ∃ s : Spelling, s.text = " [[::1]]:٠٨٠\n" ∧ s.Opens) :=
  ⟨by decide +kernel, settled_iff_of_parse (by decide +kernel)⟩

/-- Brackets alone are read as an empty host, and what begins with a blank character in brackets as
a host that begins with it. -/
theorem not_settled_bareBrackets :
    (parse "[]:1" = .ok { host := "", port := 1 } ∧ ¬ Settled { host := "", port := 1 }) ∧
      parse "[ a]:1" = .ok { host := " a", port := 1 } ∧
        ¬ Settled { host := " a", port := 1 } := by
  refine ⟨⟨by decide +kernel, ?_⟩, by decide +kernel, ?_⟩
  · intro h
    exact h.host_ne_nil rfl
  · intro h
    have hhead := h.host_head ' ' rfl
    revert hhead
    decide

end Endpoint
end ReplicaRead
