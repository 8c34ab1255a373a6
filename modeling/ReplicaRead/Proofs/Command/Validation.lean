import ReplicaRead.Command.Run
import ReplicaRead.Proofs.Text.Stripping

/-!
# The validation of a command line

The command checks everything it was given before it does anything on the network. What the options
already guarantee is not checked again: the numbers for the block and the offset are not negative.
The rest is checked as a whole, so that one malformed endpoint is enough for a rejection, whatever
the others are.

Results: `Options.Bounded`, for the options that are read from arguments; `Command.sources_eq_nil_iff`,
when there are no endpoints; and `Command.view_cases`: either `Command.Validated` or
`Command.Invalid`.
-/

namespace ReplicaRead

/-! ### The options -/

/-- What holds of the numbers among the options of every command line. -/
structure Options.Bounded (options : Options) : Prop where
  blockLength : 0 ≤ options.blockLength
  offset : 0 ≤ options.offset
  retries : ∀ n, options.retries = some n → 0 ≤ n

namespace Options

theorem le_of_integer? {least n : Int} {s : String} (h : integer? (some least) s = some n) :
    least ≤ n := by
  have hleast := (Option.filter_eq_some_iff.1 h).2
  simpa using hleast

/-- A value that is given has been read. -/
theorem exists_read_of_optional {α : Type} {a : Arguments} {o : OptionName}
    {read : String → Option α} {x : α} (h : optional a o read = some (some x)) :
    ∃ s, read s = some x := by
  unfold optional at h
  split at h
  · cases h
  · rename_i s _
    simp only [Option.map_eq_some_iff, Option.some.injEq, exists_eq_right] at h
    exact ⟨s, h⟩

theorem bounded_of_ofArguments? {a : Arguments} {options : Options}
    (h : ofArguments? a = some options) : options.Bounded := by
  unfold ofArguments? at h
  simp only [Option.bind_eq_bind, Option.bind_eq_some_iff, Option.pure_def, Option.some.injEq] at h
  obtain ⟨_, -, _, -, _, -, blockLength?, hblock, blockLength, rfl, offset?, hoffset, _, -, _, -,
    retries?, hretries, rfl⟩ := h
  refine ⟨?_, ?_, ?_⟩
  · obtain ⟨s, hs⟩ := exists_read_of_optional hblock
    exact le_of_integer? hs
  · cases offset? with
    | none =>
        exact Int.le_refl 0
    | some n =>
        obtain ⟨s, hs⟩ := exists_read_of_optional hoffset
        exact le_of_integer? hs
  · rintro n rfl
    obtain ⟨s, hs⟩ := exists_read_of_optional hretries
    exact le_of_integer? hs

/-- The options of a command line are within their bounds. -/
theorem bounded_of_parse? {args : List String} {options : Options}
    (h : parse? args = some options) : options.Bounded := by
  obtain ⟨a, -, ha⟩ := Option.bind_eq_some_iff.1 h
  exact bounded_of_ofArguments? ha

/-- The length of the piece that is asked for: the given length if it is positive, else the
default. -/
def chunk (options : Options) (settings : Settings) : Int :=
  if 0 < options.length then options.length else settings.defaultChunkSize

end Options

namespace Command

/-! ### The endpoints -/

/-- A text that is trimmed to nothing is blank. -/
theorem trim_eq_nil_iff (cs : List Char) :
    Text.trim cs = [] ↔ ∀ c ∈ cs, Text.isBlank c = true :=
  Text.stripEnds_eq_nil_iff

/-- No endpoint is given: there are no nodes, or they are on standard input and its lines are
blank. -/
def Sourceless (options : Options) (stdin : String) : Prop :=
  options.nodes = [] ∨ ("-" ∈ options.nodes ∧
    ∀ line ∈ Text.breakLines stdin.toList, ∀ c ∈ line, Text.isBlank c = true)

theorem sources_eq_nil_iff (options : Options) (stdin : String) :
    sources options.nodes stdin = [] ↔ Sourceless options stdin := by
  unfold sources Sourceless
  by_cases hdash : "-" ∈ options.nodes
  · have hne : options.nodes ≠ [] := List.ne_nil_of_mem hdash
    rw [if_pos (List.contains_iff_mem.2 hdash), List.map_eq_nil_iff, List.filter_eq_nil_iff]
    simp [hne, hdash, trim_eq_nil_iff]
  · rw [if_neg (fun h => hdash (List.contains_iff_mem.1 h))]
    simp [hdash]

/-- Either all endpoints are read, or one of them is malformed. -/
theorem endpoints_cases (sources : List String) :
    (∃ es, endpoints sources = .ok es ∧ sources.map Endpoint.parse = es.map .ok) ∨
    ∃ f, endpoints sources = .error f ∧ ∃ s ∈ sources, Endpoint.parse s = .error f := by
  induction sources with
  | nil =>
      exact Or.inl ⟨[], rfl, rfl⟩
  | cons s sources ih =>
      unfold endpoints
      cases hparse : Endpoint.parse s with
      | error f =>
          exact Or.inr ⟨f, rfl, s, List.mem_cons_self, hparse⟩
      | ok e =>
          rcases ih with ⟨es, hrest, hall⟩ | ⟨f, hrest, s', hs', hfault⟩
          · rw [hrest]
            refine Or.inl ⟨e :: es, rfl, ?_⟩
            rw [List.map_cons, hparse, hall, List.map_cons]
          · rw [hrest]
            exact Or.inr ⟨f, rfl, s', List.mem_cons_of_mem _ hs', hfault⟩

/-! ### The view -/

/-- A view is made of the values that were given, all of which are allowed. -/
structure Validated (settings : Settings) (options : Options) (sources : List String) (view : View) :
    Prop where
  candidates : sources.map Endpoint.parse = view.candidates.map .ok
  token : Base64.decode? options.token.toList = some view.credential.token
  block : view.block.id = options.blockId ∧ view.block.stamp = options.genStamp ∧
    (view.block.length : Int) = options.blockLength
  offset : (view.range.offset : Int) = options.offset
  length : (view.range.length : Int) = options.chunk settings
  lines : view.withLines = options.lines

/-- Some value is not allowed: an endpoint is malformed, the token is not in Base64, or a number of
the range is negative. -/
def Invalid (settings : Settings) (options : Options) (sources : List String) : Prop :=
  (∃ s ∈ sources, ∀ e, Endpoint.parse s ≠ .ok e) ∨ Base64.decode? options.token.toList = none ∨
    options.offset < 0 ∨ options.chunk settings < 0

section View

variable {settings : Settings} {options : Options} {sources : List String} {v : View}

/-- The candidates are those that the sources name. -/
theorem Validated.exists_source (h : Validated settings options sources v) {e : Endpoint}
    (he : e ∈ v.candidates) : ∃ s ∈ sources, Endpoint.parse s = .ok e := by
  have hmem : Except.ok e ∈ sources.map Endpoint.parse := by
    rw [h.candidates]
    exact List.mem_map_of_mem he
  exact List.mem_map.1 hmem

/-- Either all values are allowed and the view is made of them, or there is no view. -/
theorem view_cases (settings : Settings) (h : options.Bounded) (sources : List String) :
    (∃ v, view settings options sources = .ok v ∧ Validated settings options sources v) ∨
    ∃ f, view settings options sources = .error f ∧ Invalid settings options sources := by
  have hsize : (ChunkWish.number options.length).size settings.defaultChunkSize =
      .ok (options.chunk settings) := rfl
  have hblock : Block.make options.blockId options.genStamp options.blockLength =
      .ok ⟨options.blockId, options.genStamp, options.blockLength.toNat⟩ :=
    if_neg (Int.not_lt.2 h.blockLength)
  unfold view credential
  rw [hblock, hsize]
  rcases endpoints_cases sources with ⟨es, hsources, hall⟩ | ⟨f, hsources, s, hs, hfault⟩
  · rw [hsources]
    cases htoken : Base64.decode? options.token.toList with
    | none =>
        exact Or.inr ⟨_, rfl, Or.inr (Or.inl htoken)⟩
    | some token =>
        show (∃ v, (ReadRange.make options.offset (options.chunk settings)).bind _ = _ ∧ _) ∨
          ∃ f, (ReadRange.make options.offset (options.chunk settings)).bind _ = _ ∧ _
        unfold ReadRange.make
        rw [if_neg (Int.not_lt.2 h.offset)]
        by_cases hchunk : options.chunk settings < 0
        · rw [if_pos hchunk]
          exact Or.inr ⟨_, rfl, Or.inr (Or.inr (Or.inr hchunk))⟩
        · rw [if_neg hchunk]
          exact Or.inl ⟨_, rfl, hall, htoken, ⟨rfl, rfl, Int.toNat_of_nonneg h.blockLength⟩,
            Int.toNat_of_nonneg h.offset, Int.toNat_of_nonneg (Int.not_lt.1 hchunk), rfl⟩
  · rw [hsources]
    refine Or.inr ⟨f, rfl, Or.inl ⟨s, hs, ?_⟩⟩
    intro e hparse
    rw [hfault] at hparse
    cases hparse

end View

end Command
end ReplicaRead
