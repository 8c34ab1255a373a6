import ReplicaRead.Proofs.Command.Verdicts
import ReplicaRead.Proofs.Failures

/-!
# The failures that the command reports

The command turns the failures of a call into a report. On a network that fails only by the system it
does so for every call that is feasible, and for no other: the faults of a range too long for memory,
and of a request that does not fit its frame, are not among those that it handles.

Results: `Command.Accounted`, what is to be done; and `Command.run_accounted_iff`.
-/

namespace ReplicaRead
namespace Command

/-- An exit code and a document that agree. -/
inductive Tells : Nat → Json → Prop where
  | success {fields : List (String × Json)} :
      Tells 0 (.object (("success", .bool true) :: fields))
  | failure {error : String} :
      Tells 1 (.object [("success", .bool false), ("error", .text error), ("bytes_fetched", .int 0)])

/-- A command that has exited. If there was an endpoint and all values were allowed, it has written
one document, which agrees with the exit code. -/
structure Accounted (settings : Settings) (options : Options) (stdin : String) (r : CommandRun) :
    Prop where
  exits : ∃ code, r.ending = .exited code
  reports : ¬ Sourceless options stdin →
    ¬ Invalid settings options (sources options.nodes stdin) →
    ∃ code document, Wrote options r.notes code document r ∧ Tells code document

section Accounts

variable {settings : Settings} {options : Options} {stdin : String} {net : Network} {v : View}

/-- What is reported of a call agrees with the exit code. -/
theorem Reported.tells {sources : List String} {r : Run Network ViewResult} {code : Nat}
    {document : Json} (h : Reported settings options sources net r code document) :
    Tells code document := by
  cases h with
  | success hreturned hsource hdelivered hcount =>
      exact .success
  | failure hraised hkind =>
      exact .failure

/-- A report accounts for a command. -/
theorem Accounted.of_wrote {notes : List Note} {code : Nat} {document : Json} {r : CommandRun}
    (h : Wrote options notes code document r) (htells : Tells code document) :
    Accounted settings options stdin r :=
  ⟨⟨code, h.ending⟩, fun _ _ => ⟨code, document, { h with notes := rfl }, htells⟩⟩

/-- A command is accounted for exactly if its call ends as expected. -/
theorem perform_accounted_iff (hvalid : Validated settings options (sources options.nodes stdin) v) :
    Accounted settings options stdin (perform settings options v net (fresh options)) ↔
      (call settings options v net).outcome.IsExpected := by
  cases hcall : (call settings options v net).outcome with
  | ok result =>
      exact iff_of_true
        (.of_wrote (perform_of_ok hcall) (reported_of_ok hvalid hcall).tells) trivial
  | fault f =>
      cases hf : isReported f with
      | true =>
          exact iff_of_true (.of_wrote (perform_of_reported hcall hf) .failure)
            (Bool.or_eq_true_iff.1 hf)
      | false =>
          refine iff_of_false ?_ ?_
          · intro h
            obtain ⟨code, hends⟩ := h.exits
            exact perform_of_unreported hcall hf _ code hends
          · intro h
            have hreported : isReported f = true := Bool.or_eq_true_iff.2 h
            rw [hf] at hreported
            cases hreported
  | unfinished =>
      refine iff_of_false ?_ id
      intro h
      obtain ⟨code, hends⟩ := h.exits
      exact perform_of_unfinished hcall _ code hends

/-- A command that does nothing but exit is accounted for if it was given no endpoint or a value
that is not allowed. -/
theorem Accounted.of_rejected {code : Nat} {r : CommandRun} (hends : r.ending = .exited code)
    (h : Sourceless options stdin ∨ Invalid settings options (sources options.nodes stdin)) :
    Accounted settings options stdin r := by
  refine ⟨⟨code, hends⟩, ?_⟩
  intro hsources hinvalid
  rcases h with h | h
  · exact absurd h hsources
  · exact absurd h hinvalid

end Accounts

/-- On a network that fails only by the system, a command is accounted for exactly if its call is
feasible, in whatever way its arguments are read. -/
theorem run_accounted_iff {parse? : List String → Option Options} {args : List String}
    {options : Options} (hparse : parse? args = some options) (hbounded : options.Bounded)
    {settings : Settings} (hbuffer : 1 ≤ settings.bufferSize) (hretries : 0 ≤ settings.maxRetries)
    (stdin : String) {net : Network} (hscripts : net.AllScripts Script.OnlySystem) :
    Accounted settings options stdin (runWith parse? settings args stdin net) ↔
      (¬ Sourceless options stdin →
        ∀ v, view settings options (sources options.nodes stdin) = .ok v →
          (viewer settings options).Feasible (mode options) v net) := by
  rw [runWith_of_parse? hparse]
  by_cases hsources : Sourceless options stdin
  · rw [runOptions_of_sourceless hsources]
    exact iff_of_true (.of_rejected rfl (Or.inl hsources)) fun h => absurd hsources h
  rcases view_cases settings hbounded (sources options.nodes stdin) with
    ⟨v, hview, hvalid⟩ | ⟨f, hview, hinvalid⟩
  · have hleft : 0 ≤ (viewer settings options).streamer.maxRetries := by
      show 0 ≤ options.retries.getD settings.maxRetries
      cases hoption : options.retries with
      | none =>
          exact hretries
      | some n =>
          exact hbounded.retries n hoption
    rw [runOptions_of_view hsources hview, perform_accounted_iff hvalid, call,
      readBlock_isExpected_iff hbuffer hleft hscripts]
    constructor
    · intro h _ v' hv'
      rw [hview] at hv'
      cases hv'
      exact h
    · intro h
      exact h hsources v hview
  · rw [runOptions_of_invalid hsources hview]
    refine iff_of_true (.of_rejected rfl (Or.inr hinvalid)) ?_
    intro _ v hv
    rw [hview] at hv
    cases hv

/-! ### Runs on a network that hesitates -/

theorem onlySystem_patient : patient.AllScripts Script.OnlySystem := by
  intro endpoint script hscript
  have hquiet : ∀ f : Fault, none = some f → f.isSystem = true := by
    intro f hf
    cases hf
  simp only [patient, List.mem_cons, List.not_mem_nil, or_false] at hscript
  rcases hscript with rfl | rfl
  · refine ⟨⟨?_, hquiet, hquiet⟩, hquiet⟩
    intro f hf
    cases hf
  · refine ⟨⟨?_, hquiet, hquiet⟩, hquiet⟩
    intro f hf
    simp only [List.mem_cons] at hf
    rcases hf with hf | hf | hf | hf | hf <;> cases hf
    rfl

/-- What the command line for the first bytes of a block asks for can be carried out, whatever the
network. -/
theorem feasible_viewStart (net : Network) {v : View}
    (hview : view {} startOptions (sources startOptions.nodes "") = .ok v) :
    (viewer {} startOptions).Feasible (mode startOptions) v net := by
  have hstart : view {} startOptions (sources startOptions.nodes "") =
      .ok { candidates := [{ host := "a", port := 1 }], block := ⟨7, 0, 3⟩, credential := {}
            range := ⟨0, 2⟩ } := by
    rfl
  rw [hstart] at hview
  cases hview
  intro e notes net' _ amount hamount _
  cases hamount
  have hmemory : 2 ≤ (viewer {} startOptions).streamer.memory.size := by decide
  have hfits : Request.Fits { blockId := 7, stamp := 0, offset := 0, length := 2,
                              clientName := "blockview", token := [] } := by
    decide +kernel
  exact ⟨hmemory, fun _ _ _ => hfits⟩

/-- The command for the first bytes of a block is accounted for. -/
theorem accounted_viewStart :
    Accounted {} startOptions "" (run {} viewStart "" patient) :=
  (run_accounted_iff parse?_viewStart (Options.bounded_of_parse? parse?_viewStart) (by decide)
    (by decide) "" onlySystem_patient).2 fun _ _ hview => feasible_viewStart patient hview

/-- A command line for a block whose number does not fit a request. -/
def viewWide : List String :=
  ["a:1", "--block-id", "9223372036854775808", "--block-length", "3", "--length", "2", "--text"]

/-- The fault of a request that does not fit its frame escapes the command. -/
theorem not_accounted_viewWide :
    Options.parse? viewWide = some { startOptions with blockId := 9223372036854775808 } ∧
      patient.AllScripts Script.OnlySystem ∧
      (run {} viewWide "" patient).ending = .escaped .unencodable ∧
      ¬ Accounted {} { startOptions with blockId := 9223372036854775808 } ""
        (run {} viewWide "" patient) := by
  have hescapes : (run {} viewWide "" patient).ending = .escaped .unencodable := by
    decide +kernel
  refine ⟨by decide +kernel, onlySystem_patient, hescapes, ?_⟩
  intro h
  obtain ⟨code, hends⟩ := h.exits
  rw [hescapes] at hends
  cases hends

end Command
end ReplicaRead
