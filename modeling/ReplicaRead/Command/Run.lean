import ReplicaRead.Command.Options
import ReplicaRead.Endpoint.Address
import ReplicaRead.Retrieval

/-!
# The command

Input: the arguments, a reader for them, the text of standard input, the settings and the network.

Algorithm: read the options; find the endpoints, on standard input if one of the nodes is `-`;
read the endpoints, the token, the block and the range, in this order, before anything is done on
the network; view the range; write one report. Failures of the system and values that are not
allowed make a report of a failure, an end of input ends the command, and any other fault escapes.

Results: `Command.runWith`, for any reader of the arguments; and `Command.run`.
-/

namespace ReplicaRead

/-- How the command ends. -/
inductive Ending where
  | exited (code : Nat)
  /-- With an end of input, of which nothing is said. -/
  | aborted
  | escaped (f : Fault)
  | unfinished
deriving DecidableEq

/-- The exit code of the command, if it ends. -/
def Ending.code? : Ending → Option Nat
  | exited code => some code
  | aborted | escaped _ => some 1
  | unfinished => none

structure CommandRun where
  ending : Ending
  stdout : String := ""
  stderr : Option String := none
  /-- From which level on it logs, once that is set. -/
  logLevel : Option Level := none
  notes : List Note := []
  written : Option String := none

namespace Command

/-- The texts of the endpoints: the nodes, or the lines of standard input that are not blank. -/
def sources (nodes : List String) (stdin : String) : List String :=
  if nodes.contains "-" then
    ((Text.breakLines stdin.toList).map Text.trim).filter (!·.isEmpty) |>.map String.ofList
  else nodes

/-- Reads the endpoints, up to the first that is malformed. -/
def endpoints : List String → Except Fault (List Endpoint)
  | [] => .ok []
  | s :: rest => do
    let e ← Endpoint.parse s
    let es ← endpoints rest
    return e :: es

def credential (token : String) : Except Fault Credential :=
  match Base64.decode? token.toList with
  | some bs => .ok ⟨bs⟩
  | none => .error .malformedToken

def view (settings : Settings) (options : Options) (sources : List String) : Except Fault View := do
  let candidates ← endpoints sources
  let credential ← credential options.token
  let block ← Block.make options.blockId options.genStamp options.blockLength
  let size ← (ChunkWish.number options.length).size settings.defaultChunkSize
  let range ← ReadRange.make options.offset size
  return { candidates, block, credential, range, withLines := options.lines }

def mode (options : Options) : Mode :=
  if options.sync then .sync else .async

def viewer (settings : Settings) (options : Options) : Viewer :=
  .ofChoices settings options.timeout
    { sessionTimeout := options.timeout, maxRetries := options.retries }

/-- The faults that make a report of a failure. -/
def isReported (f : Fault) : Bool :=
  f.isSystem || f.kind.isInvalidValue

/-- The faults that end the command without a word: the ends of input. -/
def isAbort (f : Fault) : Bool :=
  f.kind.isEndOfInput

def reportText (options : Options) (result : ViewResult) : String :=
  (result.report options.text).toJson.render ++ "\n"

/-- Writes a report to the file that was asked for, or to standard output. -/
def write (options : Options) (result : ViewResult) (code : Nat) (base : CommandRun) :
    CommandRun :=
  let text := reportText options result
  match options.output with
  | some _ => { base with ending := .exited code, written := some text }
  | none => { base with ending := .exited code, stdout := text }

/-- Views a range and writes the report. -/
def perform (settings : Settings) (options : Options) (view : View) (net : Network)
    (base : CommandRun) : CommandRun :=
  let r := readBlock (mode options) (viewer settings options) view net
  let base := { base with notes := r.notes }
  match r.outcome with
  | .ok result => write options result 0 base
  | .fault f =>
    if isReported f then write options (.failure (some f.message) 0) 1 base
    else if isAbort f then { base with ending := .aborted }
    else { base with ending := .escaped f }
  | .unfinished => { base with ending := .unfinished }

def logLevel (options : Options) : Level :=
  if options.verbose then .debug else .warning

/-- What the command does when its options are `options`. -/
def runOptions (settings : Settings) (options : Options) (stdin : String) (net : Network) :
    CommandRun :=
  let base : CommandRun := { ending := .exited 0, logLevel := some (logLevel options) }
  let sources := sources options.nodes stdin
  if sources.isEmpty then
    { base with ending := .exited 1, stderr := some "No replica endpoints given." }
  else
    match view settings options sources with
    | .error f =>
      { base with ending := .exited 2, stderr := some ("Invalid arguments: " ++ f.message) }
    | .ok view => perform settings options view net base

/-- What the command does when `parse?` reads its arguments. Arguments that do not fit end it with
exit code 2. -/
def runWith (parse? : List String → Option Options) (settings : Settings) (args : List String)
    (stdin : String) (net : Network) : CommandRun :=
  match parse? args with
  | none => { ending := .exited 2 }
  | some options => runOptions settings options stdin net

/-- What the command does. -/
def run (settings : Settings) (args : List String) (stdin : String) (net : Network) : CommandRun :=
  runWith Options.parse? settings args stdin net

end Command
end ReplicaRead
