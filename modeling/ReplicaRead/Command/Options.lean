import ReplicaRead.Text.Entry

/-!
# Command-line options

Input: the arguments of the command.

Algorithm: options stand anywhere among the arguments, as `--name value` or `--name=value`, up to
the argument `--`. Options of one letter may be joined behind one dash, the last of them with its
value. The argument after an option that takes a value is its value, whatever it looks like. Of an
option that is repeated the last value counts. Everything else is a node.

The option `--help`, after which nothing else is done, is left out: it counts as an argument that
does not fit.

Results: `Options.parse?`, which has no value if the arguments do not fit.
-/

namespace ReplicaRead

/-- The options of the command. -/
inductive OptionName where
  | blockId
  | genStamp
  | blockLength
  | offset
  | length
  | token
  | lines
  | text
  | sync
  | timeout
  | retries
  | output
  | verbose
deriving DecidableEq, Repr

namespace OptionName

def all : List OptionName :=
  [blockId, genStamp, blockLength, offset, length, token, lines, text, sync, timeout, retries,
    output, verbose]

def name : OptionName → String
  | blockId => "--block-id"
  | genStamp => "--gen-stamp"
  | blockLength => "--block-length"
  | offset => "--offset"
  | length => "--length"
  | token => "--token"
  | lines => "--lines"
  | text => "--text"
  | sync => "--sync"
  | timeout => "--timeout"
  | retries => "--retries"
  | output => "--output"
  | verbose => "--verbose"

def letter? : OptionName → Option Char
  | output => some 'o'
  | verbose => some 'v'
  | _ => none

/-- The options that are on or off and take no value. -/
def isFlag : OptionName → Bool
  | lines | text | sync | verbose => true
  | _ => false

def ofName? (s : String) : Option OptionName :=
  all.find? fun o => decide (o.name = s)

def ofLetter? (c : Char) : Option OptionName :=
  all.find? fun o => decide (o.letter? = some c)

end OptionName

/-- The arguments, taken apart. -/
structure Arguments where
  nodes : List String := []
  /-- The options with their values, in order; flags have the empty value. -/
  settings : List (OptionName × String) := []
deriving DecidableEq, Repr

namespace Arguments

def consNode (node : String) (a : Arguments) : Arguments :=
  { a with nodes := node :: a.nodes }

def consOptions (options : List (OptionName × String)) (a : Arguments) : Arguments :=
  { a with settings := options ++ a.settings }

/-- The text before the first `=` and the text after it. -/
def splitEquals (cs : List Char) : List Char × Option (List Char) :=
  match cs.dropWhile (· != '=') with
  | _ :: value => (cs.takeWhile (· != '='), some value)
  | [] => (cs, none)

/-- What joined letters say: flags, and then perhaps an option with a value, which is the rest of
the argument or, if there is none, the next argument. -/
structure Letters where
  flags : List OptionName := []
  last : Option (OptionName × List Char) := none

/-- Takes joined letters apart. -/
def letters? : List Char → Option Letters
  | [] => some {}
  | c :: cs => do
    let o ← OptionName.ofLetter? c
    if o.isFlag then
      let l ← letters? cs
      return { l with flags := o :: l.flags }
    else return { last := some (o, cs) }

/-- Takes an argument that begins with a dash apart: the options with values that it holds, and
the option whose value is the next argument. -/
def option? (arg : String) : Option (List (OptionName × String) × Option OptionName) :=
  let (name, value) := splitEquals arg.toList
  match OptionName.ofName? (String.ofList name), value with
  | some o, none => if o.isFlag then some ([(o, "")], none) else some ([], some o)
  | some o, some v => if o.isFlag then none else some ([(o, String.ofList v)], none)
  | none, _ =>
    if (arg.toList.take 2).all (· == '-') then none
    else do
      let l ← letters? (arg.toList.drop 1)
      let flags := l.flags.map fun o => (o, "")
      match l.last with
      | none => return (flags, none)
      | some (o, []) => return (flags, some o)
      | some (o, cs) => return (flags ++ [(o, String.ofList cs)], none)

/-- Whether an argument is an option: it begins with a dash and goes on. -/
def isDashed (arg : String) : Bool :=
  match arg.toList with
  | '-' :: _ :: _ => true
  | _ => false

def scan? : List String → Option Arguments
  | [] => some {}
  | arg :: rest =>
    if arg = "--" then some { nodes := rest }
    else if isDashed arg then
      match option? arg with
      | none => none
      | some (found, none) => (scan? rest).map (consOptions found)
      | some (found, some o) =>
        match rest with
        | [] => none
        | value :: rest => (scan? rest).map (consOptions (found ++ [(o, value)]))
    else (scan? rest).map (consNode arg)

/-- The value of an option: that of its last occurrence. -/
def value? (a : Arguments) (o : OptionName) : Option String :=
  (a.settings.reverse.find? fun s => decide (s.1 = o)).map (·.2)

def flag (a : Arguments) (o : OptionName) : Bool :=
  (a.value? o).isSome

end Arguments

/-- The options as they are used. -/
structure Options where
  nodes : List String
  blockId : Int
  genStamp : Int
  blockLength : Int
  offset : Int
  length : Int
  token : String
  lines : Bool
  text : Bool
  sync : Bool
  timeout : Option Binary64
  retries : Option Int
  output : Option String
  verbose : Bool
deriving DecidableEq, Repr

namespace Options

/-- The value of an integer option that is not below `least?`. -/
def integer? (least? : Option Int) (s : String) : Option Int :=
  (Text.Entry.integer? s).filter fun n => least?.all (· ≤ n)

/-- The least timeout, a thousandth of a second. -/
def minTimeout : Binary64 :=
  .ofScientific false 1 (-3)

/-- The value of a timeout that is not too short. -/
def timeout? (s : String) : Option Binary64 :=
  (Text.Entry.number? s).filter minTimeout.le

/-- Reads the value of an option, which may be missing. The outer value is missing if the inner one
cannot be read. -/
def optional {α : Type} (a : Arguments) (o : OptionName) (read : String → Option α) :
    Option (Option α) :=
  match a.value? o with
  | none => some none
  | some s => (read s).map some

def ofArguments? (a : Arguments) : Option Options := do
  let blockId ← (← optional a .blockId (integer? none))
  let genStamp ← optional a .genStamp (integer? none)
  let blockLength ← (← optional a .blockLength (integer? (some 0)))
  let offset ← optional a .offset (integer? (some 0))
  let length ← optional a .length (integer? none)
  let timeout ← optional a .timeout timeout?
  let retries ← optional a .retries (integer? (some 0))
  return {
    nodes := a.nodes
    blockId
    genStamp := genStamp.getD 0
    blockLength
    offset := offset.getD 0
    length := length.getD 0
    token := (a.value? .token).getD ""
    lines := a.flag .lines
    text := a.flag .text
    sync := a.flag .sync
    timeout
    retries
    output := a.value? .output
    verbose := a.flag .verbose }

/-- The options that a list of arguments gives. -/
def parse? (args : List String) : Option Options :=
  (Arguments.scan? args).bind ofArguments?

end Options
end ReplicaRead
