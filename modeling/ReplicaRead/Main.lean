import ReplicaRead.Command.Run
import ReplicaRead.Recording
import ReplicaRead.Settings.EnvFile
import ReplicaRead.Settings.Source
import Std.Async.DNS
import Std.Async.System
import Std.Async.TCP
import Std.Async.Timer
import Std.Time

/-!
# The program

Algorithm: the command is run on a recording of what the network has brought. The first event that
the recording has not seen is then done on the network, what it brings is recorded, and the command
is run again, until it does nothing new. What it writes is written then; what it logs is written as
soon as it is certain.

Results: `main`.
-/

namespace ReplicaRead
namespace Live

open Std.Async
open Std.Net (IPAddr SocketAddress)

/-! ### Faults of the system -/

/-- The number of a system error as it is shown: the system gives it below zero, as a word. -/
def errorNumber (code : UInt32) : Int :=
  Word.count 4 - (code.toNat : Int)

/-- The kind of a numbered system error. -/
def kindOf : Int → FaultKind
  | 32 => .brokenPipe
  | 104 => .connectionReset
  | 110 => .timeout
  | 111 => .connectionRefused
  | _ => .system

/-- A numbered system error as a fault. -/
def numberedFault (code : UInt32) (details : String) : Fault :=
  let n := errorNumber code
  .outside (kindOf n) (.numbered n details.capitalize) none

/-- An error of the system as a fault. -/
def faultOf : IO.Error → Fault
  | .resourceVanished code details | .noSuchThing _ code details | .timeExpired code details
  | .permissionDenied _ code details | .otherError code details => numberedFault code details
  | e => .outside .system (.message (toString e)) none

/-- The fault of waiting in vain. -/
def timeoutFault : Mode → Fault
  | .sync => .outside .timeout (.message "timed out") none
  | .async => .outside .timeout .silent none

def unknownHost : Fault :=
  .outside .nameLookup (.numbered (-2) "Name or service not known") none

def settle {α : Type} (p : Async α) : IO (Except Fault α) := do
  match ← p.block.toBaseIO with
  | .ok a => return .ok a
  | .error e => return .error (faultOf e)

def fault? {α : Type} : Except Fault α → Option Fault
  | .ok _ => none
  | .error f => some f

/-! ### Connections -/

/-- The connections, and what they have brought. -/
structure Wire where
  mode : Mode
  patience : Std.Time.Millisecond.Offset
  recording : Recording := {}
  sockets : Array (Option TCP.Socket.Client) := #[]

namespace Wire

/-- The connection of a number, if it is open. -/
def socket? (w : Wire) (link : Nat) : Option TCP.Socket.Client :=
  (w.sockets[link]?).join

/-- Connects to an address, or waits in vain. -/
def connectTo (w : Wire) (address : IPAddr) (port : UInt16) :
    IO (Except Fault TCP.Socket.Client) := do
  let socket ← TCP.Socket.Client.mk
  let address := match address with
    | .v4 a => SocketAddress.v4 ⟨a, port⟩
    | .v6 a => SocketAddress.v6 ⟨a, port⟩
  let connected : Async (Option TCP.Socket.Client) := do
    socket.connect address
    return some socket
  let waited : Async (Option TCP.Socket.Client) := do
    sleep w.patience
    return none
  return (← settle (Async.race connected waited)).bind fun
    | some socket => .ok socket
    | none => .error (timeoutFault w.mode)

/-- Connects to the first of some addresses that lets it. -/
def connectToAny (w : Wire) (port : UInt16) (last : Fault) :
    List IPAddr → IO (Except Fault TCP.Socket.Client)
  | [] => return .error last
  | address :: rest => do
    match ← w.connectTo address port with
    | .ok socket => return .ok socket
    | .error f => w.connectToAny port f rest

def connect (w : Wire) (endpoint : Endpoint) : IO Wire := do
  let result ←
    match ← settle (DNS.getAddrInfo endpoint.host (toString endpoint.port)) with
    | .ok addresses =>
      w.connectToAny (UInt16.ofNat endpoint.port) unknownHost addresses.toList
    | .error _ => pure (.error unknownHost)
  return { w with
    recording := w.recording.addConnection endpoint (fault? result)
    sockets := w.sockets.push result.toOption }

def send (w : Wire) (link : Nat) (payload : Bytes) : IO Wire := do
  match w.socket? link with
  | none => return w
  | some socket =>
    match fault? (← settle (socket.send ⟨payload.toArray⟩)) with
    | none => return w
    | some f => return { w with recording := w.recording.addSendFault link f }

/-- Reads at most `size` bytes, or waits in vain. -/
def receiveFrom (w : Wire) (socket : TCP.Socket.Client) (size : Nat) : IO Arrival := do
  let arrived : Option ByteArray → Async Arrival := fun bytes =>
    return .ok ((bytes.map fun bs => bs.data.toList).getD [])
  let waited : Unit → Async Arrival := fun _ =>
    return .error (timeoutFault w.mode)
  return (← settle do
    let sleeper ← Selector.sleep w.patience
    Selectable.one
      #[Selectable.case (socket.recvSelector (UInt64.ofNat size)) arrived,
        Selectable.case sleeper waited]).bind id

/-- Reads at most `size` bytes once, and goes on while bytes are missing if all of them are
wanted. -/
def receive (w : Wire) (link : Nat) (all : Bool) : Nat → IO Wire
  | 0 => return w
  | missing + 1 => do
    match w.socket? link with
    | none => return w
    | some socket =>
      let arrival ← w.receiveFrom socket (missing + 1)
      let w := { w with recording := w.recording.addArrival link arrival }
      match arrival with
      | .ok (_ :: more) =>
        if all then w.receive link all (missing - more.length) else return w
      | _ => return w
termination_by size => size

/-- Reads until the stream ends, or waits in vain. -/
partial def receiveAll (w : Wire) (link : Nat) : IO Wire := do
  match w.socket? link with
  | none => return w
  | some socket =>
    let arrival ← w.receiveFrom socket (64 * 1024)
    let w := { w with recording := w.recording.addArrival link arrival }
    match arrival with
    | .ok (_ :: _) => w.receiveAll link
    | _ => return w

/-- Makes a read of the given size. A blocking read of a size below zero is refused by itself. -/
def receiveSized (w : Wire) (link : Nat) (size : Int) : IO Wire :=
  if 0 ≤ size then w.receive link false size.toNat
  else
    match w.mode with
    | .sync => return w
    | .async => w.receiveAll link

def close (w : Wire) (link : Nat) : IO Wire := do
  match w.socket? link with
  | none => return w
  | some socket =>
    discard <| settle socket.shutdown
    return { w with sockets := w.sockets.setIfInBounds link none }

/-- Does on the network what a note says, if anything. -/
def perform (w : Wire) : Note → IO Wire
  | .connect _ endpoint _ => w.connect endpoint
  | .send link payload => w.send link payload
  | .receive link size => w.receiveSized link size
  | .receiveExactly link size => w.receive link true size
  | .close link => w.close link
  | .draw size => return { w with recording := w.recording.addDraw (← IO.rand 0 (size - 1)) }
  | _ => return w

end Wire

/-! ### The run -/

/-- Whether a note is something to be done, and not only to be told. -/
def isDone : Note → Bool
  | .draw _ => true
  | n => n.isEvent

/-- Writes a log record, if the level asks for it. -/
def log (level : Level) (r : Record) : IO Unit := do
  if level = .debug || r.level = .warning then
    let now ← Std.Time.PlainDateTime.now
    let time := now.format "uuuu-MM-dd HH:mm:ss,SSS"
    let words := [time, r.level.name, r.channel.name ++ ":", r.message]
    IO.eprintln (" ".intercalate words)

/-- Runs a command on what the network brings, of which `seen` notes are known. -/
partial def run (command : Network → CommandRun) (w : Wire) (seen : Nat) : IO CommandRun := do
  let done := command w.recording.network
  let news := done.notes.drop seen
  let told := news.takeWhile fun n => !isDone n
  for r in logRecords told do
    log (done.logLevel.getD .warning) r
  match news.drop told.length with
  | [] => return done
  | n :: _ => run command (← w.perform n) (seen + told.length + 1)

/-- Writes what a command writes, and gives its exit code. -/
def finish (output : Option String) (done : CommandRun) : IO UInt32 := do
  if let some line := done.stderr then IO.eprintln line
  IO.print done.stdout
  match done.written, output with
  | some text, some path => IO.FS.writeFile path text
  | _, _ => pure ()
  if let .escaped f := done.ending then IO.eprintln (f.kind.name ++ ": " ++ f.message)
  return UInt32.ofNat (done.ending.code?.getD 1)

/-- The file that holds environment variables, empty if there is none. -/
def envFile : IO String := do
  match ← (IO.FS.readFile ".env").toBaseIO with
  | .ok text => return text
  | .error _ => return ""

/-- The settings, or the names of those that cannot be read. -/
def settings : IO (Except (List SettingName) Settings) := do
  let environment ← Std.Internal.UV.System.osEnviron
  let environment := environment.toList
  return Settings.load { environment, file := EnvFile.read environment (← envFile) }

/-- The milliseconds to wait, at most three weeks. -/
def milliseconds : Binary64 → Nat
  | .finite false mantissa exponent =>
    min longest (mantissa * 1000 * Nat.pow 2 exponent.toNat / Nat.pow 2 (-exponent).toNat)
  | .finite true _ _ => 0
  | _ => longest
where
  /-- Three weeks. -/
  longest : Nat := 21 * 24 * 60 * 60 * 1000

/-- Runs the command with its options read. -/
def runOptions (settings : Settings) (options : Options) : IO UInt32 := do
  let stdin ← if options.nodes.contains "-" then (← IO.getStdin).readToEnd else pure ""
  let timeout := options.timeout.getD settings.readTimeout
  let wire : Wire := { mode := Command.mode options, patience := .ofNat (milliseconds timeout) }
  finish options.output (← run (Command.runOptions settings options stdin) wire 0)

/-- Reads the settings and the options, and runs the command. -/
def start (args : List String) : IO UInt32 := do
  match ← settings with
  | .error names =>
    IO.eprintln ("Invalid settings: " ++ ", ".intercalate (names.map SettingName.text))
    return 1
  | .ok settings =>
    match Options.parse? args with
    | none =>
      IO.eprintln "Invalid arguments."
      return 2
    | some options => runOptions settings options

end Live
end ReplicaRead

def main (args : List String) : IO UInt32 :=
  ReplicaRead.Live.start args
