import ReplicaRead.Decimal.Shortest
import ReplicaRead.Endpoint.Basic
import ReplicaRead.Mode
import ReplicaRead.Status
import ReplicaRead.Text.Quoted

/-!
# Faults

Everything that can go wrong, by cause. A fault has a kind, which decides who handles it, and a
message; some carry the fault that led to them, or the status that a node answered.

Results: `Fault.kind`, `Fault.message`, `Fault.shown`, `Fault.cause?` and `Fault.status?`.
-/

namespace ReplicaRead

/-- The kinds of faults. -/
inductive FaultKind where
  | invalidValue
  | invalidText
  /-- Any failure of the system. -/
  | system
  | connectionRefused
  | connectionReset
  | brokenPipe
  | timeout
  | nameLookup
  /-- Any failure to locate or read a block. -/
  | blockAccess
  | noCandidates
  | noReachableReplica
  | transientReadFailure
  | sessionOpen
  /-- A failure of no particular kind. -/
  | runtime
  | endOfInput
  | incompleteRead
  | unencodable
  | overflow
  | outOfMemory
  | cancelled
deriving DecidableEq, Repr

namespace FaultKind

def name : FaultKind → String
  | invalidValue => "ValueError"
  | invalidText => "UnicodeError"
  | system => "OSError"
  | connectionRefused => "ConnectionRefusedError"
  | connectionReset => "ConnectionResetError"
  | brokenPipe => "BrokenPipeError"
  | timeout => "TimeoutError"
  | nameLookup => "gaierror"
  | blockAccess => "BlockAccessError"
  | noCandidates => "NoCandidatesError"
  | noReachableReplica => "NoReachableReplicaError"
  | transientReadFailure => "TransientReadFailureError"
  | sessionOpen => "SessionOpenError"
  | runtime => "RuntimeError"
  | endOfInput => "EOFError"
  | incompleteRead => "IncompleteReadError"
  | unencodable => "struct.error"
  | overflow => "OverflowError"
  | outOfMemory => "MemoryError"
  | cancelled => "CancelledError"

def all : List FaultKind :=
  [invalidValue, invalidText, system, connectionRefused, connectionReset, brokenPipe, timeout,
    nameLookup, blockAccess, noCandidates, noReachableReplica, transientReadFailure, sessionOpen,
    runtime, endOfInput, incompleteRead, unencodable, overflow, outOfMemory, cancelled]

def ofName? (s : String) : Option FaultKind :=
  all.find? fun k => decide (k.name = s)

/-- The failures of the system, those to locate or read a block included. -/
def isSystem : FaultKind → Bool
  | system | connectionRefused | connectionReset | brokenPipe | timeout | nameLookup
  | blockAccess | noCandidates | noReachableReplica | transientReadFailure | sessionOpen => true
  | _ => false

/-- The values that are not allowed, texts that cannot be encoded included. -/
def isInvalidValue : FaultKind → Bool
  | invalidValue | invalidText => true
  | _ => false

def isEndOfInput : FaultKind → Bool
  | endOfInput | incompleteRead => true
  | _ => false

end FaultKind

/-- What a fault from outside says about itself. -/
inductive FaultText where
  | silent
  | message (m : String)
  | numbered (n : Int) (m : String)
deriving DecidableEq, Repr

/-- A fault, by cause. -/
inductive Fault where
  /-- A fault from outside: the network, or a session that is not one of this library. -/
  | outside (kind : FaultKind) (text : FaultText) (status : Option Int)
  | portOutOfRange (port : Int)
  | malformedEndpoint (text : String)
  | malformedInteger (text : String)
  | malformedToken
  | negativeBlockLength (length : Int)
  | negativeOffset
  | negativeLength
  | negativeCount
  /-- A blocking read is given a size below zero. -/
  | negativeSize
  /-- A buffer is asked for whose length has more than 64 bits. -/
  | countOverflow
  | outOfMemory
  | offsetPastEnd (offset : Nat) (blockId : Int) (blockLength : Nat)
  | unencodable
  | noCandidates
  | noReachableReplica (total : Nat)
  | invalidHost (host : String) (cause : Fault)
  | connectFailed (mode : Mode) (endpoint : Endpoint) (cause : Fault)
  | handshakeFailed (mode : Mode) (endpoint : Endpoint) (cause : Fault)
  | refused (endpoint : Endpoint) (blockId : Int) (status : Int)
  /-- The connection ended within the status. -/
  | closedEarly (got wanted : Nat)
  /-- The stream ended within the status. -/
  | incomplete (got wanted : Nat)
  | notOpen
  | prematureEnd
  | cancelled
  /-- An awaited call was given no time, so that it was given up before it began. -/
  | noTime
  | noDataWithin (endpoint : Endpoint) (timeout : Binary64) (cause : Fault)
  | unread (endpoint : Endpoint) (remaining total : Nat) (cause : Fault)
  /-- A rehearsed session is read more often than its script has steps. -/
  | scriptExhausted
deriving DecidableEq, Repr

namespace Fault

def kind : Fault → FaultKind
  | outside kind _ _ => kind
  | portOutOfRange _ | malformedEndpoint _ | malformedInteger _ | malformedToken
  | negativeBlockLength _ | negativeOffset | negativeLength | negativeCount
  | negativeSize | offsetPastEnd _ _ _ => .invalidValue
  | unencodable => .unencodable
  | noCandidates => .noCandidates
  | noReachableReplica _ => .noReachableReplica
  | invalidHost _ _ | closedEarly _ _ | notOpen | prematureEnd => .system
  | connectFailed _ _ _ | handshakeFailed _ _ _ | refused _ _ _ => .sessionOpen
  | incomplete _ _ => .incompleteRead
  | countOverflow => .overflow
  | outOfMemory => .outOfMemory
  | cancelled => .cancelled
  | noTime | noDataWithin _ _ _ => .timeout
  | unread _ _ _ _ => .transientReadFailure
  | scriptExhausted => .runtime

/-- The failures of the system. -/
def isSystem (f : Fault) : Bool :=
  f.kind.isSystem

/-- The text of a fault with its kind, when its message is `message`. A fault from outside shows
what it was made from; a failed handshake shows its message alone. -/
def shownWith (f : Fault) (message : String) : String :=
  let arguments := match f with
    | outside _ .silent _ | outOfMemory | cancelled | noTime => ""
    | outside _ (.message m) _ => Text.quoted m
    | outside _ (.numbered n m) _ => toString n ++ ", " ++ Text.quoted m
    | _ => Text.quoted message
  f.kind.name ++ "(" ++ arguments ++ ")"

/-- What a fault says of the one that led to it: in blocking mode its message, in asynchronous mode
its kind too. -/
def quoteCause (mode : Mode) (cause : Fault) (message : String) : String :=
  match mode with
  | .sync => message
  | .async => cause.shownWith message

/-- A text in quotation marks, cut after 200 characters. -/
def shortQuoted (s : String) : String :=
  String.ofList ((Text.quoted s).toList.take 200)

/-- The message of a fault. That of a request which cannot be encoded has no fixed wording. -/
def message : Fault → String
  | outside _ .silent _ => ""
  | outside _ (.message m) _ => m
  | outside _ (.numbered n m) _ => s!"[Errno {n}] {m}"
  | portOutOfRange port => s!"Port out of range 1-65535: {port}"
  | malformedEndpoint text => "Invalid endpoint " ++ Text.quoted text ++ ", expected HOST:PORT"
  | malformedInteger text => "invalid literal for int() with base 10: " ++ shortQuoted text
  | malformedToken => "<base64>"
  | negativeBlockLength length => s!"Block length cannot be negative: {length}"
  | negativeOffset => "Start offset cannot be negative"
  | negativeLength => "Length cannot be negative"
  | negativeCount => "negative count"
  | negativeSize => "negative buffersize in recv"
  | countOverflow => "cannot fit 'int' into an index-sized integer"
  | outOfMemory => ""
  | offsetPastEnd offset blockId blockLength =>
    s!"Offset {offset} is past the end of block {blockId} ({blockLength} bytes)"
  | unencodable => ""
  | noCandidates => "No nodes contain this block"
  | noReachableReplica total =>
    s!"Could not reach any of {total} replica(s) holding the block. Please try again"
  | invalidHost host cause => "Invalid host name " ++ Text.quoted host ++ ": " ++ cause.message
  | connectFailed mode endpoint cause =>
    s!"Failed to connect to {endpoint}: " ++ quoteCause mode cause cause.message
  | handshakeFailed mode endpoint cause =>
    s!"Read handshake with {endpoint} failed: " ++ quoteCause mode cause cause.message
  | refused endpoint blockId status =>
    s!"{endpoint} refused block {blockId}: " ++ Status.describe status
  | closedEarly got wanted => s!"Connection closed after {got} of {wanted} bytes"
  | incomplete got wanted => s!"{got} bytes read on a total of {wanted} expected bytes"
  | notOpen => "Read session is not open"
  | prematureEnd => "Premature end of block stream"
  | cancelled => ""
  | noTime => ""
  | noDataWithin endpoint timeout _ => s!"No data from {endpoint} within " ++ timeout.text ++ "s"
  | unread endpoint remaining total _ =>
    s!"Could not read data from datanode {endpoint}: {remaining} of {total} bytes unread"
  | scriptExhausted => "script exhausted"

/-- The text of a fault with its kind, as logs show it. -/
def shown (f : Fault) : String :=
  f.shownWith f.message

/-- The fault that led to this one. -/
def cause? : Fault → Option Fault
  | noTime => some cancelled
  | invalidHost _ cause | connectFailed _ _ cause | handshakeFailed _ _ cause
  | noDataWithin _ _ cause | unread _ _ _ cause => some cause
  | _ => none

/-- The status with which a node refused a request. -/
def status? : Fault → Option Int
  | outside .sessionOpen _ status => status
  | refused _ _ status => some status
  | _ => none

/-- The fault of a connect to an address where nobody listens. -/
def connectionRefused : Fault :=
  outside .connectionRefused (.numbered 111 "Connection refused") none

end Fault
end ReplicaRead
