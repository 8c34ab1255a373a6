import ReplicaRead.Block
import ReplicaRead.Fault

/-!
# Notes

What an action does to the world is written down as a list of notes: what it did on the network,
which draws it made, what it logged, and which calls it made on sessions and probes of others.

Results: the notes, and the views that keep the notes of one sort.
-/

namespace ReplicaRead

/-- The level of a log record. -/
inductive Level where
  | debug
  | warning
deriving DecidableEq, Repr

namespace Level

/-- The name of a level. -/
def name : Level → String
  | debug => "DEBUG"
  | warning => "WARNING"

end Level

/-- The part of the library that logs. -/
inductive Channel where
  | selection
  | streaming
  | session (mode : Mode)
deriving DecidableEq, Repr

namespace Channel

/-- The name of a channel. -/
def name : Channel → String
  | selection => "blockview.io.selector"
  | streaming => "blockview.io.streamer"
  | session .sync => "blockview.io.datanode_sync"
  | session .async => "blockview.io.datanode_async"

end Channel

/-- A log record. -/
structure Record where
  level : Level
  channel : Channel
  message : String
deriving DecidableEq, Repr

/-- What a session is opened with. -/
structure Opening where
  endpoint : Endpoint
  block : Block
  credential : Credential
  offset : Nat
  amount : Nat
  timeout : Binary64
  bufferSize : Int
  clientName : String
deriving DecidableEq

/-- Something that an action did. Connections are numbered in the order of the attempts. -/
inductive Note where
  | connect (link : Nat) (endpoint : Endpoint) (timeout : Option Binary64)
  | send (link : Nat) (payload : Bytes)
  /-- A read of at most `size` bytes. -/
  | receive (link : Nat) (size : Int)
  /-- A read of exactly `size` bytes. -/
  | receiveExactly (link : Nat) (size : Nat)
  | close (link : Nat)
  | draw (size : Nat)
  | record (r : Record)
  /-- A probe of another's making. -/
  | probed (endpoint : Endpoint) (timeout : Binary64)
  /-- The opening of a session of another's making. -/
  | opened (o : Opening)
  /-- A read on such a session. -/
  | requested (size : Nat)
  /-- The closing of such a session. -/
  | released
deriving DecidableEq

namespace Note

/-- What happened on the network. -/
def isEvent : Note → Bool
  | connect _ _ _ | send _ _ | receive _ _ | receiveExactly _ _ | close _ => true
  | _ => false

/-- The log record of a note. -/
def record? : Note → Option Record
  | record r => some r
  | _ => none

/-- The size of a draw. -/
def drawSize? : Note → Option Nat
  | draw size => some size
  | _ => none

/-- The endpoint and timeout of a probe of another's making. -/
def probe? : Note → Option (Endpoint × Binary64)
  | probed endpoint timeout => some (endpoint, timeout)
  | _ => none

/-- The endpoint of a connection attempt. -/
def connect? : Note → Option Endpoint
  | connect _ endpoint _ => some endpoint
  | _ => none

/-- The connection with which a note deals. -/
def link? : Note → Option Nat
  | connect link _ _ | send link _ | receive link _ | receiveExactly link _ | close link =>
    some link
  | _ => none

end Note

/-- The network events among notes. -/
def events (notes : List Note) : List Note :=
  notes.filter Note.isEvent

/-- The log records among notes. -/
def logRecords (notes : List Note) : List Record :=
  notes.filterMap Note.record?

/-- The sizes of the draws among notes. -/
def drawSizes (notes : List Note) : List Nat :=
  notes.filterMap Note.drawSize?

/-- The probes of another's making among notes. -/
def probes (notes : List Note) : List (Endpoint × Binary64) :=
  notes.filterMap Note.probe?

end ReplicaRead
