import ReplicaRead.Network
import ReplicaRead.Request

/-!
# Readers

A reader holds at most one connection to a node. To open it is to connect, to send a read request
and to receive the status; then data is read piece by piece.

Algorithm: in blocking mode the two status bytes come by up to two reads, in asynchronous mode by
one read of exactly two bytes. A failure of the system in the handshake, a status other than
success, and leaving the reader close the connection; other faults in the handshake leave it held.

Results: `Reader.start`, `Reader.read`, `Reader.close` and `Reader.readAll`, actions on the reader.
-/

namespace ReplicaRead

/-- A reader of one node. -/
structure Reader where
  endpoint : Endpoint
  timeout : Binary64
  bufferSize : Int
  bytesFetched : Nat := 0
  readsMade : Nat := 0
  link : Option Link := none

namespace Reader

/-! ### Closing -/

/-- What becomes of a fault of closing a connection: a failure of the system is logged only. -/
def settleClose (endpoint : Endpoint) (f : Fault) : Act Reader Unit :=
  if f.isSystem then
    Act.log .debug (.session .async) (s!"Error while closing session on {endpoint}: " ++ f.message)
  else Act.raise f

/-- Closes the connection, if one is held. In blocking mode closing cannot fail. -/
def close (mode : Mode) : Act Reader Unit := do
  let reader ← Act.get
  match reader.link with
  | none => return
  | some link =>
    Act.set { reader with link := none }
    Act.note (.close link.id)
    match mode, link.closeFault with
    | .async, some f => settleClose reader.endpoint f
    | _, _ => return

/-! ### Receiving -/

/-- Keeps the connection with `arrivals` left to arrive. -/
def keep (link : Link) (arrivals : List Arrival) : Act Reader Unit :=
  Act.modify fun reader => { reader with link := some { link with arrivals } }

/-- Makes a read of the given size on the connection, if one is held. -/
def receive (mode : Mode) (size : Int) : Act Reader Bytes := do
  let reader ← Act.get
  match reader.link with
  | none => Act.raise .notOpen
  | some link =>
    Act.note (.receive link.id size)
    let (arrival, rest) := Arrivals.receiveSized mode size link.arrivals
    keep link rest
    Act.ofExcept arrival

/-- Reads exactly `size` bytes from the connection, if one is held. -/
def receiveExactly (size : Nat) : Act Reader Bytes := do
  let reader ← Act.get
  match reader.link with
  | none => Act.raise .notOpen
  | some link =>
    Act.note (.receiveExactly link.id size)
    let (arrival, rest) := Arrivals.receiveExactly size [] link.arrivals
    keep link rest
    Act.ofExcept arrival

/-- The status, from up to two reads. -/
def receiveStatusSync : Act Reader Int := do
  match ← receive .sync 2 with
  | [] => Act.raise (.closedEarly 0 2)
  | [high] =>
    match ← receive .sync 1 with
    | [] => Act.raise (.closedEarly 1 2)
    | low :: _ => return Status.ofBytes high low
  | high :: low :: _ => return Status.ofBytes high low

/-- The status, from one read of two bytes. -/
def receiveStatusAsync : Act Reader Int := do
  match ← receiveExactly 2 with
  | high :: low :: _ => return Status.ofBytes high low
  | got => Act.raise (.incomplete got.length 2)

/-- The status. -/
def receiveStatus : Mode → Act Reader Int
  | .sync => receiveStatusSync
  | .async => receiveStatusAsync

/-! ### Opening -/

/-- The request for an opening. -/
def request (block : Block) (credential : Credential) (offset length : Int)
    (clientName : String) : Request where
  blockId := block.id
  stamp := block.stamp
  offset := offset
  length := length
  clientName := clientName
  token := credential.token

/-- Sends bytes on the connection, if one is held. -/
def send (payload : Bytes) : Act Reader Unit := do
  let reader ← Act.get
  match reader.link with
  | none => Act.raise .notOpen
  | some link =>
    Act.note (.send link.id payload)
    match link.sendFault with
    | some f => Act.raise f
    | none => return

/-- The faults that fail a connect: failures of the system, and host names that cannot be
encoded. -/
def failsConnect (f : Fault) : Bool :=
  f.isSystem || f.kind == .invalidText

/-- The faults that fail a handshake. A stream that ends within the status fails it too; in
blocking mode that is a failure of the system. -/
def failsHandshake (mode : Mode) (f : Fault) : Bool :=
  f.isSystem || (mode == .async && f.kind == .incompleteRead)

/-- Connects. The new connection takes the place of one that is held. -/
def connect (mode : Mode) : Act (Network × Reader) Unit := do
  let (_, reader) ← Act.get
  let link ← (Act.onFst (Network.connect mode reader.endpoint reader.timeout)).recover failsConnect
    fun f => Act.raise (.connectFailed mode reader.endpoint f)
  Act.onSnd (Act.modify fun reader => { reader with link := some link })

/-- Sends a request and receives the status. -/
def exchange (mode : Mode) (request : Request) : Act Reader Int := do
  let payload ← Act.ofExcept request.encode
  send payload
  receiveStatus mode

/-- What an opened reader logs. -/
def openedMessage (mode : Mode) (endpoint : Endpoint) (request : Request) : String :=
  let opened := match mode with
    | .sync => "Opened read session on "
    | .async => "Opened async read session on "
  let blockId := request.blockId
  let offset := request.offset
  let length := request.length
  opened ++ s!"{endpoint} for block {blockId} [{offset}, +{length})"

/-- The handshake on a new connection. -/
def handshake (mode : Mode) (request : Request) : Act Reader Unit := do
  let endpoint := (← Act.get).endpoint
  let status ← (exchange mode request).recover (failsHandshake mode) fun f => do
    close mode
    Act.raise (.handshakeFailed mode endpoint f)
  if status = Status.success then
    Act.log .debug (.session mode) (openedMessage mode endpoint request)
  else
    close mode
    Act.raise (.refused endpoint request.blockId status)

/-- Opens the reader: connects and makes the handshake for a range of a block. -/
def start (mode : Mode) (request : Request) : Act (Network × Reader) Unit := do
  connect mode
  Act.onSnd (handshake mode request)

/-! ### Reading -/

def countRead : Act Reader Unit :=
  Act.modify fun reader => { reader with readsMade := reader.readsMade + 1 }

def countBytes (data : Bytes) : Act Reader Unit :=
  Act.modify fun reader => { reader with bytesFetched := reader.bytesFetched + data.length }

/-- One read of data. In asynchronous mode a timeout is reported with the endpoint. -/
def receiveData (mode : Mode) (size : Int) : Act Reader Bytes := do
  let reader ← Act.get
  match mode with
  | .sync => receive .sync size
  | .async => (receive .async size).recover (fun f => f.kind == .timeout) fun f =>
      Act.raise (.noDataWithin reader.endpoint reader.timeout f)

/-- Reads up to `length` bytes of data, and at most as many as the buffer holds. -/
def read (mode : Mode) (length : Int) : Act Reader Bytes := do
  let reader ← Act.get
  if reader.link.isNone then Act.raise .notOpen
  else
    countRead
    let data ← receiveData mode (min length reader.bufferSize)
    if data.isEmpty then Act.raise .prematureEnd
    else
      countBytes data
      return data

def readPieces (mode : Mode) : List Int → Act Reader (List Bytes)
  | [] => return []
  | length :: lengths => do
    let data ← read mode length
    let rest ← readPieces mode lengths
    return data :: rest

/-- Reads pieces of the given lengths and closes the reader, also after a fault. -/
def readAll (mode : Mode) (lengths : List Int) : Act Reader (List Bytes) :=
  (readPieces mode lengths).andFinally (close mode)

end Reader
end ReplicaRead
