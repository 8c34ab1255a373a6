import ReplicaRead.Act

/-!
# The network

A network is given by what each connection to each endpoint will bring, in the order of the
attempts. A connection brings a list of arrivals, each of them bytes or a fault.

Algorithm: a read takes the first arrival. What is longer than the read allows stays in front; two
arrivals are never joined. A read of nothing, and a read after the last arrival, bring no bytes. A
read that is given a size below zero is refused in blocking mode, and in asynchronous mode it joins
all arrivals up to the end of the stream. An asynchronous attempt to connect that is given no time
fails before it begins.

Results: `Network.connect`, `Network.draw`, and the reads `Arrivals.receiveSized` and
`Arrivals.receiveExactly`.
-/

namespace ReplicaRead

/-- What a read brings: bytes, or a fault. -/
abbrev Arrival := Except Fault Bytes

/-- What a connection will bring. -/
structure Script where
  connectFault : Option Fault := none
  arrivals : List Arrival := []
  sendFault : Option Fault := none
  /-- The fault of closing, which only asynchronous mode meets. -/
  closeFault : Option Fault := none

/-- A connection that has been made. -/
structure Link where
  /-- The number of the attempt that made it. -/
  id : Nat
  arrivals : List Arrival
  sendFault : Option Fault
  closeFault : Option Fault

/-- A network, and the source of the random draws. -/
structure Network where
  scripts : Endpoint → List Script
  attempts : Nat := 0
  draws : List Int := []

namespace Arrivals

/-- A read of at most `n` bytes, and what is left to arrive. -/
def receive (n : Nat) : List Arrival → Arrival × List Arrival
  | [] => (.ok [], [])
  | .error f :: rest => if n = 0 then (.ok [], .error f :: rest) else (.error f, rest)
  | .ok bs :: rest =>
    if n = 0 then (.ok [], .ok bs :: rest)
    else if bs.length ≤ n then (.ok bs, rest)
    else (.ok (bs.take n), .ok (bs.drop n) :: rest)

/-- A read to the end of the stream, of which `got` has been read, and what is left to arrive. A
fault on the way loses what has been read. -/
def receiveAll (got : Bytes) : List Arrival → Arrival × List Arrival
  | [] => (.ok got, [])
  | .error f :: rest => (.error f, rest)
  | .ok bs :: rest => if bs.isEmpty then (.ok got, rest) else receiveAll (got ++ bs) rest

/-- A read that is given a size, and what is left to arrive. -/
def receiveSized (mode : Mode) (size : Int) (arrivals : List Arrival) : Arrival × List Arrival :=
  if 0 ≤ size then receive size.toNat arrivals
  else
    match mode with
    | .sync => (.error .negativeSize, arrivals)
    | .async => receiveAll [] arrivals

/-- A read of exactly `wanted` bytes of which `got` have been read, and what is left to arrive. -/
def receiveExactly (wanted : Nat) (got : Bytes) : List Arrival → Arrival × List Arrival
  | [] =>
    if wanted ≤ got.length then (.ok got, []) else (.error (.incomplete got.length wanted), [])
  | .error f :: rest =>
    if wanted ≤ got.length then (.ok got, .error f :: rest) else (.error f, rest)
  | .ok bs :: rest =>
    let missing := wanted - got.length
    if missing = 0 then (.ok got, .ok bs :: rest)
    else if bs.isEmpty then (.error (.incomplete got.length wanted), rest)
    else if bs.length ≤ missing then receiveExactly wanted (got ++ bs) rest
    else (.ok (got ++ bs.take missing), .ok (bs.drop missing) :: rest)

end Arrivals

namespace Network

/-- Attempts to connect. Beyond the connections to come, nobody listens. -/
def attempt (mode : Mode) (endpoint : Endpoint) (timeout : Binary64) : Act Network Link := do
  let net ← Act.get
  -- Asynchronous attempts are not given the timeout; the waiting for them is.
  let shownTimeout := match mode with
    | .sync => some timeout
    | .async => none
  Act.note (.connect net.attempts endpoint shownTimeout)
  match net.scripts endpoint with
  | [] =>
    Act.set { net with attempts := net.attempts + 1 }
    Act.raise .connectionRefused
  | script :: rest =>
    let scripts := fun e => if e = endpoint then rest else net.scripts e
    Act.set { net with scripts, attempts := net.attempts + 1 }
    match script.connectFault with
    | some f => Act.raise f
    | none => return ⟨net.attempts, script.arrivals, script.sendFault, script.closeFault⟩

/-- Whether a call is begun at all: an awaited one is not if it is given no time. -/
def begins (mode : Mode) (timeout : Binary64) : Bool :=
  mode = .sync || !timeout.le (.ofInt 0)

def connect (mode : Mode) (endpoint : Endpoint) (timeout : Binary64) : Act Network Link :=
  if begins mode timeout then attempt mode endpoint timeout else Act.raise .noTime

/-- A number below `n + 1` made from a draw. -/
def reduceDraw (d : Int) (n : Nat) : Fin (n + 1) :=
  ⟨(d % (n + 1 : Nat)).toNat, by
    have := Int.emod_lt_of_pos d (show (0 : Int) < (n + 1 : Nat) by omega)
    have := Int.emod_nonneg d (show ((n + 1 : Nat) : Int) ≠ 0 by omega)
    omega⟩

/-- Draws one of `n + 1` candidates. Beyond the draws to come, it is the first. -/
def draw (n : Nat) : Act Network (Fin (n + 1)) := do
  let net ← Act.get
  Act.note (.draw (n + 1))
  match net.draws with
  | [] => return 0
  | d :: draws =>
    Act.set { net with draws }
    return reduceDraw d n

end Network
end ReplicaRead
