import ReplicaRead.Block
import ReplicaRead.Word

/-!
# Read requests

A request asks a node for a range of a block. It is one frame: a version, an operation code, four
signed integers of eight bytes, the client name behind its length in two bytes, and the token
behind its length in four bytes. A name is a text that has a UTF-8 form: half of a surrogate pair,
which cannot be encoded, is not a character of a name.

Input: the fields, or the bytes of a frame with whatever follows it.

Results: `Request.encode`, which fails if a field does not fit, and `Request.decode?`, which also
gives the bytes that follow the frame.
-/

namespace ReplicaRead

/-- What a read request asks for. -/
structure Request where
  blockId : Int
  stamp : Int
  offset : Int
  length : Int
  clientName : String
  token : Bytes
deriving DecidableEq

namespace Request

/-- The version of the data-transfer protocol. -/
def version : Int := 19

/-- The operation code for reading a block. -/
def opcode : Nat := 81

/-! ### Writing a frame -/

/-- A signed integer of eight bytes, if it fits. -/
def encodeInt? (n : Int) : Option Bytes :=
  if Word.InRange 8 n then some (Word.ofNat 8 (Word.wrap 8 n)) else none

/-- Bytes behind their count in `width` bytes, if the count fits. -/
def encodeCounted? (width : Nat) (bs : Bytes) : Option Bytes :=
  if bs.length < Word.count width then some (Word.ofNat width bs.length ++ bs) else none

/-- The frame of a request, if all fields fit. -/
def encode? (r : Request) : Option Bytes := do
  let blockId ← encodeInt? r.blockId
  let stamp ← encodeInt? r.stamp
  let offset ← encodeInt? r.offset
  let length ← encodeInt? r.length
  let name ← encodeCounted? 2 (Utf8.encode r.clientName.toList)
  let token ← encodeCounted? 4 r.token
  return Word.ofNat 2 (Word.wrap 2 version) ++ Word.ofNat 1 opcode ++ blockId ++ stamp ++ offset
    ++ length ++ name ++ token

/-- The frame of a request. -/
def encode (r : Request) : Except Fault Bytes :=
  match r.encode? with
  | some bs => .ok bs
  | none => .error .unencodable

/-! ### Reading a frame -/

/-- The first `n` bytes and the bytes after them. -/
def take? (n : Nat) (bs : Bytes) : Option (Bytes × Bytes) :=
  if n ≤ bs.length then some (bs.take n, bs.drop n) else none

/-- A number of `width` bytes and the bytes after it. -/
def decodeNat? (width : Nat) (bs : Bytes) : Option (Nat × Bytes) :=
  (take? width bs).map fun (field, rest) => (Word.toNat field, rest)

/-- A signed number of `width` bytes and the bytes after it. -/
def decodeInt? (width : Nat) (bs : Bytes) : Option (Int × Bytes) :=
  (decodeNat? width bs).map fun (n, rest) => (Word.signed width n, rest)

/-- Counted bytes and the bytes after them. -/
def decodeCounted? (width : Nat) (bs : Bytes) : Option (Bytes × Bytes) :=
  (decodeNat? width bs).bind fun (n, rest) => take? n rest

/-- A frame as it is read. -/
structure Frame where
  version : Int
  opcode : Nat
  request : Request
deriving DecidableEq

/-- The frame at the front of a list of bytes, and the bytes after it. The client name must be
well-formed. -/
def decode? (bs : Bytes) : Option (Frame × Bytes) := do
  let (version, bs) ← decodeInt? 2 bs
  let (opcode, bs) ← decodeNat? 1 bs
  let (blockId, bs) ← decodeInt? 8 bs
  let (stamp, bs) ← decodeInt? 8 bs
  let (offset, bs) ← decodeInt? 8 bs
  let (length, bs) ← decodeInt? 8 bs
  let (name, bs) ← decodeCounted? 2 bs
  let name ← Utf8.decode? name
  let (token, bs) ← decodeCounted? 4 bs
  return (⟨version, opcode, ⟨blockId, stamp, offset, length, String.ofList name, token⟩⟩, bs)

end Request
end ReplicaRead
