import ReplicaRead.Text.Utf8

/-!
# Lines with offsets

A line view of a range pairs each line with the offset in the block at which it starts.

Input: the bytes of the range, and the offset of the first of them.

Algorithm: a newline byte ends a line and is not part of it, but is counted for the offsets. A last
line need not have a newline; after the last newline no further line begins.

Results: `splitLines`.
-/

namespace ReplicaRead

/-- A line of text and the offset of its first byte. -/
structure Line where
  /-- The text, with replacement characters where the bytes are ill-formed. -/
  text : String
  offset : Int
deriving DecidableEq, Repr

namespace Lines

def newline : UInt8 := 10

/-- Puts a byte in front of the first line. -/
def consFirst (b : UInt8) : List Bytes → List Bytes
  | [] => [[b]]
  | line :: lines => (b :: line) :: lines

/-- The bytes of each line, without the newlines. -/
def byteLines : Bytes → List Bytes
  | [] => []
  | b :: bs => if b = newline then [] :: byteLines bs else consFirst b (byteLines bs)

/-- The lines with their texts and offsets, when the first of them starts at `start`. -/
def place (start : Int) : List Bytes → List Line
  | [] => []
  | line :: lines =>
    ⟨String.ofList (Utf8.decode line), start⟩ :: place (start + line.length + 1) lines

end Lines

/-- The lines of the bytes `data`, the first of which has the offset `start`. -/
def splitLines (data : Bytes) (start : Int) : List Line :=
  Lines.place start (Lines.byteLines data)

end ReplicaRead
