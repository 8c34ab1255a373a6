/-!
# UTF-8

Client names travel as UTF-8, and lines and text views are read from bytes that may be anything.

Input: a list of bytes.

Algorithm: one byte at a time, with the started character as state. A byte that cannot continue
the started character ends it as one replacement character and is then read as a first byte, so
each maximal part of an ill-formed sequence becomes one replacement character.

Results: `encode` writes characters, `decode` reads any bytes, and `decode?` reads exactly the
bytes that `encode` writes.
-/

namespace ReplicaRead

/-- A string of bytes. -/
abbrev Bytes := List UInt8

namespace Utf8

def encode (cs : List Char) : Bytes :=
  cs.flatMap String.utf8EncodeChar

/-- The character that stands for an ill-formed sequence. -/
def replacement : Char := Char.ofNat 0xFFFD

/-- A character of which some bytes have been read and at least one is still owed. -/
structure Started where
  /-- The value of the bits read so far. -/
  code : Nat
  /-- The least six bits that the next byte may carry. -/
  least : Nat
  /-- The greatest six bits that the next byte may carry. -/
  most : Nat
  /-- The number of bytes owed after the next one. -/
  owed : Nat
deriving DecidableEq, Repr

/-- The six bits that a continuation byte carries. -/
def continuation? (b : UInt8) : Option Nat :=
  if 0x80 ≤ b.toNat ∧ b.toNat < 0xC0 then some (b.toNat - 0x80) else none

/-- What a first byte gives: finished characters, and the character that it starts. The second
byte of some characters is confined, which rules out overlong forms, surrogates and values past
the last code point. -/
def first (b : UInt8) : List Char × Option Started :=
  let n := b.toNat
  if n < 0x80 then ([Char.ofNat n], none)
  else if n < 0xC2 then ([replacement], none)
  else if n < 0xE0 then ([], some ⟨n - 0xC0, 0, 0x3F, 0⟩)
  else if n < 0xF0 then
    ([], some ⟨n - 0xE0, if n = 0xE0 then 0x20 else 0, if n = 0xED then 0x1F else 0x3F, 1⟩)
  else if n < 0xF5 then
    ([], some ⟨n - 0xF0, if n = 0xF0 then 0x10 else 0, if n = 0xF4 then 0x0F else 0x3F, 2⟩)
  else ([replacement], none)

/-- The started character after a continuation byte that carries the bits `bits`. -/
def Started.continue (p : Started) (bits : Nat) : List Char × Option Started :=
  let code := p.code * 64 + bits
  match p.owed with
  | 0 => ([Char.ofNat code], none)
  | owed + 1 => ([], some ⟨code, 0, 0x3F, owed⟩)

/-- One byte: the characters that it finishes, and the character that is started after it. -/
def step : Option Started → UInt8 → List Char × Option Started
  | none, b => first b
  | some p, b =>
    match continuation? b with
    | some bits =>
      if p.least ≤ bits ∧ bits ≤ p.most then p.continue bits
      else (replacement :: (first b).1, (first b).2)
    | none => (replacement :: (first b).1, (first b).2)

/-- The characters of a list of bytes that follows a started character. -/
def decodeFrom : Option Started → Bytes → List Char
  | none, [] => []
  | some _, [] => [replacement]
  | p, b :: bs => (step p b).1 ++ decodeFrom (step p b).2 bs

/-- The characters of a list of bytes, with replacement characters where it is ill-formed. -/
def decode (bs : Bytes) : List Char :=
  decodeFrom none bs

/-- The characters of a well-formed list of bytes. -/
def decode? (bs : Bytes) : Option (List Char) :=
  if encode (decode bs) = bs then some (decode bs) else none

@[simp] theorem encode_nil : encode [] = [] := rfl

@[simp] theorem encode_cons (c : Char) (cs : List Char) :
    encode (c :: cs) = String.utf8EncodeChar c ++ encode cs := rfl

@[simp] theorem decodeFrom_cons (p : Option Started) (b : UInt8) (bs : Bytes) :
    decodeFrom p (b :: bs) = (step p b).1 ++ decodeFrom (step p b).2 bs := by
  cases p <;> rfl

end Utf8
end ReplicaRead
