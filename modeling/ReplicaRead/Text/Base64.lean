import ReplicaRead.Text.Utf8

/-!
# Base64

Block data is reported, and access tokens are given, in Base64.

Input: a list of bytes, or a text of the alphabet with padding.

Algorithm: three bytes make four digits of six bits; one or two bytes at the end make two or three
digits, and padding fills the group. Reading is strict: whole groups, padding only at the very
end. The unused bits of a padded group may have any value, and padding after a group that needs none
is passed over.

Results: `encode` and `decode?`.
-/

namespace ReplicaRead
namespace Base64

/-- The digits in the order of their values. -/
def alphabet : List Char :=
  "ABCDEFGHIJKLMNOPQRSTUVWXYZabcdefghijklmnopqrstuvwxyz0123456789+/".toList

def digit (n : Nat) : Char :=
  alphabet.getD n 'A'

/-- The six bits of a digit. -/
def value? (c : Char) : Option Nat :=
  alphabet.idxOf? c

/-- The Base64 text of a list of bytes. -/
def encode : Bytes → List Char
  | [] => []
  | [a] =>
    let n := a.toNat
    [digit (n / 4), digit (n % 4 * 16), '=', '=']
  | [a, b] =>
    let n := a.toNat * 256 + b.toNat
    [digit (n / 1024), digit (n / 16 % 64), digit (n % 16 * 4), '=']
  | a :: b :: c :: rest =>
    let n := (a.toNat * 256 + b.toNat) * 256 + c.toNat
    digit (n / 262144) :: digit (n / 4096 % 64) :: digit (n / 64 % 64) :: digit (n % 64)
      :: encode rest

/-- The bytes of a Base64 text. -/
def decode? : List Char → Option Bytes
  | [] => some []
  | [a, b, '=', '='] => do
    let n := (← value? a) * 64 + (← value? b)
    return [UInt8.ofNat (n / 16)]
  | [a, b, c, '='] => do
    let n := ((← value? a) * 64 + (← value? b)) * 64 + (← value? c)
    return [UInt8.ofNat (n / 1024), UInt8.ofNat (n / 4)]
  | a :: b :: c :: d :: rest => do
    let n := (((← value? a) * 64 + (← value? b)) * 64 + (← value? c)) * 64 + (← value? d)
    let bs ← if rest.all (· == '=') then some [] else decode? rest
    return UInt8.ofNat (n / 65536) :: UInt8.ofNat (n / 256) :: UInt8.ofNat n :: bs
  | _ => none

end Base64
end ReplicaRead
