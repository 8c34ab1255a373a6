import ReplicaRead.Word

/-!
# Status words

A node answers a read request with two bytes, a signed number, before any data.

Results: `Status.ofBytes` and `Status.describe`.
-/

namespace ReplicaRead
namespace Status

/-- The status that two bytes denote. -/
def ofBytes (high low : UInt8) : Int :=
  Word.signed 2 (Word.toNat [high, low])

def success : Int := 0

def error : Int := 1

def tokenRejected : Int := 5

/-- What a status other than `success` says. -/
def describe (status : Int) : String :=
  if status = tokenRejected then "access token rejected"
  else if status = error then "datanode reported an error"
  else s!"unexpected status {status}"

end Status
end ReplicaRead
