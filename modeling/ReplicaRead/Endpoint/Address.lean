import ReplicaRead.Fault
import ReplicaRead.Text.Numeral

/-!
# Reading endpoints

Input: a host and a port number, or a text `HOST:PORT`.

Algorithm: blank characters at both ends of the text are dropped. The last colon separates the host
from the port; the host may hold colons and stand in brackets, as IPv6 hosts do, and must not be
empty before the brackets are taken away.

Results: `Endpoint.make` and `Endpoint.parse`.
-/

namespace ReplicaRead
namespace Endpoint

def make (host : String) (port : Int) : Except Fault Endpoint :=
  if h : 1 ≤ port ∧ port ≤ 65535 then
    .ok ⟨host, port.toNat, by omega, by omega⟩
  else .error (.portOutOfRange port)

/-- The parts of a list before and after the last member equal to `sep`. -/
def splitLast? (sep : Char) : List Char → Option (List Char × List Char)
  | [] => none
  | c :: cs =>
    match splitLast? sep cs with
    | some (before, after) => some (c :: before, after)
    | none => if c = sep then some ([], cs) else none

/-- The characters that may enclose a host. -/
def isBracket (c : Char) : Bool :=
  c == '[' || c == ']'

/-- Reads a host and the text of a port, which is made of digits. -/
def ofParts (host port : List Char) : Except Fault Endpoint :=
  match Text.integer? port with
  | some n => make (String.ofList (Text.stripEnds isBracket host)) n
  | none => .error (.malformedInteger (String.ofList port))

/-- Reads a text `HOST:PORT`. -/
def parse (text : String) : Except Fault Endpoint :=
  match splitLast? ':' (Text.trim text.toList) with
  | some (host, port) =>
    if host.isEmpty || port.isEmpty || !port.all Text.isDigit then
      .error (.malformedEndpoint text)
    else ofParts host port
  | none => .error (.malformedEndpoint text)

end Endpoint
end ReplicaRead
