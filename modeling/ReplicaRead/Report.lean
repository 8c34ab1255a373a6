import ReplicaRead.Endpoint.Basic
import ReplicaRead.Text.Base64
import ReplicaRead.Text.Json
import ReplicaRead.Text.Lines

/-!
# Results and reports

Input: the result of a request to view a range.

Algorithm: a report of a success shows the lines if there are any to show, else the data as text or
in Base64. A report of a failure shows the message.

Results: `ViewResult.report`, and `Report.toJson`, its form for the outside.
-/

namespace ReplicaRead

/-- What came of a request to view a range. -/
inductive ViewResult where
  | success (endpoint : Option Endpoint) (offset : Int) (data : Option Bytes)
      (lines : Option (List Line)) (bytesFetched : Int)
  | failure (error : Option String) (bytesFetched : Int)
deriving DecidableEq

/-- The data in a report. -/
inductive Body where
  | empty
  | lines (lines : List Line)
  /-- Text, with replacement characters where the data is ill-formed. -/
  | text (text : String)
  | base64 (text : String)
deriving DecidableEq

/-- A report. -/
inductive Report where
  | success (endpoint : Option String) (offset bytesFetched : Int) (body : Body)
  | failure (error : Option String) (bytesFetched : Int)
deriving DecidableEq

namespace ViewResult

/-- The result for data that was read from an endpoint, at an offset. -/
def ofData (endpoint : Endpoint) (offset : Nat) (data : Bytes) (withLines : Bool) : ViewResult :=
  success (some endpoint) offset (some data)
    (if withLines then some (splitLines data offset) else none) data.length

/-- The data that was read. -/
def data? : ViewResult → Option Bytes
  | success _ _ data _ _ => data
  | failure _ _ => none

/-- The data as a report shows it. -/
def body (data : Option Bytes) (lines : Option (List Line)) (asText : Bool) : Body :=
  match lines, data with
  | some lines, _ => .lines lines
  | none, some data =>
    if asText then .text (String.ofList (Utf8.decode data))
    else .base64 (String.ofList (Base64.encode data))
  | none, none => .empty

/-- The report of a result. -/
def report (asText : Bool) : ViewResult → Report
  | success endpoint offset data lines bytesFetched =>
    .success (endpoint.map Endpoint.text) offset bytesFetched (body data lines asText)
  | failure error bytesFetched => .failure error bytesFetched

end ViewResult

/-- A line as it is reported. -/
def Line.toJson (line : Line) : Json :=
  .object [("offset", .int line.offset), ("text", .text line.text)]

/-- The data as it is reported, as the last field of a report. -/
def Body.fields : Body → List (String × Json)
  | empty => []
  | lines ls => [("lines", .array (ls.map Line.toJson))]
  | text t => [("text", .text t)]
  | base64 t => [("data_b64", .text t)]

/-- A text that may be missing. -/
def Json.ofText? : Option String → Json
  | some s => .text s
  | none => .null

/-- The document of a report. -/
def Report.toJson : Report → Json
  | success endpoint offset bytesFetched body =>
    .object ([("success", .bool true), ("endpoint", Json.ofText? endpoint), ("offset", .int offset),
      ("bytes_fetched", .int bytesFetched)] ++ body.fields)
  | failure error bytesFetched =>
    .object [("success", .bool false), ("error", Json.ofText? error),
      ("bytes_fetched", .int bytesFetched)]

end ReplicaRead
