import ReplicaRead.Text.Quoted

/-!
# JSON documents

The command line reports its results as JSON.

Input: a document.

Algorithm: one field or item a line, indented by two spaces for each level; empty arrays and
objects are written without a line break. All output is ASCII: any other character is written by
its UTF-16 units.

Results: `Json.render`.
-/

namespace ReplicaRead

/-- A JSON document with integers for numbers. The fields of an object keep their order. -/
inductive Json where
  | null
  | bool (b : Bool)
  | int (n : Int)
  | text (s : String)
  | array (items : List Json)
  | object (fields : List (String × Json))

namespace Json

/-- A UTF-16 unit, by its four hexadecimal digits. -/
def unitEscape (n : Nat) : List Char :=
  '\\' :: 'u' :: Text.hexDigits 4 n

/-- A character as it stands in a string. -/
def escapeChar (c : Char) : List Char :=
  let n := c.toNat
  if c = '"' then ['\\', '"']
  else if c = '\\' then ['\\', '\\']
  else if c = '\n' then ['\\', 'n']
  else if c = '\r' then ['\\', 'r']
  else if c = '\t' then ['\\', 't']
  else if n = 8 then ['\\', 'b']
  else if n = 12 then ['\\', 'f']
  else if 0x20 ≤ n ∧ n < 0x7F then [c]
  else if n < 0x10000 then unitEscape n
  else unitEscape (0xD800 + (n - 0x10000) / 0x400) ++ unitEscape (0xDC00 + (n - 0x10000) % 0x400)

def escape (s : String) : String :=
  String.ofList ('"' :: s.toList.flatMap escapeChar ++ ['"'])

/-- Items between brackets, one a line, at the given depth. -/
def enclose (opening closing : String) (depth : Nat) (items : List String) : String :=
  if items.isEmpty then opening ++ closing
  else
    let indent (n : Nat) := "\n" ++ "".pushn ' ' (2 * n)
    opening ++ indent (depth + 1) ++ ("," ++ indent (depth + 1)).intercalate items
      ++ indent depth ++ closing

mutual

/-- The text of a document that stands at the given depth. -/
def renderAt (depth : Nat) : Json → String
  | null => "null"
  | bool b => if b then "true" else "false"
  | int n => toString n
  | text s => escape s
  | array items => enclose "[" "]" depth (renderItems (depth + 1) items)
  | object fields => enclose "\x7b" "\x7d" depth (renderFields (depth + 1) fields)

def renderItems (depth : Nat) : List Json → List String
  | [] => []
  | item :: items => renderAt depth item :: renderItems depth items

def renderFields (depth : Nat) : List (String × Json) → List String
  | [] => []
  | (name, value) :: fields =>
    (escape name ++ ": " ++ renderAt depth value) :: renderFields depth fields

end

def render (j : Json) : String :=
  renderAt 0 j

end Json
end ReplicaRead
