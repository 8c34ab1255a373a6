import ReplicaRead.Text.Blank

/-!
# Files of environment variables

A file of environment variables assigns values to names, one assignment a line.

Input: the text of the file, and the environment.

Algorithm: a byte order mark may stand at the front. Blank lines and comments, which begin with
`#`, are passed over. The word `export` may stand before a name, and a name may stand in single
quotes. A value in quotes may go over several lines and may hold escapes; any other value ends with
its line or before a comment. A name alone is declared without a value. What is left of a line that
does not fit is passed over. In a value, references `${NAME}` and `${NAME:-default}` are replaced by
the values of variables, those of the file before those of the environment.

Results: `EnvFile.declarations`, the lines of the file, and `EnvFile.read`, its variables.
-/

namespace ReplicaRead
namespace EnvFile

open Text

/-- A variable without a value, or with one. -/
abbrev Declaration := String × Option String

/-! ### Lines -/

/-- The text with a line feed for each line end of another form. -/
def unifyLineEnds : List Char → List Char
  | [] => []
  | '\r' :: '\n' :: cs => '\n' :: unifyLineEnds cs
  | c :: cs => (if c = '\r' then '\n' else c) :: unifyLineEnds cs

def isSpace (c : Char) : Bool :=
  isBlank c && c != '\n'

def skipSpaces (cs : List Char) : List Char :=
  cs.dropWhile isSpace

def skipLine (cs : List Char) : List Char :=
  (cs.dropWhile (· != '\n')).drop 1

/-- The text after the end of a line, which may come after spaces and a comment. The error is the
text from which on the line does not fit. -/
def endLine (cs : List Char) : Except (List Char) (List Char) :=
  match skipSpaces cs with
  | [] => .ok []
  | '\n' :: rest => .ok rest
  | '#' :: rest => .ok (skipLine rest)
  | _ => .error cs

/-! ### Names -/

/-- The text after the word `export` and spaces, if it begins with these. -/
def skipExport (cs : List Char) : List Char :=
  match cs with
  | 'e' :: 'x' :: 'p' :: 'o' :: 'r' :: 't' :: c :: rest => if isSpace c then skipSpaces rest else cs
  | _ => cs

/-- The characters of a name without quotes. -/
def isNameChar (c : Char) : Bool :=
  c != '=' && c != '#' && !isBlank c

def name (cs : List Char) : Except (List Char) (String × List Char) :=
  match cs with
  | '\'' :: rest =>
    let inner := rest.takeWhile (· != '\'')
    match rest.dropWhile (· != '\'') with
    | _ :: rest => if inner.isEmpty then .error cs else .ok (String.ofList inner, rest)
    | [] => .error cs
  | _ =>
    let inner := cs.takeWhile isNameChar
    if inner.isEmpty then .error cs else .ok (String.ofList inner, cs.dropWhile isNameChar)

/-! ### Values -/

/-- The text up to a closing quotation mark, and the text after it. A character behind a backslash
does not close. -/
def untilMark? (mark : Char) : List Char → Option (List Char × List Char)
  | [] => none
  | '\\' :: c :: cs => (untilMark? mark cs).map fun (inner, rest) => ('\\' :: c :: inner, rest)
  | c :: cs =>
    if c = mark then some ([], cs)
    else (untilMark? mark cs).map fun (inner, rest) => (c :: inner, rest)

/-- The character for which an escape in double quotes stands. -/
def escaped? : Char → Option Char
  | '\\' => some '\\'
  | '\'' => some '\''
  | '"' => some '"'
  | 'a' => some '\x07'
  | 'b' => some '\x08'
  | 'f' => some '\x0c'
  | 'n' => some '\n'
  | 'r' => some '\r'
  | 't' => some '\t'
  | 'v' => some '\x0b'
  | _ => none

/-- The character for which an escape stands, between the given quotation marks. -/
def escapedIn? (mark c : Char) : Option Char :=
  if mark = '"' then escaped? c
  else if c = '\\' || c = '\'' then some c
  else none

/-- The text with its escapes replaced, between the given quotation marks. -/
def unescape (mark : Char) : List Char → List Char
  | '\\' :: c :: cs =>
    match escapedIn? mark c with
    | some e => e :: unescape mark cs
    | none => '\\' :: c :: unescape mark cs
  | c :: cs => c :: unescape mark cs
  | [] => []

/-- The text before a comment, which begins with blank characters and `#`. -/
def beforeComment : List Char → List Char
  | [] => []
  | c :: cs => if isBlank c && cs.head? == some '#' then [] else c :: beforeComment cs

/-- A value without quotes, which ends with its line. -/
def plainValue (cs : List Char) : String × List Char :=
  (String.ofList (trim (beforeComment (cs.takeWhile (· != '\n')))), cs.dropWhile (· != '\n'))

/-- A value and the text after it. -/
def value (cs : List Char) : Except (List Char) (String × List Char) :=
  match skipSpaces cs with
  | c :: rest =>
    if c = '\'' ∨ c = '"' then
      match untilMark? c rest with
      | some (inner, rest) => .ok (String.ofList (unescape c inner), rest)
      | none => .error (c :: rest)
    else .ok (plainValue cs)
  | [] => .ok ("", [])

/-! ### The file -/

/-- What the text from a name on declares, and the text after the line. -/
def declaration (cs : List Char) : Except (List Char) (Declaration × List Char) := do
  let (name, rest) ← name cs
  match skipSpaces rest with
  | '=' :: rest =>
    let (value, rest) ← value rest
    return ((name, some value), ← endLine rest)
  | rest => return ((name, none), ← endLine rest)

/-- What the text at the front declares, if anything, and the text after it. -/
def step (cs : List Char) : Option Declaration × List Char :=
  match skipExport cs with
  | '#' :: rest => (none, skipLine rest)
  | cs =>
    match declaration cs with
    | .ok (d, rest) => (some d, rest)
    | .error rest => (none, skipLine rest)

/-- The declarations of a text, in order, of which at most `steps` are read. -/
def declarationsFrom : (steps : Nat) → List Char → List Declaration
  | 0, _ => []
  | steps + 1, cs =>
    match cs.dropWhile isBlank with
    | [] => []
    | cs =>
      let (found, rest) := step cs
      found.toList ++ declarationsFrom steps rest

/-- The text without the byte order mark at its front, if it has one. -/
def skipOrderMark : List Char → List Char
  | '\ufeff' :: cs => cs
  | cs => cs

/-- The declarations of a file, in order. Each takes at least one character. -/
def declarations (text : String) : List Declaration :=
  let cs := unifyLineEnds (skipOrderMark text.toList)
  declarationsFrom cs.length cs

/-! ### References -/

/-- The variables that are declared, each name once, at the place of its first declaration. -/
abbrev Variables := List Declaration

/-- Declares a variable, in the place of an earlier declaration of its name if there is one. -/
def Variables.put (vars : Variables) (name : String) (value : Option String) : Variables :=
  if vars.any fun v => decide (v.1 = name) then
    vars.map fun v => if v.1 = name then (name, value) else v
  else vars ++ [(name, value)]

/-- A reference to a variable, after its first two characters. -/
structure Reference where
  name : List Char
  default : List Char
  rest : List Char

/-- The reference whose first two characters stand before a text. -/
def reference? (cs : List Char) : Option Reference :=
  let isNamePart (c : Char) : Bool := c != '}' && c != ':'
  let name := cs.takeWhile isNamePart
  match cs.dropWhile isNamePart with
  | '}' :: rest => some { name, default := [], rest }
  | ':' :: '-' :: cs =>
    match cs.dropWhile (· != '}') with
    | _ :: rest => some { name, default := cs.takeWhile (· != '}'), rest }
    | [] => none
  | _ => none

/-- Replaces the references in a text, of which at most `steps` characters are read. A variable
that is declared without a value is empty. -/
def expandFrom (lookup : String → Option (Option String)) : (steps : Nat) → List Char → List Char
  | 0, _ => []
  | _ + 1, [] => []
  | steps + 1, c :: cs =>
    match (if c = '$' ∧ cs.head? = some '\x7b' then reference? (cs.drop 1) else none) with
    | some r =>
      let value := match lookup (String.ofList r.name) with
        | some value => (value.getD "").toList
        | none => r.default
      value ++ expandFrom lookup steps r.rest
    | none => c :: expandFrom lookup steps cs

/-- Replaces the references in a text. -/
def expand (lookup : String → Option (Option String)) (value : String) : String :=
  let cs := value.toList
  String.ofList (expandFrom lookup cs.length cs)

/-- The value of a variable of the file, else of the environment. -/
def lookup (environment : List (String × String)) (vars : Variables) (name : String) :
    Option (Option String) :=
  (vars.lookup name).or ((environment.lookup name).map some)

/-- The variables of a file. -/
def read (environment : List (String × String)) (text : String) : Variables :=
  (declarations text).foldl
    (fun vars (name, value) => vars.put name (value.map (expand (lookup environment vars)))) []

end EnvFile
end ReplicaRead
