import ReplicaRead.Settings.Basic
import ReplicaRead.Text.Entry

/-!
# Sources of settings

Input: the values given by a caller, the environment, and the variables of a file.

Algorithm: for each setting the caller's value comes before the environment, and the environment
before the file; among a caller's values of one name the first counts, otherwise the last, and a
variable without a value counts for nothing. Names are read without regard to the case of letters,
and unknown names are passed over. Each setting is then read by its type.

Results: `Settings.load`, which lists the settings that could not be read.
-/

namespace ReplicaRead

/-- The settings, by name. -/
inductive SettingName where
  | bufferSize
  | clientName
  | defaultChunkSize
  | maxRetries
  | readTimeout
deriving DecidableEq, Repr

namespace SettingName

def text : SettingName → String
  | bufferSize => "buffer_size"
  | clientName => "client_name"
  | defaultChunkSize => "default_chunk_size"
  | maxRetries => "max_retries"
  | readTimeout => "read_timeout"

/-- The name of the environment variable, in small letters. -/
def envName (name : SettingName) : String :=
  "blockview_" ++ name.text

end SettingName

/-- A value for a setting. -/
inductive SettingValue where
  | text (s : String)
  | integer (n : Int)
  | number (x : Binary64)
  | flag (b : Bool)
  | other
deriving DecidableEq, Repr

namespace SettingValue

/-- The value of an integer setting. A floating-point number must have an integer value of at most
64 bits. -/
def integer? : SettingValue → Option Int
  | text s => Text.Entry.integer? s
  | integer n => some n
  | number x => x.integer?.filter fun n => n.natAbs < Nat.pow 2 63
  | flag b => some b.toNat
  | other => none

/-- An integer as a floating-point number, if it is not too great. -/
def ofInteger? (n : Int) : Option Binary64 :=
  match Binary64.ofInt n with
  | .infinite _ => none
  | x => some x

def number? : SettingValue → Option Binary64
  | text s => Text.Entry.number? s
  | integer n => ofInteger? n
  | number x => some x
  | flag b => some (Binary64.ofInt b.toNat)
  | other => none

def text? : SettingValue → Option String
  | text s => some s
  | _ => none

end SettingValue

namespace Settings

/-- Where settings come from. -/
structure Sources where
  given : List (String × SettingValue) := []
  environment : List (String × String) := []
  /-- The variables of a file, of which some may have no value. -/
  file : List (String × Option String) := []

/-- The small letter of a character if that is a letter of ASCII; the sign for kelvin is a capital
K. -/
def lowerChar (c : Char) : Char :=
  if c = '\u212a' then 'k' else c.toLower

/-- Whether a text is a name but for the case of letters. -/
def isName (name text : String) : Bool :=
  text.toList.map lowerChar == name.toList

def firstValue? {α : Type} (name : String) (values : List (String × α)) : Option α :=
  (values.find? fun v => isName name v.1).map (·.2)

def lastValue? {α : Type} (name : String) (values : List (String × α)) : Option α :=
  firstValue? name values.reverse

/-- The value of a setting, from the first source that has one. -/
def Sources.value? (sources : Sources) (name : SettingName) : Option SettingValue :=
  let environment := lastValue? name.envName sources.environment
  let file := (lastValue? name.envName sources.file).join
  (firstValue? name.text sources.given).or ((environment.or file).map .text)

/-- A setting as it is read: its default if no source has it, and its name if it cannot be read. -/
def Sources.setting {α : Type} (sources : Sources) (name : SettingName) (default : α)
    (read : SettingValue → Option α) : Except SettingName α :=
  match sources.value? name with
  | none => .ok default
  | some v =>
    match read v with
    | some a => .ok a
    | none => .error name

/-- The name of a setting that could not be read. -/
def failed? {α : Type} : Except SettingName α → Option SettingName
  | .ok _ => none
  | .error name => some name

/-- The settings from the given sources, or the names of those that could not be read. -/
def load (sources : Sources) : Except (List SettingName) Settings :=
  let defaults : Settings := {}
  let bufferSize := sources.setting .bufferSize defaults.bufferSize SettingValue.integer?
  let clientName := sources.setting .clientName defaults.clientName SettingValue.text?
  let chunkSize :=
    sources.setting .defaultChunkSize defaults.defaultChunkSize SettingValue.integer?
  let maxRetries := sources.setting .maxRetries defaults.maxRetries SettingValue.integer?
  let readTimeout := sources.setting .readTimeout defaults.readTimeout SettingValue.number?
  match bufferSize, clientName, chunkSize, maxRetries, readTimeout with
  | .ok bufferSize, .ok clientName, .ok defaultChunkSize, .ok maxRetries, .ok readTimeout =>
    .ok { readTimeout, maxRetries, bufferSize, clientName, defaultChunkSize }
  | _, _, _, _, _ =>
    .error ([failed? bufferSize, failed? clientName, failed? chunkSize, failed? maxRetries,
      failed? readTimeout].filterMap id)

end Settings
end ReplicaRead
