import TenantAuth.Json.Printer
import TenantAuth.Json.Reader
import TenantAuth.Text.Blank

/-!
The settings of a tenant.

Settings are given as a JSON object of any depth and held under flat keys: the names and item
numbers on the way to a value, joined by colons. Null and the empty text are no settings. One key is
not kept but lists which of the others hold encrypted values.
-/

namespace TenantAuth

/-- A setting. -/
structure Setting where
  value : String
  isEncrypted : Bool
  deriving DecidableEq

/-- Why settings cannot be read. -/
inductive SettingsFault
  | malformed (reason : String)
  | notAnObject
  | unreadable (path reason : String)
  deriving DecidableEq

/-- The wording of a fault. -/
def SettingsFault.message : SettingsFault → String
  | .malformed reason => "Failed to parse settings: " ++ reason
  | .notAnObject => "Settings root must be a JSON object"
  | .unreadable path reason => s!"Failed to read settings file {path}: {reason}"

/-- The code of a fault. -/
def SettingsFault.code : SettingsFault → String
  | .malformed _ => "parse"
  | .notAnObject => "not_an_object"
  | .unreadable _ _ => "io"

/-- Texts under keys, in the order of the keys. -/
abbrev TextTable := List (String × String)

/-- The table with one more text; one that was there under the key is replaced. -/
def TextTable.insert (table : TextTable) (key text : String) : TextTable :=
  match table with
  | [] => [(key, text)]
  | (k, t) :: rest =>
    if key = k then (key, text) :: rest
    else if key < k then (key, text) :: (k, t) :: rest
    else (k, t) :: TextTable.insert rest key text

namespace Settings

/-- The key that lists the keys of encrypted values. -/
def encryptedKey : String := "SettingsEncryptedAtRest"

/-- The key of a field below a key; at the top there is nothing to join. -/
def fieldKey (above name : String) : String := if above = "" then name else above ++ ":" ++ name

/-- The key of an item below a key. -/
def itemKey (above : String) (index : Nat) : String :=
  above ++ ":" ++ String.ofList (Text.numeral index)

mutual

/-- The settings that a value holds under a key, in the order in which they are met. -/
def leaves (key : String) : Json → List (String × String)
  | .null => []
  | .string s => if s = "" then [] else [(key, s)]
  | .bool b => [(key, if b then "true" else "false")]
  | .number n => [(key, String.ofList (Json.numberText n))]
  | .array items => itemLeaves key 0 items
  | .object fields => fieldLeaves key fields

/-- The settings that items hold, the first of them numbered `index`. -/
def itemLeaves (key : String) (index : Nat) : List Json → List (String × String)
  | [] => []
  | v :: rest => leaves (itemKey key index) v ++ itemLeaves key (index + 1) rest

/-- The settings that fields hold. -/
def fieldLeaves (key : String) : List (String × Json) → List (String × String)
  | [] => []
  | (name, v) :: rest => leaves (fieldKey key name) v ++ fieldLeaves key rest

end

/-- Whether a character separates the listed keys. -/
def isSeparator (c : Char) : Bool := c = ' ' || c = ',' || c = ';'

/-- The pieces of a text between separators, without the empty ones. -/
def listedKeys (cs : List Char) : List String :=
  let rec go (piece : List Char) : List Char → List (List Char)
    | [] => [piece.reverse]
    | c :: rest => if isSeparator c then piece.reverse :: go [] rest else go (c :: piece) rest
  ((go [] cs).filter fun piece => !piece.isEmpty).map String.ofList

end Settings

/-- The settings of a tenant, in the order of their keys. -/
structure Settings where
  entries : List (String × Setting)
  deriving DecidableEq

namespace Settings

/-- The settings that a JSON value holds. -/
def ofJson : Json → Except SettingsFault Settings
  | .object fields =>
    let table : TextTable := (fieldLeaves "" fields).foldl (fun t e => t.insert e.1 e.2) []
    let encrypted := listedKeys ((table.lookup encryptedKey).getD "").toList
    let kept := table.filter fun e => e.1 ≠ encryptedKey
    .ok ⟨kept.map fun e => (e.1, ⟨e.2, encrypted.contains e.1⟩)⟩
  | _ => .error .notAnObject

/-- The settings that a text holds. -/
def ofText (s : String) : Except SettingsFault Settings :=
  match Json.parse s with
  | .ok v => ofJson v
  | .error reason => .error (.malformed reason)

/-- The settings that a file holds, given its content or the reason why there is none; content that
is no text cannot be read either. -/
def ofFile (path : String) (content : Except String (List UInt8)) : Except SettingsFault Settings :=
  match content with
  | .error reason => .error (.unreadable path reason)
  | .ok bytes =>
    match Text.ofUtf8 bytes with
    | .ok s => ofText s
    | .error _ => .error (.unreadable path "stream did not contain valid UTF-8")

/-- The setting of a key. -/
def get? (s : Settings) (key : String) : Option Setting := s.entries.lookup key

/-- The number of settings. -/
def size (s : Settings) : Nat := s.entries.length

end Settings

end TenantAuth
