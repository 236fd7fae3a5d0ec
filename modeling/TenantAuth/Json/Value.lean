import TenantAuth.Number.Double

/-!
JSON values.

A number is whole, when it was written so and fits 64 bits with or without sign, or else a double.
The fields of an object have distinct names and stand in the order of their names.
-/

namespace TenantAuth

/-- A JSON number. -/
inductive JsonNumber
  | whole (n : Int)
  | double (x : Double)
  deriving DecidableEq

/-- A JSON value. -/
inductive Json
  | null
  | bool (b : Bool)
  | number (n : JsonNumber)
  | string (s : String)
  | array (items : List Json)
  | object (fields : List (String × Json))

namespace Json

/-- The fields with one more; a field of that name is replaced. -/
def insertField (name : String) (value : Json) : List (String × Json) → List (String × Json)
  | [] => [(name, value)]
  | (n, v) :: rest =>
    if name = n then (name, value) :: rest
    else if name < n then (name, value) :: (n, v) :: rest
    else (n, v) :: insertField name value rest

/-- The object of fields given in any order; of two with one name the later counts. -/
def ofFields (fields : List (String × Json)) : Json :=
  .object (fields.foldl (fun fs f => insertField f.1 f.2 fs) [])

/-- A whole number. -/
def ofNat (n : Nat) : Json := .number (.whole n)

/-- A text, or null. -/
def ofOption {α : Type} (write : α → Json) : Option α → Json
  | none => .null
  | some a => write a

/-- A list, item by item. -/
def ofList {α : Type} (write : α → Json) (xs : List α) : Json := .array (xs.map write)

mutual

/-- The value with its strings changed; the names of fields stay. -/
def mapStrings (f : String → String) : Json → Json
  | .string s => .string (f s)
  | .array items => .array (mapStringsIn f items)
  | .object fields => .object (mapStringsUnder f fields)
  | v => v

/-- Items with their strings changed. -/
def mapStringsIn (f : String → String) : List Json → List Json
  | [] => []
  | v :: rest => mapStrings f v :: mapStringsIn f rest

/-- Fields with their strings changed. -/
def mapStringsUnder (f : String → String) : List (String × Json) → List (String × Json)
  | [] => []
  | (k, v) :: rest => (k, mapStrings f v) :: mapStringsUnder f rest

end

/-- The value with the field of a name changed, if it has one. -/
def modifyField (name : String) (f : Json → Json) : Json → Json
  | .object fields => .object (fields.map fun e => if e.1 = name then (e.1, f e.2) else e)
  | v => v

/-- The field of a name. -/
def field? (name : String) (fields : List (String × Json)) : Option Json := fields.lookup name

end Json

end TenantAuth
