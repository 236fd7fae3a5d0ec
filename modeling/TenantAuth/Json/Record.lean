import TenantAuth.Json.Value

/-!
Records, choices and options as JSON values.

A record is an object that gives its fields by name, in any order and with others beside them, or an
array that gives them all by position. A tagged choice is a record whose tag says which; an array
starts with the tag. A missing field is the same as null for an optional field, and refused for any
other.
-/

namespace TenantAuth.Json

/-- The fields of a record with these names. -/
def record? (names : List String) : Json → Option (List (String × Json))
  | .object fields => some fields
  | .array items => if items.length = names.length then some (names.zip items) else none
  | _ => none

/-- The tag of a choice and the record that goes with it. -/
def tagged? (tag : String) : Json → Option (String × Json)
  | .object fields =>
    match fields.lookup tag with
    | some (.string t) => some (t, .object (fields.filter fun f => f.1 != tag))
    | _ => none
  | .array (.string t :: items) => some (t, .array items)
  | _ => none

/-- A name that stands alone, as a string or as an object that gives it null. -/
def name? : Json → Option String
  | .string s => some s
  | .object [(s, .null)] => some s
  | _ => none

/-- A string. -/
def string? : Json → Option String
  | .string s => some s
  | _ => none

/-- A truth value. -/
def bool? : Json → Option Bool
  | .bool b => some b
  | _ => none

/-- A whole number of 64 bits without sign. -/
def unsigned? : Json → Option Nat
  | .number (.whole n) => if 0 ≤ n ∧ n < Nat.pow 2 64 then some n.toNat else none
  | _ => none

/-- A list, when every item is read. -/
def list? {α : Type} (read : Json → Option α) : Json → Option (List α)
  | .array items => items.mapM read
  | _ => none

/-- A value that may be null. -/
def nullable? {α : Type} (read : Json → Option α) : Json → Option (Option α)
  | .null => some none
  | v => (read v).map some

/-- A field that has to be there. -/
def required? {α : Type} (read : Json → Option α) (name : String) (fields : List (String × Json)) :
    Option α :=
  (fields.lookup name).bind read

/-- A field that may be null or missing. -/
def optional? {α : Type} (read : Json → Option α) (name : String) (fields : List (String × Json)) :
    Option (Option α) :=
  match fields.lookup name with
  | none => some none
  | some v => nullable? read v

end TenantAuth.Json
