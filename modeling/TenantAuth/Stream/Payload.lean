import TenantAuth.Json.Printer
import TenantAuth.Text.Quoted

/-!
The data of the event that the second factor was asked for, or no longer.

Data of another shape is refused with what was found and what was expected in its place. A record
may be given by name or by position.
-/

namespace TenantAuth

/-- That the second factor was asked for, or no longer. -/
structure MfaOptionsChanged where
  isEnabled : Bool
  deriving DecidableEq

/-- Why data has not the shape that is wanted. -/
inductive ShapeFault
  | missingField (name : String)
  | invalidType (found expected : String)
  | tooShort (length : Nat) (expected : String)
  | tooLong (length : Nat)
  deriving DecidableEq

/-- The wording of a fault. -/
def ShapeFault.message : ShapeFault → String
  | .missingField name => s!"missing field `{name}`"
  | .invalidType found expected => s!"invalid type: {found}, expected {expected}"
  | .tooShort length expected => s!"invalid length {length}, expected {expected}"
  | .tooLong length => s!"invalid length {length}, expected fewer elements in array"

/-- A value as it is named when something else was expected. -/
def Json.found : Json → String
  | .null => "null"
  | .bool true => "boolean `true`"
  | .bool false => "boolean `false`"
  | .number (.whole n) => "integer `" ++ String.ofList (Json.numberText (.whole n)) ++ "`"
  | .number (.double x) => "floating point `" ++ String.ofList (Json.doubleText x) ++ "`"
  | .string s => "string " ++ Text.quoted s
  | .array _ => "sequence"
  | .object _ => "map"

namespace MfaOptionsChanged

/-- What data of this shape is called. -/
def shapeName : String := "struct MfaOptionsChanged"

/-- The truth value that has to be there. -/
def flag : Json → Except ShapeFault Bool
  | .bool b => .ok b
  | v => .error (.invalidType v.found "a boolean")

/-- Read data. -/
def ofJson : Json → Except ShapeFault MfaOptionsChanged
  | .object fields =>
    match fields.lookup "is_enabled" with
    | some v => (flag v).map MfaOptionsChanged.mk
    | none => .error (.missingField "is_enabled")
  | .array [] => .error (.tooShort 0 (shapeName ++ " with 1 element"))
  | .array (v :: rest) =>
    match flag v with
    | .error fault => .error fault
    | .ok b => if rest.isEmpty then .ok ⟨b⟩ else .error (.tooLong (rest.length + 1))
  | v => .error (.invalidType v.found shapeName)

/-- Write data. -/
def toJson (e : MfaOptionsChanged) : Json := Json.ofFields [("is_enabled", .bool e.isEnabled)]

end MfaOptionsChanged

end TenantAuth
