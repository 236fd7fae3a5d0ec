import TenantAuth.Text.Quoted

/-!
Values shown to readers of diagnostics.

A record shows its name and then its fields in braces; a value that may be absent and a list show
what they hold. Secrets are never shown: a fixed word stands in their place.
-/

namespace TenantAuth.Text

/-- What stands in the place of a secret. -/
def redacted : String := quoted "[REDACTED]"

/-- A record with its fields. -/
def shownRecord (name : String) (fields : List (String × String)) : String :=
  name ++ " \x7b " ++ ", ".intercalate (fields.map fun f => f.1 ++ ": " ++ f.2) ++ " \x7d"

/-- A record of which some fields are left out. -/
def shownPartly (name : String) (fields : List (String × String)) : String :=
  name ++ " \x7b " ++ String.join (fields.map fun f => f.1 ++ ": " ++ f.2 ++ ", ") ++ ".. \x7d"

/-- A value around another one. -/
def shownAround (name inner : String) : String := name ++ "(" ++ inner ++ ")"

/-- A value that may be absent. -/
def shownOption {α : Type} (inner : α → String) : Option α → String
  | none => "None"
  | some a => shownAround "Some" (inner a)

/-- A list. -/
def shownList {α : Type} (item : α → String) (xs : List α) : String :=
  "[" ++ ", ".intercalate (xs.map item) ++ "]"

/-- A truth value. -/
def shownBool (b : Bool) : String := if b then "true" else "false"

end TenantAuth.Text
