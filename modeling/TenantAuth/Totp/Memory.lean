import TenantAuth.Text.Blank
import TenantAuth.Text.Numeral

/-!
The steps whose codes were used lately, as one text.

Steps are written in the order of their use with commas between them. What is not a step is passed
over in reading. Only the latest steps are remembered, at least one.
-/

namespace TenantAuth.Totp.Memory

/-- What separates steps. -/
def separator : Char := ','

/-- The step that a piece of text gives. -/
def step? (piece : List Char) : Option Nat := (Text.readUnsigned (Text.trim piece)).toOption

/-- The steps that a text lists. -/
def ofText (text : String) : List Nat := (Text.splitOnChar separator text.toList).filterMap step?

/-- The steps that are remembered, if any are. -/
def read (memory : Option String) : List Nat := (memory.map ofText).getD []

/-- Steps as a text. -/
def toText (steps : List Nat) : String :=
  String.ofList (Text.joinWith separator (steps.map Text.numeral))

/-- The steps after one more was used: the others in their order, then this one, cut to the
latest. -/
def record (recent : List Nat) (step limit : Nat) : List Nat :=
  let steps := recent.filter (· ≠ step) ++ [step]
  steps.drop (steps.length - max limit 1)

end TenantAuth.Totp.Memory
