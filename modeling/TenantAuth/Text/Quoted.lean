import TenantAuth.Text.Quoted.Table
import TenantAuth.Text.Blank

/-!
Text shown between quotes, for readers of diagnostics.

The quote of the chosen kind, the backslash and the common controls have short escapes; every other
character that would not show as itself is written as its code point in lower-case hexadecimal.
-/

namespace TenantAuth.Text

/-- The lower-case hexadecimal numeral of a number. -/
def hexNumeral (n : Nat) : List Char := Nat.toDigits 16 n

/-- One character of quoted text, where `quote` is the surrounding quote. -/
def quotedChar (quote : Char) (c : Char) : List Char :=
  if c = quote || c = '\\' then ['\\', c]
  else if c = '\x00' then ['\\', '0']
  else if c = '\t' then ['\\', 't']
  else if c = '\n' then ['\\', 'n']
  else if c = '\r' then ['\\', 'r']
  else if 0x20 ≤ c.toNat && c.toNat < 0x7F then [c]
  else if inRanges graphemeExtendRanges c.toNat || inRanges unprintableRanges c.toNat then
    ['\\', 'u', '\x7b'] ++ hexNumeral c.toNat ++ ['\x7d']
  else [c]

/-- A text between double quotes. -/
def quoted (s : String) : String :=
  String.ofList ('"' :: s.toList.flatMap (quotedChar '"') ++ ['"'])

/-- A character between single quotes. -/
def quotedLetter (c : Char) : String := String.ofList ('\'' :: quotedChar '\'' c ++ ['\''])

end TenantAuth.Text
