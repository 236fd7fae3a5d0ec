import TenantAuth.Text.Utf8

/-!
Percent-encoding: the unreserved characters of an address stand for themselves, and every other byte
is written as a percent sign and two capital hexadecimal digits.
-/

namespace TenantAuth.Codec.Percent

/-- Letters, digits and the four marks that never need encoding. -/
def isUnreserved (b : UInt8) : Bool :=
  (48 ≤ b && b ≤ 57) || (65 ≤ b && b ≤ 90) || (97 ≤ b && b ≤ 122) ||
    b = 45 || b = 46 || b = 95 || b = 126

/-- The capital digit of a half byte. -/
def digit (n : Nat) : Char := Char.ofNat (if n < 10 then 48 + n else 55 + n)

/-- One byte, encoded where needed. -/
def encodeByte (b : UInt8) : List Char :=
  if isUnreserved b then [Char.ofNat b.toNat]
  else ['%', digit (b.toNat / 16), digit (b.toNat % 16)]

/-- A text with every reserved byte encoded. -/
def encode (s : String) : String := String.ofList ((Text.utf8 s).flatMap encodeByte)

end TenantAuth.Codec.Percent
