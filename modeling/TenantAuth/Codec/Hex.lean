import TenantAuth.Text.Utf8
import TenantAuth.Text.Quoted

/-!
Bytes in hexadecimal.

Writing uses lower case and reading takes either. A text of odd length is refused for that before
its characters are looked at, and then the first byte that is no digit is named.
-/

namespace TenantAuth.Codec.Hex

/-- Why a text is not hexadecimal. -/
inductive Fault
  | oddLength
  | invalidCharacter (byte : UInt8) (index : Nat)
  deriving DecidableEq

/-- The wording of a fault; the byte is shown as the character of the same number. -/
def Fault.message : Fault → String
  | .oddLength => "Odd number of digits"
  | .invalidCharacter byte index =>
    s!"Invalid character {Text.quotedLetter (Char.ofNat byte.toNat)} at position {index}"

/-- The digit of a half byte. -/
def digit (n : Nat) : Char := Char.ofNat (if n < 10 then 48 + n else 87 + n)

/-- The value of a digit in either case. -/
def value? (b : UInt8) : Option UInt8 :=
  if 48 ≤ b && b ≤ 57 then some (b - 48)
  else if 97 ≤ b && b ≤ 102 then some (b - 87)
  else if 65 ≤ b && b ≤ 70 then some (b - 55)
  else none

/-- The two digits of each byte, high half first. -/
def encodeChars (bytes : List UInt8) : List Char :=
  bytes.flatMap fun b => [digit (b.toNat / 16), digit (b.toNat % 16)]

/-- Bytes written in lower-case hexadecimal. -/
def encode (bytes : List UInt8) : String := String.ofList (encodeChars bytes)

/-- Read digits two by two, the first at position `index`. -/
def decodePairs (index : Nat) : List UInt8 → Except Fault (List UInt8)
  | [] => .ok []
  | [_] => .error .oddLength
  | high :: low :: rest =>
    match value? high, value? low with
    | some h, some l => (decodePairs (index + 2) rest).map ((h * 16 + l) :: ·)
    | none, _ => .error (.invalidCharacter high index)
    | _, none => .error (.invalidCharacter low (index + 1))

/-- Read a text as hexadecimal. -/
def decode (s : String) : Except Fault (List UInt8) :=
  let bytes := Text.utf8 s
  if bytes.length % 2 = 1 then .error .oddLength else decodePairs 0 bytes

end TenantAuth.Codec.Hex
