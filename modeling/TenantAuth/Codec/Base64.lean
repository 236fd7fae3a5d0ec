import TenantAuth.Text.Utf8

/-!
Bytes in base 64.

Three bytes make a quad of four symbols; the last quad may be short, and its spare bits are zero.
The standard alphabet is written with padding and, inside password hashes, without; tokens use the
alphabet that is safe in addresses, without padding.

The padded form is read left to right. The last quad is the only place for padding, which must fill
it exactly. A text that is one character longer than whole quads and ends in a character that is no
symbol is refused for that character before anything else.
-/

namespace TenantAuth.Codec.Base64

/-- Why a text is not padded base 64. -/
inductive Fault
  | invalidSymbol (byte : UInt8) (index : Nat)
  | invalidLength (length : Nat)
  | invalidLastSymbol (byte : UInt8) (index : Nat)
  | invalidPadding
  deriving DecidableEq

/-- The wording of a fault. -/
def Fault.message : Fault → String
  | .invalidSymbol byte index => s!"Invalid symbol {byte.toNat}, offset {index}."
  | .invalidLength length => s!"Invalid input length: {length}"
  | .invalidLastSymbol byte index => s!"Invalid last symbol {byte.toNat}, offset {index}."
  | .invalidPadding => "Invalid padding"

/-- The two symbols in which alphabets differ. -/
structure Alphabet where
  symbol62 : Char
  symbol63 : Char

/-- The alphabet with plus and slash. -/
def standard : Alphabet := ⟨'+', '/'⟩

/-- The alphabet that is safe in addresses and file names. -/
def urlSafe : Alphabet := ⟨'-', '_'⟩

/-- The symbol of a number below 64. -/
def Alphabet.symbol (a : Alphabet) (n : Nat) : Char :=
  if n < 26 then Char.ofNat (65 + n)
  else if n < 52 then Char.ofNat (71 + n)
  else if n < 62 then Char.ofNat (n - 4)
  else if n = 62 then a.symbol62
  else a.symbol63

/-- The value of a symbol of the standard alphabet. -/
def value? (b : UInt8) : Option Nat :=
  if 65 ≤ b && b ≤ 90 then some (b.toNat - 65)
  else if 97 ≤ b && b ≤ 122 then some (b.toNat - 71)
  else if 48 ≤ b && b ≤ 57 then some (b.toNat + 4)
  else if b = 43 then some 62
  else if b = 47 then some 63
  else none

/-- The padding byte. -/
def pad : UInt8 := 61

/-- The symbols of bytes, without padding. -/
def Alphabet.encodeChars (a : Alphabet) : List UInt8 → List Char
  | x :: y :: z :: rest =>
    [a.symbol (x.toNat / 4), a.symbol (x.toNat % 4 * 16 + y.toNat / 16),
      a.symbol (y.toNat % 16 * 4 + z.toNat / 64), a.symbol (z.toNat % 64)] ++ a.encodeChars rest
  | [x, y] =>
    [a.symbol (x.toNat / 4), a.symbol (x.toNat % 4 * 16 + y.toNat / 16),
      a.symbol (y.toNat % 16 * 4)]
  | [x] => [a.symbol (x.toNat / 4), a.symbol (x.toNat % 4 * 16)]
  | [] => []

/-- Bytes in an alphabet, without padding. -/
def Alphabet.encodeUnpadded (a : Alphabet) (bytes : List UInt8) : String :=
  String.ofList (a.encodeChars bytes)

/-- Bytes in the standard alphabet, padded to whole quads. -/
def encode (bytes : List UInt8) : String :=
  String.ofList (standard.encodeChars bytes ++ List.replicate ((3 - bytes.length % 3) % 3) '=')

/-- The bytes of two to four symbol values, when the spare bits are zero. -/
def quadBytes? : List Nat → Option (List UInt8)
  | [a, b] => if b % 16 = 0 then some [UInt8.ofNat (a * 4 + b / 16)] else none
  | [a, b, c] =>
    if c % 4 = 0 then some [UInt8.ofNat (a * 4 + b / 16), UInt8.ofNat (b % 16 * 16 + c / 4)]
    else none
  | [a, b, c, d] =>
    some [UInt8.ofNat (a * 4 + b / 16), UInt8.ofNat (b % 16 * 16 + c / 4),
      UInt8.ofNat (c % 4 * 64 + d)]
  | _ => none

/-- The values of symbols, or the first byte that is none; the first is at position `index`. -/
def values (index : Nat) : List UInt8 → Except Fault (List Nat)
  | [] => .ok []
  | b :: rest =>
    match value? b with
    | none => .error (.invalidSymbol b index)
    | some v => (values (index + 1) rest).map (v :: ·)

/-- The symbols of the last quad and the amount of padding after them, when padding is in its
place. -/
def lastQuad (index : Nat) (quad : List UInt8) : Except Fault (List UInt8 × Nat) :=
  let symbols := quad.takeWhile (· != pad)
  let padding := quad.drop symbols.length
  match values index symbols with
  | .error fault => .error fault
  | .ok _ =>
    if padding.isEmpty then .ok (symbols, 0)
    else if symbols.length < 2 || padding.any (· != pad) then
      .error (.invalidSymbol pad (index + symbols.length))
    else .ok (symbols, padding.length)

/-- Read the last quad, which starts at position `index`. -/
def decodeLast (index : Nat) (quad : List UInt8) : Except Fault (List UInt8) := do
  if quad.isEmpty then return []
  let (symbols, padding) ← lastQuad index quad
  if symbols.length < 2 then throw (.invalidLength (index + symbols.length))
  if (symbols.length + padding) % 4 ≠ 0 then throw .invalidPadding
  match quadBytes? (← values index symbols) with
  | some bytes => return bytes
  | none => throw (.invalidLastSymbol (symbols.getLastD pad) (index + symbols.length - 1))

/-- Read quads from position `index` on. -/
def decodeQuads (index : Nat) : List UInt8 → Except Fault (List UInt8)
  | a :: b :: c :: d :: e :: rest => do
    let quad ← values index [a, b, c, d]
    let others ← decodeQuads (index + 4) (e :: rest)
    return (quadBytes? quad).getD [] ++ others
  | quad => decodeLast index quad

/-- The character beyond whole quads, when it is the only one there and no symbol. -/
def strayLast? (bytes : List UInt8) : Option UInt8 :=
  if bytes.length % 4 = 1 then
    bytes.getLast?.filter fun b => b != pad && (value? b).isNone
  else none

/-- Read a text as padded base 64 in the standard alphabet. -/
def decode (s : String) : Except Fault (List UInt8) :=
  let bytes := Text.utf8 s
  match strayLast? bytes with
  | some b => .error (.invalidSymbol b (bytes.length - 1))
  | none => decodeQuads 0 bytes

/-- Read unpadded base 64 in the standard alphabet. -/
def decodeUnpadded? : List UInt8 → Option (List UInt8)
  | a :: b :: c :: d :: rest => do
    let quad ← quadBytes? (← [a, b, c, d].mapM value?)
    let others ← decodeUnpadded? rest
    some (quad ++ others)
  | [] => some []
  | quad => do quadBytes? (← quad.mapM value?)

end TenantAuth.Codec.Base64
