/-!
Bytes in base 32, in capitals and digits, padded to whole blocks of eight symbols.

A block holds five bytes, or fewer with padding at its end. The bits that padding leaves over must
be zero. Blocks are read one by one, so that each may carry padding of its own.
-/

namespace TenantAuth.Codec.Base32

/-- The symbol of a number below 32. -/
def symbol (n : Nat) : Char := Char.ofNat (if n < 26 then 65 + n else 24 + n)

/-- The value of a symbol. -/
def value? (c : Char) : Option Nat :=
  if 'A' ≤ c && c ≤ 'Z' then some (c.toNat - 65)
  else if '2' ≤ c && c ≤ '7' then some (c.toNat - 24)
  else none

/-- A number written in `count` places of base `2 ^ width`, most significant first. -/
def places (width : Nat) : Nat → Nat → List Nat
  | 0, _ => []
  | count + 1, n => n / Nat.pow 2 (width * count) % Nat.pow 2 width :: places width count n

/-- The number that places of base `2 ^ width` spell. -/
def ofPlaces (width : Nat) (digits : List Nat) : Nat :=
  digits.foldl (fun n d => n * Nat.pow 2 width + d) 0

/-- The symbols of at most five bytes, without padding. -/
def encodeBlock (bytes : List UInt8) : List Char :=
  let bits := 8 * bytes.length
  let count := (bits + 4) / 5
  (places 5 count (ofPlaces 8 (bytes.map UInt8.toNat) * Nat.pow 2 (5 * count - bits))).map symbol

/-- The symbols of bytes, without padding. -/
def encodeUnpadded : List UInt8 → List Char
  | a :: b :: c :: d :: e :: rest => encodeBlock [a, b, c, d, e] ++ encodeUnpadded rest
  | rest => encodeBlock rest

/-- Symbols filled up to whole blocks. -/
def encode (bytes : List UInt8) : String :=
  let symbols := encodeUnpadded bytes
  String.ofList (symbols ++ List.replicate ((8 - symbols.length % 8) % 8) '=')

/-- Read one block of eight characters. -/
def decodeBlock (block : List Char) : Option (List UInt8) := do
  let symbols := (block.reverse.dropWhile (· == '=')).reverse
  let bits := 5 * symbols.length
  if symbols.isEmpty || 5 ≤ bits % 8 then none
  let values ← symbols.mapM value?
  let number := ofPlaces 5 values
  if number % Nat.pow 2 (bits % 8) = 0 then
    some ((places 8 (bits / 8) (number / Nat.pow 2 (bits % 8))).map UInt8.ofNat)
  else none

/-- Read characters block by block. -/
def decodeChars : List Char → Option (List UInt8)
  | [] => some []
  | a :: b :: c :: d :: e :: f :: g :: h :: rest => do
    let block ← decodeBlock [a, b, c, d, e, f, g, h]
    let others ← decodeChars rest
    some (block ++ others)
  | _ => none

/-- Read a text as base 32. -/
def decode (s : String) : Option (List UInt8) := decodeChars s.toList

end TenantAuth.Codec.Base32
