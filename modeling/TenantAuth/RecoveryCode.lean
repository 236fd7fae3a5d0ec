import TenantAuth.Text.Case

/-!
Recovery codes, each of which stands in for an authenticator once.

A list of codes is kept as one text with semicolons between them. What a person types counts without
hyphens and blanks and in upper case.
-/

namespace TenantAuth.RecoveryCode

/-- What separates codes. -/
def separator : Char := ';'

/-- The code that a person means by a text. -/
def normalize (typed : String) : String :=
  Text.uppercase (String.ofList (typed.toList.filter fun c => c ≠ '-' && !Text.isBlank c))

/-- Codes as one text. -/
def join (codes : List String) : String :=
  String.ofList (Text.joinWith separator (codes.map String.toList))

/-- The pieces of a text between separators. -/
def pieces (text : String) : List String :=
    (Text.splitOnChar separator text.toList).map String.ofList

/-- The codes that a text lists; empty pieces are no codes. -/
def split (text : String) : List String := (pieces text).filter fun code => !code.isEmpty

/-- The number of codes that are made at a time. -/
def count : Nat := 10

/-- The length of a code. -/
def length : Nat := 16

/-- The symbol that a random byte selects, among letters of both cases and digits, in upper case. -/
def symbol (b : UInt8) : Char :=
  let n := b.toNat % 62
  Char.ofNat (if n < 26 then 65 + n else if n < 52 then 39 + n else n - 4)

/-- Bytes in groups of the length of a code. -/
def groups : Nat → List UInt8 → List (List UInt8)
  | 0, _ => []
  | n + 1, bytes => bytes.take length :: groups n (bytes.drop length)

/-- The codes of random bytes. -/
def ofBytes (bytes : List UInt8) : List String :=
  (groups count bytes).map fun group => String.ofList (group.map symbol)

end TenantAuth.RecoveryCode
