/-!
Whole numbers as decimal numerals.

A reader of numerals refuses at the first character that settles the matter: one that is no digit,
or the digit that carries the value past its bound. A bare sign is refused as if it were a letter.
-/

namespace TenantAuth.Text

/-- Why a text is no numeral of the wanted type. -/
inductive NumeralFault
  | empty
  | invalidDigit
  | tooLarge
  | tooSmall
  deriving DecidableEq

/-- The wording of a fault. -/
def NumeralFault.message : NumeralFault → String
  | .empty => "cannot parse integer from empty string"
  | .invalidDigit => "invalid digit found in string"
  | .tooLarge => "number too large to fit in target type"
  | .tooSmall => "number too small to fit in target type"

/-- The decimal numeral of a number, without leading zeros. -/
def numeral (n : Nat) : List Char := Nat.toDigits 10 n

/-- The value of a decimal digit. -/
def digit? (c : Char) : Option Nat :=
  if '0' ≤ c && c ≤ '9' then some (c.toNat - '0'.toNat) else none

/-- Read digits after those worth `value`; `excess` is the fault of passing `bound`. -/
def readDigits (bound : Nat) (excess : NumeralFault) (value : Nat) :
    List Char → Except NumeralFault Nat
  | [] => .ok value
  | c :: rest =>
    match digit? c with
    | none => .error .invalidDigit
    | some d =>
      if value * 10 + d ≤ bound then readDigits bound excess (value * 10 + d) rest
      else .error excess

/-- The largest unsigned number of 64 bits. -/
def maxUnsigned : Nat := Nat.pow 2 64 - 1

/-- Read an unsigned number of 64 bits, after an optional plus sign. -/
def readUnsigned : List Char → Except NumeralFault Nat
  | [] => .error .empty
  | '+' :: [] => .error .invalidDigit
  | '+' :: rest => readDigits maxUnsigned .tooLarge 0 rest
  | cs => readDigits maxUnsigned .tooLarge 0 cs

/-- Read a signed number of 64 bits, after an optional sign. -/
def readSigned : List Char → Except NumeralFault Int
  | [] => .error .empty
  | '+' :: [] => .error .invalidDigit
  | '-' :: [] => .error .invalidDigit
  | '+' :: rest => (readDigits (Nat.pow 2 63 - 1) .tooLarge 0 rest).map Int.ofNat
  | '-' :: rest => (readDigits (Nat.pow 2 63) .tooSmall 0 rest).map fun n => -(n : Int)
  | cs => (readDigits (Nat.pow 2 63 - 1) .tooLarge 0 cs).map Int.ofNat

end TenantAuth.Text
