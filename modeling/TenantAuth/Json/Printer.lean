import TenantAuth.Json.Value
import TenantAuth.Number.Shortest
import TenantAuth.Text.Numeral

/-!
JSON as compact text.

Doubles are written with their shortest digits: plainly while the first digit stands for 10^-5 to
10^15, with at least one digit after the point, and otherwise with an exponent that shows its sign.
-/

namespace TenantAuth.Json

/-- The powers of ten of the first digit that are written plainly. -/
structure PlainRange where
  low : Int
  high : Int

/-- Doubles are written plainly from 0.00001 up to below 10^16. -/
def plainRange : PlainRange := ⟨-5, 15⟩

/-- The numeral of a number, filled up with zeros on the left. -/
def paddedNumeral (width n : Nat) : List Char :=
  let digits := Text.numeral n
  List.replicate (width - digits.length) '0' ++ digits

/-- The numeral of an exponent behind its sign. -/
def exponentText (e : Int) : List Char :=
  if e < 0 then '-' :: Text.numeral (-e).toNat else '+' :: Text.numeral e.toNat

/-- A positive decimal as text. -/
def decimalText (d : Double.Decimal) : List Char :=
  let digits := Text.numeral d.digits
  if plainRange.low ≤ d.exponent ∧ d.exponent ≤ plainRange.high then
    if d.exponent < 0 then
      ['0', '.'] ++ List.replicate (-d.exponent - 1).toNat '0' ++ digits
    else
      let wholeCount := d.exponent.toNat + 1
      let filled := digits ++ List.replicate (wholeCount - digits.length) '0'
      let rest := filled.drop wholeCount
      filled.take wholeCount ++ '.' :: (if rest.isEmpty then ['0'] else rest)
  else
    match digits with
    | [] => []
    | [first] => first :: 'e' :: exponentText d.exponent
    | first :: rest => first :: '.' :: rest ++ 'e' :: exponentText d.exponent

/-- A double as text. -/
def doubleText (x : Double) : List Char :=
  let size := if x.isZero then ['0', '.', '0'] else decimalText x.shortest
  if x.isNegative then '-' :: size else size

/-- A number as text. -/
def numberText : JsonNumber → List Char
  | .whole n => if n < 0 then '-' :: Text.numeral n.natAbs else Text.numeral n.natAbs
  | .double x => doubleText x

/-- One character of a string. -/
def escapedChar (c : Char) : List Char :=
  if c = '"' then ['\\', '"']
  else if c = '\\' then ['\\', '\\']
  else if c = '\n' then ['\\', 'n']
  else if c = '\r' then ['\\', 'r']
  else if c = '\t' then ['\\', 't']
  else if c = '\x08' then ['\\', 'b']
  else if c = '\x0c' then ['\\', 'f']
  else if c.toNat < 0x20 then
    ['\\', 'u', '0', '0', Nat.digitChar (c.toNat / 16), Nat.digitChar (c.toNat % 16)]
  else [c]

/-- A string between quotes. -/
def stringText (s : String) : List Char := '"' :: s.toList.flatMap escapedChar ++ ['"']

mutual

/-- A value as compact text. -/
def text : Json → List Char
  | .null => ['n', 'u', 'l', 'l']
  | .bool true => ['t', 'r', 'u', 'e']
  | .bool false => ['f', 'a', 'l', 's', 'e']
  | .number n => numberText n
  | .string s => stringText s
  | .array items => '[' :: itemsText items ++ [']']
  | .object fields => '\x7b' :: fieldsText fields ++ ['\x7d']

/-- Items between commas. -/
def itemsText : List Json → List Char
  | [] => []
  | [v] => text v
  | v :: rest => text v ++ ',' :: itemsText rest

/-- Fields between commas. -/
def fieldsText : List (String × Json) → List Char
  | [] => []
  | [(k, v)] => stringText k ++ ':' :: text v
  | (k, v) :: rest => stringText k ++ ':' :: text v ++ ',' :: fieldsText rest

end

/-- A value as a compact line of text. -/
def compact (v : Json) : String := String.ofList (text v)

end TenantAuth.Json
