import TenantAuth.Json.Value
import TenantAuth.Text.Utf8

/-!
Reading JSON text, with the place of the first fault.

The reader goes over the bytes once. Whoever reads a part gets the bytes from there on with their
number, and gives back the value and what is left. A fault names the number of bytes up to and
including the one that shows it, or all of them when the text ends too early.

Numbers keep at most as many leading digits as fit 64 bits; further digits before the point count
only as powers of ten, and further digits after it not at all.
-/

namespace TenantAuth.Json

/-- What is wrong with a JSON text. -/
inductive Flaw
  | endInValue
  | endInObject
  | endInList
  | endInString
  | expectedValue
  | expectedIdent
  | expectedColon
  | expectedCommaOrBrace
  | expectedCommaOrBracket
  | keyMustBeString
  | trailingComma
  | trailingCharacters
  | invalidNumber
  | numberOutOfRange
  | invalidEscape
  | endOfHexEscape
  | loneSurrogate
  | controlCharacter
  | recursionLimit
  deriving DecidableEq

/-- The wording of a flaw. -/
def Flaw.message : Flaw → String
  | .endInValue => "EOF while parsing a value"
  | .endInObject => "EOF while parsing an object"
  | .endInList => "EOF while parsing a list"
  | .endInString => "EOF while parsing a string"
  | .expectedValue => "expected value"
  | .expectedIdent => "expected ident"
  | .expectedColon => "expected `:`"
  | .expectedCommaOrBrace => "expected `,` or `\x7d`"
  | .expectedCommaOrBracket => "expected `,` or `]`"
  | .keyMustBeString => "key must be a string"
  | .trailingComma => "trailing comma"
  | .trailingCharacters => "trailing characters"
  | .invalidNumber => "invalid number"
  | .numberOutOfRange => "number out of range"
  | .invalidEscape => "invalid escape"
  | .endOfHexEscape => "unexpected end of hex escape"
  | .loneSurrogate => "lone leading surrogate in hex escape"
  | .controlCharacter => "control character (\\u0000-\\u001F) found while parsing a string"
  | .recursionLimit => "recursion limit exceeded"

/-- The bytes from a place on, and the number of bytes before it. -/
structure Cursor where
  index : Nat
  rest : List UInt8

/-- A flaw and the number of bytes up to it. -/
structure Fault where
  flaw : Flaw
  index : Nat
  deriving DecidableEq

/-- A value and the place behind it, or a fault. -/
abbrev Reading (α : Type) := Except Fault (α × Cursor)

/-- The fault at the next byte, which shows it; at the end there is no such byte. -/
def Cursor.atNext (c : Cursor) (flaw : Flaw) : Fault :=
  ⟨flaw, if c.rest.isEmpty then c.index else c.index + 1⟩

/-- The fault behind the bytes that were read. -/
def Cursor.here (c : Cursor) (flaw : Flaw) : Fault := ⟨flaw, c.index⟩

/-- The place behind the next byte. -/
def Cursor.skip (c : Cursor) : Cursor := ⟨c.index + 1, c.rest.tail⟩

/-- The next byte. -/
def Cursor.peek? (c : Cursor) : Option UInt8 := c.rest.head?

/-- The four bytes that may stand between parts. -/
def isSpace (b : UInt8) : Bool := b = 0x20 || b = 0x09 || b = 0x0A || b = 0x0D

/-- The place behind spaces. -/
def skipSpaces (index : Nat) : List UInt8 → Cursor
  | [] => ⟨index, []⟩
  | b :: rest => if isSpace b then skipSpaces (index + 1) rest else ⟨index, b :: rest⟩

/-- The place of the next byte that is no space. -/
def Cursor.next (c : Cursor) : Cursor := skipSpaces c.index c.rest

/-- The rest of a word whose first letter was read. -/
def readWord (value : Json) : List UInt8 → Cursor → Reading Json
  | [], c => .ok (value, c)
  | b :: word, ⟨index, rest⟩ =>
    match rest with
    | [] => .error ⟨.endInValue, index⟩
    | x :: rest =>
      if x = b then readWord value word ⟨index + 1, rest⟩ else .error ⟨.expectedIdent, index + 1⟩

/-! ### Numbers -/

/-- The value of a decimal digit. -/
def digitOf? (b : UInt8) : Option Nat := if 48 ≤ b && b ≤ 57 then some (b.toNat - 48) else none

/-- Digits that were read as one number of 64 bits. -/
structure Digits where
  value : Nat
  count : Nat
  isFull : Bool
  cursor : Cursor

/-- Read digits after those worth `value` while the number fits 64 bits. -/
def readDigits (value count index : Nat) : List UInt8 → Digits
  | [] => ⟨value, count, false, ⟨index, []⟩⟩
  | b :: rest =>
    match digitOf? b with
    | none => ⟨value, count, false, ⟨index, b :: rest⟩⟩
    | some d =>
      if value * 10 + d < Nat.pow 2 64 then readDigits (value * 10 + d) (count + 1) (index + 1) rest
      else ⟨value, count, true, ⟨index, b :: rest⟩⟩

/-- Pass over digits and count them. -/
def skipDigits (count index : Nat) : List UInt8 → Nat × Cursor
  | [] => (count, ⟨index, []⟩)
  | b :: rest =>
    match digitOf? b with
    | none => (count, ⟨index, b :: rest⟩)
    | some _ => skipDigits (count + 1) (index + 1) rest

/-- The bound of an exponent's numeral. -/
def maxExponentNumeral : Nat := Nat.pow 2 31 - 1

/-- Read the digits of an exponent after those worth `value`; none when they pass the bound. -/
def readExponentDigits (value index : Nat) : List UInt8 → Option Nat × Cursor
  | [] => (some value, ⟨index, []⟩)
  | b :: rest =>
    match digitOf? b with
    | none => (some value, ⟨index, b :: rest⟩)
    | some d =>
      if value * 10 + d ≤ maxExponentNumeral then
        readExponentDigits (value * 10 + d) (index + 1) rest
      else (none, ⟨index + 1, rest⟩)

/-- The double of digits and a power of ten. -/
def doubleAt (isNegative : Bool) (value : Nat) (power : Int) (c : Cursor) : Reading Json :=
  match Double.ofDecimal? isNegative value power with
  | some x => .ok (.number (.double x), c)
  | none => .error (c.here .numberOutOfRange)

/-- Read an exponent, whose letter was read, for digits that already carry a power of ten. -/
def readExponent (isNegative : Bool) (value : Nat) (power : Int) (c : Cursor) : Reading Json :=
  let (isDown, c) : Bool × Cursor :=
    if c.peek? = some 45 then (true, c.skip)
    else if c.peek? = some 43 then (false, c.skip)
    else (false, c)
  match c.rest with
  | [] => .error (c.here .endInValue)
  | b :: rest =>
    match digitOf? b with
    | none => .error ⟨.invalidNumber, c.index + 1⟩
    | some d =>
      match readExponentDigits d (c.index + 1) rest with
      | (some e, c) => doubleAt isNegative value (if isDown then power - e else power + e) c
      | (none, c) =>
        if value ≠ 0 ∧ ¬isDown then .error (c.here .numberOutOfRange)
        else
          let (_, c) := skipDigits 0 c.index c.rest
          .ok (.number (.double ⟨isNegative, 0, Double.minExponent⟩), c)

/-- Whether an exponent follows. -/
def Cursor.atExponent (c : Cursor) : Bool := c.peek? = some 0x65 || c.peek? = some 0x45

/-- Finish a number whose digits carry a power of ten. -/
def readPower (isNegative : Bool) (value : Nat) (power : Int) (c : Cursor) : Reading Json :=
  if c.atExponent then readExponent isNegative value power c.skip
  else doubleAt isNegative value power c

/-- Read the digits behind a point that was read. -/
def readFraction (isNegative : Bool) (value : Nat) (power : Int) (c : Cursor) : Reading Json :=
  let digits := readDigits value 0 c.index c.rest
  let power := power - digits.count
  if digits.isFull then
    let (_, c) := skipDigits 0 digits.cursor.index digits.cursor.rest
    readPower isNegative digits.value power c
  else if digits.count = 0 then
    match digits.cursor.rest with
    | [] => .error (digits.cursor.here .endInValue)
    | _ => .error (digits.cursor.atNext .invalidNumber)
  else readPower isNegative digits.value power digits.cursor

/-- A whole number, unless it is negative zero or too small for 64 bits. -/
def wholeOf (isNegative : Bool) (value : Nat) (c : Cursor) : Reading Json :=
  if ¬isNegative then .ok (.number (.whole value), c)
  else if 0 < value ∧ value ≤ Nat.pow 2 63 then .ok (.number (.whole (-value)), c)
  else doubleAt true value 0 c

/-- Finish a number whose whole part was read. -/
def readAfterWhole (isNegative : Bool) (value : Nat) (c : Cursor) : Reading Json :=
  if c.peek? = some 46 then readFraction isNegative value 0 c.skip
  else if c.atExponent then readExponent isNegative value 0 c.skip
  else wholeOf isNegative value c

/-- Read a number behind its sign. -/
def readNumber (isNegative : Bool) (c : Cursor) : Reading Json :=
  match c.rest with
  | [] => .error (c.here .endInValue)
  | b :: rest =>
    match digitOf? b with
    | none => .error ⟨.invalidNumber, c.index + 1⟩
    | some 0 =>
      let c := c.skip
      match c.peek?.bind digitOf? with
      | some _ => .error (c.atNext .invalidNumber)
      | none => readAfterWhole isNegative 0 c
    | some d =>
      let digits := readDigits d 1 (c.index + 1) rest
      if digits.isFull then
        let (extra, c) := skipDigits 0 digits.cursor.index digits.cursor.rest
        if c.peek? = some 46 then readFraction isNegative digits.value extra c.skip
        else readPower isNegative digits.value extra c
      else readAfterWhole isNegative digits.value digits.cursor

/-! ### Strings -/

/-- The value of a hexadecimal digit. -/
def hexOf? (b : UInt8) : Option Nat :=
  if 48 ≤ b && b ≤ 57 then some (b.toNat - 48)
  else if 97 ≤ b && b ≤ 102 then some (b.toNat - 87)
  else if 65 ≤ b && b ≤ 70 then some (b.toNat - 55)
  else none

/-- Read four hexadecimal digits. -/
def readHex (c : Cursor) : Reading Nat :=
  match c.rest with
  | w :: x :: y :: z :: rest =>
    match hexOf? w, hexOf? x, hexOf? y, hexOf? z with
    | some w, some x, some y, some z => .ok (((w * 16 + x) * 16 + y) * 16 + z, ⟨c.index + 4, rest⟩)
    | _, _, _, _ => .error ⟨.invalidEscape, c.index + 4⟩
  | rest => .error ⟨.endInString, c.index + rest.length⟩

/-- Read the expected byte between the halves of a pair. -/
def readPairByte (expected : UInt8) (c : Cursor) : Reading Unit :=
  match c.rest with
  | [] => .error (c.here .endInString)
  | b :: rest =>
    if b = expected then .ok ((), ⟨c.index + 1, rest⟩) else .error ⟨.endOfHexEscape, c.index + 1⟩

/-- Read an escaped character whose `u` was read; two escapes make one character beyond 16 bits. -/
def readUnicode (c : Cursor) : Except Fault (Char × Cursor) := do
  let (high, c) ← readHex c
  if 0xDC00 ≤ high ∧ high ≤ 0xDFFF then throw (c.here .loneSurrogate)
  if high < 0xD800 ∨ 0xDBFF < high then return (Char.ofNat high, c)
  let (_, c) ← readPairByte 0x5C c
  let (_, c) ← readPairByte 0x75 c
  let (low, c) ← readHex c
  if low < 0xDC00 ∨ 0xDFFF < low then throw (c.here .loneSurrogate)
  return (Char.ofNat ((high - 0xD800) * 0x400 + (low - 0xDC00) + 0x10000), c)

/-- The character of a one-letter escape. -/
def escapeOf? (b : UInt8) : Option Char :=
  if b = 0x22 then some '"'
  else if b = 0x5C then some '\\'
  else if b = 0x2F then some '/'
  else if b = 0x62 then some '\x08'
  else if b = 0x66 then some '\x0c'
  else if b = 0x6E then some '\n'
  else if b = 0x72 then some '\r'
  else if b = 0x74 then some '\t'
  else none

/-- Read an escape whose backslash was read. -/
def readEscape (c : Cursor) : Reading Char :=
  match c.rest with
  | [] => .error (c.here .endInString)
  | b :: rest =>
    if b = 0x75 then readUnicode ⟨c.index + 1, rest⟩
    else
      match escapeOf? b with
      | some x => .ok (x, ⟨c.index + 1, rest⟩)
      | none => .error ⟨.invalidEscape, c.index + 1⟩

/-- Read a string up to its closing quote; `before` holds the bytes read so far, last first. Each
round reads at least one byte, so there are no more rounds than bytes. -/
def readStringIn : Nat → List UInt8 → Cursor → Reading String
  | 0, _, c => .error (c.here .endInString)
  | rounds + 1, before, c =>
    match c.rest with
    | [] => .error (c.here .endInString)
    | b :: rest =>
      let c : Cursor := ⟨c.index + 1, rest⟩
      if b = 0x22 then .ok (((Text.ofUtf8 before.reverse).toOption).getD "", c)
      else if b = 0x5C then
        match readEscape c with
        | .ok (x, c) => readStringIn rounds ((Text.utf8 (String.singleton x)).reverse ++ before) c
        | .error fault => .error fault
      else if b < 0x20 then .error (c.here .controlCharacter)
      else readStringIn rounds (b :: before) c

/-- Read a string whose opening quote was read. -/
def readString (c : Cursor) : Reading String := readStringIn (c.rest.length + 1) [] c

/-! ### Values -/

/-- Read the items of an array whose bracket was read; `isFirst` until one was read. -/
def readItems (readValue : Cursor → Reading Json) :
    Nat → Bool → List Json → Cursor → Reading Json
  | 0, _, _, c => .error (c.here .endInList)
  | rounds + 1, isFirst, before, c =>
    let c := c.next
    let item (c : Cursor) : Reading Json :=
      match readValue c with
      | .ok (v, c) => readItems readValue rounds false (v :: before) c
      | .error fault => .error fault
    match c.peek? with
    | none => .error (c.atNext .endInList)
    | some b =>
      if b = 0x5D then .ok (.array before.reverse, c.skip)
      else if isFirst then item c
      else if b = 0x2C then
        let c := c.skip.next
        match c.peek? with
        | none => .error (c.atNext .endInValue)
        | some b => if b = 0x5D then .error (c.atNext .trailingComma) else item c
      else .error (c.atNext .expectedCommaOrBracket)

/-- Read the fields of an object whose brace was read; `isFirst` until one was read. -/
def readFields (readValue : Cursor → Reading Json) :
    Nat → Bool → List (String × Json) → Cursor → Reading Json
  | 0, _, _, c => .error (c.here .endInObject)
  | rounds + 1, isFirst, before, c =>
    let c := c.next
    let field (c : Cursor) : Except Fault (Json × Cursor) := do
      let (name, c) ← readString c.skip
      let c := c.next
      match c.peek? with
      | none => throw (c.atNext .endInObject)
      | some b =>
        if b = 0x3A then
          let (v, c) ← readValue c.skip
          readFields readValue rounds false (insertField name v before) c
        else throw (c.atNext .expectedColon)
    match c.peek? with
    | none => .error (c.atNext .endInObject)
    | some b =>
      if b = 0x7D then .ok (.object before, c.skip)
      else if isFirst then
        if b = 0x22 then field c else .error (c.atNext .keyMustBeString)
      else if b = 0x2C then
        let c := c.skip.next
        match c.peek? with
        | none => .error (c.atNext .endInValue)
        | some b =>
          if b = 0x22 then field c
          else if b = 0x7D then .error (c.atNext .trailingComma)
          else .error (c.atNext .keyMustBeString)
      else .error (c.atNext .expectedCommaOrBrace)

/-- Read a value that starts at the next byte that is no space; `readNested` reads what arrays and
objects hold, when they may be opened here. -/
def readValueWith (readNested : Option (Cursor → Reading Json)) (c : Cursor) : Reading Json :=
  let c := c.next
  match c.rest with
  | [] => .error (c.atNext .endInValue)
  | b :: _ =>
    if b = 0x6E then readWord .null [0x75, 0x6C, 0x6C] c.skip
    else if b = 0x74 then readWord (.bool true) [0x72, 0x75, 0x65] c.skip
    else if b = 0x66 then readWord (.bool false) [0x61, 0x6C, 0x73, 0x65] c.skip
    else if b = 0x2D then readNumber true c.skip
    else if 0x30 ≤ b && b ≤ 0x39 then readNumber false c
    else if b = 0x22 then (readString c.skip).map fun (s, c) => (.string s, c)
    else if b = 0x5B || b = 0x7B then
      match readNested with
      | none => .error (c.atNext .recursionLimit)
      | some readNested =>
        let rounds := c.rest.length
        if b = 0x5B then readItems readNested rounds true [] c.skip
        else readFields readNested rounds true [] c.skip
    else .error (c.atNext .expectedValue)

/-- Read a value in which arrays and objects nest at most so deep. -/
def readValue : Nat → Cursor → Reading Json
  | 0 => readValueWith none
  | depth + 1 => readValueWith (some (readValue depth))

/-- How deep arrays and objects may nest. -/
def maxDepth : Nat := 127

/-- The value that a whole text is. -/
def ofBytes (bytes : List UInt8) : Except Fault Json := do
  let (v, c) ← readValue maxDepth ⟨0, bytes⟩
  let c := c.next
  if c.rest.isEmpty then return v else throw (c.atNext .trailingCharacters)

/-- The line and column behind a number of bytes. -/
def position (bytes : List UInt8) (index : Nat) : Nat × Nat :=
  (bytes.take index).foldl (fun p b => if b = 0x0A then (p.1 + 1, 0) else (p.1, p.2 + 1)) (1, 0)

/-- The wording of a fault in a text. -/
def Fault.message (fault : Fault) (bytes : List UInt8) : String :=
  let (line, column) := position bytes fault.index
  s!"{fault.flaw.message} at line {line} column {column}"

/-- The value that a text is, or what is wrong with it and where. -/
def parse (s : String) : Except String Json :=
  let bytes := Text.utf8 s
  (ofBytes bytes).mapError fun fault => fault.message bytes

end TenantAuth.Json
