import TenantAuth.Json.Value
import TenantAuth.Text.Blank
import TenantAuth.Text.Numeral
import TenantAuth.Time.Instant

/-!
Instants as text, in the form of RFC 3339.

Writing gives universal time, with as many fraction digits as are needed out of zero, three, six and
nine. Reading is more generous: blanks may stand around the parts, parts may lack their leading
zero, a year behind a sign may have any number of digits, and any offset below a day is taken. The
date that is written must exist, and so must the instant that it means once the offset is taken off.
-/

namespace TenantAuth.Instant

/-- At most `max` digits after those worth `value`, and the characters behind them. -/
def digitsUpTo (value : Nat) : Nat → List Char → Nat × List Char
  | 0, cs => (value, cs)
  | _, [] => (value, [])
  | max + 1, c :: rest =>
    match Text.digit? c with
    | some d => digitsUpTo (value * 10 + d) max rest
    | none => (value, c :: rest)

/-- A number of one to `max` digits. -/
def number? (max : Nat) (cs : List Char) : Option (Nat × List Char) :=
  let (value, rest) := digitsUpTo 0 max cs
  if rest.length < cs.length then some (value, rest) else none

/-- A number behind blanks. -/
def field? (max : Nat) (cs : List Char) : Option (Nat × List Char) :=
    number? max (Text.trimStart cs)

/-- A year: four digits, or a sign and any number of them. -/
def year? (cs : List Char) : Option (Int × List Char) :=
  match Text.trimStart cs with
  | '-' :: rest => (number? rest.length rest).map fun (n, rest) => (-(n : Int), rest)
  | '+' :: rest => (number? rest.length rest).map fun (n, rest) => ((n : Int), rest)
  | cs => (number? 4 cs).map fun (n, rest) => ((n : Int), rest)

/-- The characters behind an expected one, which may stand behind blanks. -/
def mark? (expected : Char) (cs : List Char) : Option (List Char) :=
  match Text.trimStart cs with
  | c :: rest => if c = expected then some rest else none
  | [] => none

/-- A date, in a year that exists. -/
def date? (cs : List Char) : Option (Date × List Char) := do
  let (year, cs) ← year? cs
  let (month, cs) ← field? 2 (← mark? '-' cs)
  let (day, cs) ← field? 2 (← mark? '-' cs)
  let date : Date := ⟨year, month, day⟩
  if date.isValid ∧ firstYear ≤ year ∧ year ≤ lastYear then some (date, cs) else none

/-- The nanoseconds behind a point, of which nine digits count; none without a point. -/
def nanos? : List Char → Option (Nat × List Char)
  | '.' :: cs => do
    let (value, rest) ← number? 9 cs
    let count := cs.length - rest.length
    some (value * Nat.pow 10 (9 - count), rest.dropWhile fun c => (Text.digit? c).isSome)
  | cs => some (0, cs)

/-- A time of day as seconds and nanoseconds; the second numbered sixty lies on top of the one
before. -/
def time? (cs : List Char) : Option ((Nat × Nat) × List Char) := do
  let (hour, cs) ← field? 2 cs
  let (minute, cs) ← field? 2 (← mark? ':' cs)
  let (second, cs) ← field? 2 (← mark? ':' cs)
  let (nanos, cs) ← nanos? cs
  if hour < 24 ∧ minute < 60 ∧ second ≤ 60 then
    if second = 60 then some ((hour * 3600 + minute * 60 + 59, nanos + 1000000000), cs)
    else some ((hour * 3600 + minute * 60 + second, nanos), cs)
  else none

/-- Exactly two digits. -/
def twoDigits? : List Char → Option (Nat × List Char)
  | a :: b :: rest => do
    let x ← Text.digit? a
    let y ← Text.digit? b
    some (x * 10 + y, rest)
  | _ => none

/-- Hours and minutes behind the sign of an offset, as seconds. -/
def offsetSize? (cs : List Char) : Option (Int × List Char) := do
  let (hours, cs) ← twoDigits? cs
  let (minutes, cs) ← twoDigits? (cs.dropWhile fun c => c = ':' || Text.isBlank c)
  if minutes < 60 ∧ hours < 24 then some ((hours * 3600 + minutes * 60 : Nat), cs) else none

/-- Whether a text starts with the letters of universal time, in either case. -/
def isUtc (cs : List Char) : Bool := (cs.take 3).map Char.toUpper = ['U', 'T', 'C']

/-- An offset from universal time in seconds. -/
def offset? (cs : List Char) : Option (Int × List Char) :=
  if isUtc cs then some (0, cs.drop 3)
  else
    match cs with
    | 'Z' :: rest => some (0, rest)
    | 'z' :: rest => some (0, rest)
    | '+' :: rest => offsetSize? rest
    | '-' :: rest => (offsetSize? rest).map fun (n, rest) => (-n, rest)
    | '−' :: rest => (offsetSize? rest).map fun (n, rest) => (-n, rest)
    | _ => none

/-- The instant that a text stands for. -/
def ofText? (s : String) : Option Instant := do
  let (date, cs) ← date? s.toList
  let cs ← match cs with
    | c :: rest => if c = 'T' ∨ c = 't' ∨ c = ' ' then some rest else none
    | [] => none
  let ((second, nanos), cs) ← time? cs
  let (offset, cs) ← offset? (Text.trimStart cs)
  let seconds := date.toDays * secondsPerDay + second - offset
  if (Text.trimStart cs).isEmpty ∧ firstSecond ≤ seconds ∧ seconds ≤ lastSecond then
    some ⟨seconds, nanos⟩
  else none

/-- A numeral filled up with zeros on the left. -/
def padded (width n : Nat) : List Char :=
  let digits := Text.numeral n
  List.replicate (width - digits.length) '0' ++ digits

/-- A year: four digits, or more behind a sign. -/
def yearText (year : Int) : List Char :=
  if 0 ≤ year ∧ year ≤ 9999 then padded 4 year.toNat
  else (if year < 0 then '-' else '+') :: padded 4 year.natAbs

/-- The fraction of a second, in the fewest groups of three digits. -/
def fractionText (nanos : Nat) : List Char :=
  if nanos = 0 then []
  else if nanos % 1000000 = 0 then '.' :: padded 3 (nanos / 1000000)
  else if nanos % 1000 = 0 then '.' :: padded 6 (nanos / 1000)
  else '.' :: padded 9 nanos

/-- The characters of an instant in universal time. -/
def chars (t : Instant) : List Char :=
  let date := Date.ofDays (t.seconds / secondsPerDay)
  let second := (t.seconds % secondsPerDay).toNat
  let isLeap := 1000000000 ≤ t.nanos
  let shown := if isLeap then second % 60 + 1 else second % 60
  let nanos := if isLeap then t.nanos - 1000000000 else t.nanos
  yearText date.year ++ '-' :: padded 2 date.month ++ '-' :: padded 2 date.day ++ 'T' ::
    padded 2 (second / 3600) ++ ':' :: padded 2 (second / 60 % 60) ++ ':' :: padded 2 shown
    ++ fractionText nanos ++ ['Z']

/-- The text of an instant in universal time. -/
def text (t : Instant) : String := String.ofList t.chars

/-- An instant as JSON. -/
def toJson (t : Instant) : Json := .string t.text

/-- An instant from JSON. -/
def ofJson? : Json → Option Instant
  | .string s => ofText? s
  | _ => none

end TenantAuth.Instant
