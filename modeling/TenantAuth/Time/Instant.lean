import TenantAuth.Time.Calendar

/-!
Instants in universal time, to the nanosecond.

An instant within a leap second has a nanosecond count of a thousand million or more, on top of the
second before it. Instants reach from the year -262143 to the year 262142; what would lie outside
does not exist.
-/

namespace TenantAuth

/-- A point in time: seconds since 1970 and nanoseconds on top of them. -/
structure Instant where
  seconds : Int
  nanos : Nat
  deriving DecidableEq

/-- A span of whole seconds. -/
structure Span where
  seconds : Int
  deriving DecidableEq

namespace Instant

/-- Whether one instant comes before another. -/
def isBefore (a b : Instant) : Bool :=
  a.seconds < b.seconds || (a.seconds = b.seconds && a.nanos < b.nanos)

/-- The seconds of a day. -/
def secondsPerDay : Nat := 86400

/-- The first year that exists. -/
def firstYear : Int := -262143

/-- The last year that exists. -/
def lastYear : Int := 262142

/-- The first second that exists. -/
def firstSecond : Int := Date.toDays ⟨firstYear, 1, 1⟩ * secondsPerDay

/-- The last second that exists. -/
def lastSecond : Int := Date.toDays ⟨lastYear, 12, 31⟩ * secondsPerDay + (secondsPerDay - 1)

/-- The instant a span away, if it exists. A leap second belongs to the second before it for a move
forward, and to the second after it for a move back. -/
def add? (t : Instant) (span : Span) : Option Instant :=
  let t : Instant :=
    if 1000000000 ≤ t.nanos ∧ 0 < span.seconds then ⟨t.seconds, t.nanos - 1000000000⟩
    else if 1000000000 ≤ t.nanos ∧ span.seconds < 0 then ⟨t.seconds + 1, t.nanos - 1000000000⟩
    else t
  let seconds := t.seconds + span.seconds
  if firstSecond ≤ seconds ∧ seconds ≤ lastSecond then some ⟨seconds, t.nanos⟩ else none

end Instant

/-- The longest span in seconds: its milliseconds still fit 64 bits. -/
def Span.maxSeconds : Int := (Nat.pow 2 63 - 1) / 1000

/-- A span of so many seconds, if it is not too long. -/
def Span.ofSeconds? (seconds : Int) : Option Span :=
  if -Span.maxSeconds ≤ seconds ∧ seconds ≤ Span.maxSeconds then some ⟨seconds⟩ else none

end TenantAuth
