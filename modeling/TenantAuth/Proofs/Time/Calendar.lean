import TenantAuth.Time.Calendar

/-!
Every number of a day is that of a date, which exists.

Both ways between dates and numbers go by the place of a day in a cycle of four hundred years, and
by its place in a year that begins in March. What is to be known of a cycle is that the year of a
day is found: it is the last year that begins no later than the day.

The years of dates are in order as the numbers of their days are.
-/

namespace TenantAuth.Date

/-! ### Years of a cycle -/

/-- The days of a cycle before a year of it. -/
def daysBefore (y : Nat) : Nat := y * 365 + y / 4 - y / 100

/-- The days of a cycle to the end of a year of it. -/
def daysThrough (y : Nat) : Nat := daysBefore (y + 1) + (y + 1) / 400

/-- The days of a cycle up to a day, without the leap days. -/
def plainDays (r : Nat) : Nat := r - r / 1460 + r / 36524 - r / 146096

/-- The year of a cycle that a day of the cycle is in. -/
def yearOfDay (r : Nat) : Nat := plainDays r / 365

/-- A leap day is a day, so that later days have no fewer other days before them. -/
theorem plainDays_mono {r r' : Nat} (h : r ≤ r') (hr' : r' < 146097) :
    plainDays r ≤ plainDays r' := by
  obtain ⟨k, rfl⟩ := Nat.exists_eq_add_of_le h
  induction k with
  | zero => exact Nat.le_refl _
  | succ k ih =>
    refine Nat.le_trans (ih (Nat.le_add_right r k) (by omega)) ?_
    unfold plainDays
    omega

theorem plainDays_of_year : ∀ y < 400, 365 * y ≤ plainDays (daysBefore y) ∧
    plainDays (daysThrough y - 1) < 365 * (y + 1) := by
  decide +kernel

/-- A year is longer by a day if it is followed by the leap day of the next. -/
theorem daysThrough_eq : ∀ y < 400,
    daysThrough y = daysBefore y + 365 + if isLeapYear (y + 1) then 1 else 0 := by
  decide +kernel

theorem yearOfDay_lt {r : Nat} (h : r < 146097) : yearOfDay r < 400 := by
  have hlast : plainDays r ≤ 145999 := plainDays_mono (Nat.le_of_lt_succ h) (by decide)
  unfold yearOfDay
  omega

/-- The year of a day has begun. -/
theorem daysBefore_le {r : Nat} (h : r < 146097) : daysBefore (yearOfDay r) ≤ r := by
  have hyear := yearOfDay_lt h
  have hpast : 365 * yearOfDay r ≤ plainDays r := Nat.mul_div_le _ _
  refine Nat.le_of_not_lt fun hearly => ?_
  cases hy : yearOfDay r with
  | zero =>
    rw [hy] at hearly
    exact absurd hearly (Nat.not_lt_zero r)
  | succ y =>
    rw [hy] at hyear hpast hearly
    have hend : daysThrough y = daysBefore (y + 1) := by
      rw [daysThrough, Nat.div_eq_of_lt hyear, Nat.add_zero]
    have hmono : plainDays r ≤ plainDays (daysThrough y - 1) :=
      plainDays_mono (by omega)
        (Nat.lt_of_le_of_lt (Nat.sub_le _ _) (by unfold daysThrough daysBefore; omega))
    have hbound := (plainDays_of_year y (by omega)).2
    omega

/-- The year of a day has not ended. -/
theorem lt_daysThrough {r : Nat} (h : r < 146097) : r < daysThrough (yearOfDay r) := by
  have hyear := yearOfDay_lt h
  have hbefore : plainDays r < 365 * (yearOfDay r + 1) := Nat.lt_mul_div_succ _ (by decide)
  refine Nat.lt_of_not_le fun hlate => ?_
  by_cases hnext : yearOfDay r + 1 < 400
  · have hend : daysThrough (yearOfDay r) = daysBefore (yearOfDay r + 1) := by
      rw [daysThrough, Nat.div_eq_of_lt hnext, Nat.add_zero]
    have hmono := plainDays_mono (hend ▸ hlate) h
    have hbound := (plainDays_of_year _ hnext).1
    omega
  · have hlast : yearOfDay r = 399 := by omega
    rw [hlast, show daysThrough 399 = 146097 from rfl] at hlate
    omega

/-! ### Days of a year -/

/-- The month, counted from March, that a day of a year is in. -/
def monthOfDay (n : Nat) : Nat := (5 * n + 2) / 153

/-- The days of a year before a month. -/
def daysBeforeMonth (m : Nat) : Nat := (153 * m + 2) / 5

/-- The number of a month that is counted from March. -/
def monthFromJanuary (m : Nat) : Nat := if m < 10 then m + 3 else m - 9

/-- The month of a day has begun, and has not ended. It is February only for the last days, and for
the very last if there is a leap day. -/
theorem monthOfDay_spec {year : Int} : ∀ n < 366, (n = 365 → isLeapYear year = true) →
    monthOfDay n < 12 ∧ daysBeforeMonth (monthOfDay n) ≤ n ∧
      n - daysBeforeMonth (monthOfDay n) < daysInMonth year (monthFromJanuary (monthOfDay n)) := by
  have hmonth : ∀ n < 366, monthOfDay n < 12 ∧ daysBeforeMonth (monthOfDay n) ≤ n ∧
      n - daysBeforeMonth (monthOfDay n) <
      (if monthFromJanuary (monthOfDay n) = 2 then (if n = 365 then 29 else 28)
        else if monthFromJanuary (monthOfDay n) = 4 ∨ monthFromJanuary (monthOfDay n) = 6 ∨
          monthFromJanuary (monthOfDay n) = 9 ∨
            monthFromJanuary (monthOfDay n) = 11 then 30 else 31) := by
    decide +kernel
  intro n hn hleap
  obtain ⟨hlt, hbegun, hopen⟩ := hmonth n hn
  refine ⟨hlt, hbegun, Nat.lt_of_lt_of_le hopen ?_⟩
  unfold daysInMonth
  by_cases hlast : n = 365
  · rw [hleap hlast, hlast]
    decide
  · rw [if_neg hlast]
    split <;> split <;> omega

/-! ### Both ways -/

/-- The date of a day by its place: the cycle, the year of the cycle and the day of the year. -/
def ofPlace (cycle : Int) (y n : Nat) : Date :=
  ⟨if monthFromJanuary (monthOfDay n) ≤ 2 then cycle * 400 + y + 1 else cycle * 400 + y,
    monthFromJanuary (monthOfDay n), n - daysBeforeMonth (monthOfDay n) + 1⟩

/-- There is a day at a place. -/
structure IsPlace (cycle : Int) (y n : Nat) : Prop where
  year_lt : y < 400
  day_lt : n < 366
  leap : n = 365 → isLeapYear (cycle * 400 + y + 1) = true

/-- A cycle has leap years where any other has them. -/
theorem isLeapYear_cycle (cycle : Int) (y : Nat) :
    isLeapYear (cycle * 400 + y + 1) = isLeapYear (y + 1) := by
  have hfour : (cycle * 400 + y + 1 : Int) % 4 = (y + 1) % 4 := by omega
  have hhundred : (cycle * 400 + y + 1 : Int) % 100 = (y + 1) % 100 := by omega
  have hcycle : (cycle * 400 + y + 1 : Int) % 400 = (y + 1) % 400 := by omega
  rw [isLeapYear, hfour, hhundred, hcycle, isLeapYear]

/-- Every number is that of a day at a place. -/
theorem ofDays_spec (days : Int) :
    ∃ cycle y n, IsPlace cycle y n ∧ ofDays days = ofPlace cycle y n ∧
    days = cycle * 146097 + (daysBefore y + n : Nat) - 719468 := by
  have hcycle : ((days + 719468) % 146097).toNat < 146097 := by omega
  have hbegun := daysBefore_le hcycle
  have hopen := lt_daysThrough hcycle
  have hyear := yearOfDay_lt hcycle
  rw [daysThrough_eq _ hyear] at hopen
  refine ⟨(days + 719468) / 146097, yearOfDay ((days + 719468) % 146097).toNat,
    ((days + 719468) % 146097).toNat - daysBefore (yearOfDay ((days + 719468) % 146097).toNat),
    ⟨hyear, ?_, ?_⟩, ?_, ?_⟩
  · split at hopen <;> omega
  · intro hlast
    rw [isLeapYear_cycle]
    refine Decidable.byContradiction fun hplain => ?_
    rw [if_neg hplain] at hopen
    omega
  · rw [ofDays, Nat.mul_comm 365]
    rfl
  · omega

theorem toDays_ofPlace {cycle : Int} {y n : Nat} (h : IsPlace cycle y n) :
    (ofPlace cycle y n).toDays = cycle * 146097 + (daysBefore y + n : Nat) - 719468 := by
  obtain ⟨hmonth, hbegun, -⟩ := monthOfDay_spec n h.day_lt h.leap
  have hmarch : (monthFromJanuary (monthOfDay n) + 9) % 12 = monthOfDay n := by
    unfold monthFromJanuary
    split <;> omega
  have hyear :
      (if monthFromJanuary (monthOfDay n) ≤ 2 then (ofPlace cycle y n).year - 1
        else (ofPlace cycle y n).year) = cycle * 400 + y := by
    unfold ofPlace
    split <;> simp
  have hlt := h.year_lt
  have hcycle : (cycle * 400 + y : Int) / 400 = cycle := by omega
  have hrest : ((cycle * 400 + y : Int) % 400).toNat = y := by omega
  have hday : (153 * monthOfDay n + 2) / 5 + (n - daysBeforeMonth (monthOfDay n) + 1) - 1 = n := by
    change daysBeforeMonth (monthOfDay n) + _ - 1 = n
    omega
  unfold toDays
  dsimp only
  rw [show (ofPlace cycle y n).month = monthFromJanuary (monthOfDay n) from rfl, hyear, hcycle,
    hrest, hmarch, show (ofPlace cycle y n).day = n - daysBeforeMonth
    (monthOfDay n) + 1 from rfl, hday]
  rfl

/-- The date of a number has this number. -/
theorem toDays_ofDays (days : Int) : (ofDays days).toDays = days := by
  obtain ⟨cycle, y, n, hplace, hdate, hdays⟩ := ofDays_spec days
  rw [hdate, toDays_ofPlace hplace, ← hdays]

theorem isValid_iff {d : Date} : d.isValid = true ↔
    1 ≤ d.month ∧ d.month ≤ 12 ∧ 1 ≤ d.day ∧ d.day ≤ daysInMonth d.year d.month := by
  simp only [isValid, Bool.and_eq_true, decide_eq_true_eq, and_assoc]

theorem daysInMonth_le (year : Int) (month : Nat) : daysInMonth year month ≤ 31 := by
  unfold daysInMonth
  split <;> split <;> omega

theorem isValid_ofPlace {cycle : Int} {y n : Nat} (h : IsPlace cycle y n) :
    (ofPlace cycle y n).isValid = true := by
  obtain ⟨hmonth, hbegun, hopen⟩ := monthOfDay_spec n h.day_lt h.leap
  have hnumber : 1 ≤ monthFromJanuary (monthOfDay n) ∧ monthFromJanuary (monthOfDay n) ≤ 12 := by
    unfold monthFromJanuary
    split <;> omega
  have hdays : daysInMonth (ofPlace cycle y n).year (monthFromJanuary (monthOfDay n)) =
      daysInMonth (cycle * 400 + y + 1) (monthFromJanuary (monthOfDay n)) := by
    by_cases hfebruary : monthFromJanuary (monthOfDay n) = 2
    · rw [ofPlace, hfebruary]
      rfl
    · simp only [daysInMonth, if_neg hfebruary]
  refine isValid_iff.2 ⟨hnumber.1, hnumber.2, Nat.le_add_left 1 _, ?_⟩
  change n - daysBeforeMonth (monthOfDay n) + 1 ≤
    daysInMonth (ofPlace cycle y n).year (monthFromJanuary (monthOfDay n))
  rw [hdays]
  exact hopen

/-- The date of a number exists. -/
theorem isValid_ofDays (days : Int) : (ofDays days).isValid = true := by
  obtain ⟨cycle, y, n, hplace, hdate, -⟩ := ofDays_spec days
  rw [hdate]
  exact isValid_ofPlace hplace

/-! ### Years in order -/

/-- The days before the first of March of a year, from some day on. -/
def daysBeforeMarch (year : Int) : Int := 365 * year + year / 4 - year / 100 + year / 400

theorem toDays_eq (d : Date) :
    d.toDays = daysBeforeMarch (if d.month ≤ 2 then d.year - 1 else d.year) +
    ((daysBeforeMonth ((d.month + 9) % 12) + d.day - 1 : Nat) : Int) - 719468 := by
  unfold toDays daysBeforeMarch daysBeforeMonth
  dsimp only
  generalize (if d.month ≤ 2 then d.year - 1 else d.year) = year
  omega

/-- A year begins after all the years before it have ended. -/
theorem year_ends {year next : Int} (h : year < next) :
    toDays ⟨year, 12, 31⟩ < toDays ⟨next, 1, 1⟩ := by
  rw [toDays_eq, toDays_eq]
  simp only [daysBeforeMarch, daysBeforeMonth]
  omega

/-- A day lies between the first and the last of its year. -/
theorem toDays_bounds {d : Date} (h : d.isValid = true) :
    toDays ⟨d.year, 1, 1⟩ ≤ d.toDays ∧ d.toDays ≤ toDays ⟨d.year, 12, 31⟩ := by
  obtain ⟨hfirst, hlast, hday, hend⟩ := isValid_iff.1 h
  have hshort := Nat.le_trans hend (daysInMonth_le _ _)
  rw [toDays_eq, toDays_eq, toDays_eq]
  simp only [daysBeforeMarch, daysBeforeMonth]
  split <;> omega

/-- Dates are in some years exactly if their days are between the first and the last day of these
years. -/
theorem year_between_iff {d : Date} (h : d.isValid = true) (low high : Int) :
    low ≤ d.year ∧ d.year ≤ high ↔
      toDays ⟨low, 1, 1⟩ ≤ d.toDays ∧ d.toDays ≤ toDays ⟨high, 12, 31⟩ := by
  obtain ⟨hbegins, hends⟩ := toDays_bounds h
  have hwhole (year : Int) : toDays ⟨year, 1, 1⟩ ≤ toDays ⟨year, 12, 31⟩ :=
    (toDays_bounds (d := ⟨year, 1, 1⟩) (by simp [isValid, daysInMonth])).2
  constructor
  · rintro ⟨hlow, hhigh⟩
    constructor
    · rcases Int.lt_or_eq_of_le hlow with hlt | heq
      · exact Int.le_trans (Int.le_trans (hwhole low) (Int.le_of_lt (year_ends hlt))) hbegins
      · rwa [heq]
    · rcases Int.lt_or_eq_of_le hhigh with hlt | heq
      · exact Int.le_trans hends (Int.le_trans (Int.le_of_lt (year_ends hlt)) (hwhole high))
      · rwa [← heq]
  · rintro ⟨hlow, hhigh⟩
    constructor
    · refine Int.not_lt.1 fun hlt => ?_
      exact Int.not_lt.2 (Int.le_trans hlow hends) (year_ends hlt)
    · refine Int.not_lt.1 fun hlt => ?_
      exact Int.not_lt.2 (Int.le_trans hbegins hhigh) (year_ends hlt)

end TenantAuth.Date
