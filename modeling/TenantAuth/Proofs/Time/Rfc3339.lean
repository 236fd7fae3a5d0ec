import Mathlib.Algebra.Group.Nat.Defs
import TenantAuth.Proofs.Text.Listing
import TenantAuth.Proofs.Time.Calendar
import TenantAuth.Time.Rfc3339

/-!
An instant that was written is read as it was.

Each part of the text is read up to where it ends: a numeral has as many digits as may be read, or
something that is no digit follows it. The date and the time of day are put together to the seconds
that they were taken from.

What is read exists: it is in the years that there are, and a leap second lies on the last second of
a minute. So what is read can be written and read again, whatever the text looked like that it was
read from.
-/

namespace TenantAuth.Instant

open Text (isBlank)

variable {t : Instant} {cs rest : List Char} {max n : Nat}

/-! ### Numerals -/

/-- No digit follows. -/
def NoDigit (rest : List Char) : Prop := ∀ c, rest.head? = some c → Text.digit? c = none

theorem digitsUpTo_digits (hcs : ∀ c ∈ cs, c.isDigit = true) (hlength : cs.length ≤ max)
    (hends : cs.length = max ∨ NoDigit rest) (value : Nat) :
    digitsUpTo value max (cs ++ rest) = (Nat.ofDigitChars 10 cs value, rest) := by
  induction cs generalizing max value with
  | nil =>
    rw [List.nil_append, Nat.ofDigitChars_nil]
    cases max with
    | zero => rw [digitsUpTo]
    | succ max =>
      cases rest with
      | nil => rw [digitsUpTo]; nofun
      | cons c rest =>
        have hnone : Text.digit? c = none := (hends.resolve_left nofun) c rfl
        rw [digitsUpTo, hnone]
  | cons c cs ih =>
    cases max with
    | zero => cases hlength
    | succ max =>
      rw [List.cons_append, digitsUpTo, Text.digit?_of_isDigit (hcs c List.mem_cons_self),
        Nat.ofDigitChars_cons, Nat.mul_comm]
      refine ih (fun c hc => hcs c (List.mem_cons_of_mem _ hc)) (Nat.le_of_succ_le_succ hlength)
        (hends.imp_left ?_) _
      exact Nat.succ.inj

theorem number?_digits (hcs : ∀ c ∈ cs, c.isDigit = true) (hne : cs ≠ [])
    (hlength : cs.length ≤ max) (hends : cs.length = max ∨ NoDigit rest) :
    number? max (cs ++ rest) = some (Nat.ofDigitChars 10 cs 0, rest) := by
  have hshorter : rest.length < (cs ++ rest).length := by
    have hpos := List.length_pos_iff.2 hne
    rw [List.length_append]
    omega
  rw [number?, digitsUpTo_digits hcs hlength hends]
  exact if_pos hshorter

theorem isDigit_of_mem_padded {c : Char} {width : Nat} (h : c ∈ padded width n) :
    c.isDigit = true := by
  rcases List.mem_append.1 h with h | h
  · rw [List.eq_of_mem_replicate h]
    rfl
  · exact Nat.isDigit_of_mem_toDigits (by decide) (by decide) h

theorem length_padded {width : Nat} (h : n < 10 ^ width) (hpos : 0 < width) :
    (padded width n).length = width := by
  have hshort : (Text.numeral n).length ≤ width := (Nat.length_toDigits_le_iff (by decide) hpos).2 h
  rw [padded, List.length_append, List.length_replicate]
  omega

theorem padded_ne_nil (width n : Nat) : padded width n ≠ [] :=
  List.append_ne_nil_of_right_ne_nil _ Nat.toDigits_ne_nil

/-- Zeros in front of a numeral do not count. -/
theorem ofDigitChars_padded (width n : Nat) : Nat.ofDigitChars 10 (padded width n) 0 = n := by
  have hzeros (count : Nat) : Nat.ofDigitChars 10 (List.replicate count '0') 0 = 0 := by
    induction count with
    | zero => exact Nat.ofDigitChars_nil
    | succ count ih => rwa [List.replicate_succ, Nat.ofDigitChars_cons]
  rw [padded, Nat.ofDigitChars_append, hzeros, Text.numeral, Nat.ofDigitChars_ten_toDigits]

/-- A numeral of a fixed width is read, whatever follows it. -/
theorem number?_padded {width : Nat} (h : n < 10 ^ width) (hpos : 0 < width) (rest : List Char) :
    number? width (padded width n ++ rest) = some (n, rest) := by
  have hlength := length_padded h hpos
  rw [number?_digits (fun _ => isDigit_of_mem_padded) (padded_ne_nil width n) (Nat.le_of_eq hlength)
    (.inl hlength), ofDigitChars_padded]

/-- Blanks are dropped up to what is none. -/
theorem trimStart_of_head (h : ∀ c, cs.head? = some c → isBlank c = false) :
    Text.trimStart cs = cs := by
  cases cs with
  | nil => rfl
  | cons c rest => rw [Text.trimStart, List.dropWhile_cons, h c rfl, if_neg Bool.false_ne_true]

/-- A numeral begins with a digit. -/
theorem head_padded {c : Char} {width : Nat} (h : (padded width n ++ rest).head? = some c) :
    c.isDigit = true := by
  have hdigit : ∀ c ∈ padded width n, c.isDigit = true := fun _ => isDigit_of_mem_padded
  cases hpadded : padded width n with
  | nil => exact absurd hpadded (padded_ne_nil width n)
  | cons first digits =>
    rw [hpadded] at h hdigit
    obtain rfl := Option.some.inj h
    exact hdigit first List.mem_cons_self

theorem trimStart_padded (width n : Nat) (rest : List Char) :
    Text.trimStart (padded width n ++ rest) = padded width n ++ rest :=
  trimStart_of_head fun _ hc => Text.not_blank_of_isDigit (head_padded hc)

theorem field?_padded {width : Nat} (h : n < 10 ^ width) (hpos : 0 < width) (rest : List Char) :
    field? width (padded width n ++ rest) = some (n, rest) := by
  rw [field?, trimStart_padded, number?_padded h hpos]

theorem mark?_cons {c : Char} (h : isBlank c = false) (rest : List Char) :
    mark? c (c :: rest) = some rest := by
  rw [mark?, trimStart_of_head fun c' hc' => by rwa [← Option.some.inj hc']]
  exact if_pos rfl

/-! ### Dates and times of day -/

/-- Punctuation follows a numeral of any width. -/
theorem noDigit_cons {c : Char} (h : Text.digit? c = none) (rest : List Char) :
    NoDigit (c :: rest) :=
  fun _ hc => Option.some.inj hc ▸ h

theorem year?_yearText (year : Int) (hrest : NoDigit rest) :
    year? (yearText year ++ rest) = some (year, rest) := by
  have hsigned (n : Nat) : number? (padded 4 n ++ rest).length (padded 4 n ++ rest) =
      some (n, rest) := by
    rw [number?_digits (fun _ => isDigit_of_mem_padded) (padded_ne_nil 4 n)
      (by rw [List.length_append]; exact Nat.le_add_right _ _) (.inr hrest), ofDigitChars_padded]
  unfold yearText
  split
  · have hfits : year.toNat < 10 ^ 4 := by omega
    have hyear : (year.toNat : Int) = year := by omega
    unfold year?
    rw [trimStart_padded]
    split
    · rename_i heq
      cases head_padded (congrArg List.head? heq)
    · rename_i heq
      cases head_padded (congrArg List.head? heq)
    · rw [number?_padded hfits (by decide)]
      simp only [Option.map_some, hyear]
  · have hblank (sign : Char) (h : isBlank sign = false) :
        Text.trimStart (sign :: padded 4 year.natAbs ++ rest) = sign ::
          padded 4 year.natAbs ++ rest :=
      trimStart_of_head fun c hc => Option.some.inj hc ▸ h
    by_cases hnegative : year < 0
    · have hyear : -(year.natAbs : Int) = year := by omega
      rw [if_pos hnegative, year?, hblank '-' (by decide)]
      simp only [List.cons_append, hsigned, Option.map_some, hyear]
    · have hyear : (year.natAbs : Int) = year := by omega
      rw [if_neg hnegative, year?, hblank '+' (by decide)]
      simp only [List.cons_append, hsigned, Option.map_some, hyear]

/-- A numeral of two digits is read. -/
theorem two_digits (h : n < 100) (rest : List Char) :
    field? 2 (padded 2 n ++ rest) = some (n, rest) :=
  field?_padded h (by decide) rest

theorem date?_chars {date : Date} (hvalid : date.isValid = true) (hfirst : firstYear ≤ date.year)
    (hlast : date.year ≤ lastYear) (rest : List Char) :
    date?
      (yearText date.year ++ '-' :: (padded 2 date.month ++ '-' :: (padded 2 date.day ++ rest))) =
      some (date, rest) := by
  obtain ⟨-, hmonth, -, hday⟩ := Date.isValid_iff.1 hvalid
  have hshort := Nat.le_trans hday (Date.daysInMonth_le _ _)
  have hyear (rest : List Char) :=
    year?_yearText date.year (noDigit_cons (c := '-') (by decide) rest)
  have hmark (rest : List Char) : mark? '-' ('-' :: rest) = some rest := mark?_cons (by decide) rest
  simp only [date?, hyear, hmark, two_digits (Nat.lt_of_le_of_lt hmonth (by decide)),
    two_digits (Nat.lt_of_le_of_lt hshort (by decide)), Option.bind_eq_bind, Option.bind_some]
  exact if_pos ⟨hvalid, hfirst, hlast⟩

theorem nanos?_fractionText (h : n < 1000000000) :
    nanos? (fractionText n ++ ['Z']) = some (n, ['Z']) := by
  have hread {width : Nat} (hpos : 0 < width) (hwidth : width ≤ 9) {m : Nat} (hm : m < 10 ^ width)
      (hn : m * Nat.pow 10 (9 - width) = n) :
      nanos? ('.' :: padded width m ++ ['Z']) = some (n, ['Z']) := by
    have hlength := length_padded hm hpos
    have hdigits : number? 9 (padded width m ++ ['Z']) = some (m, ['Z']) := by
      rw [number?_digits (fun _ => isDigit_of_mem_padded) (padded_ne_nil width m) (by omega)
        (.inr (noDigit_cons (by decide) [])), ofDigitChars_padded]
    have hcount : (padded width m ++ ['Z']).length - ['Z'].length = width := by
      rw [List.length_append, hlength, Nat.add_sub_cancel]
    rw [List.cons_append, nanos?, hdigits]
    simp only [Option.bind_eq_bind, Option.bind_some, hcount, hn]
    rfl
  unfold fractionText
  split
  · rename_i hzero
    rw [hzero]
    rfl
  · split
    · exact hread (by decide) (by decide) (by omega) (by change _ * 1000000 = n; omega)
    · split
      · exact hread (by decide) (by decide) (by omega) (by change _ * 1000 = n; omega)
      · exact hread (by decide) (by decide) h (Nat.mul_one n)

theorem time?_chars {hour minute second nanos : Nat} (hhour : hour < 24) (hminute : minute < 60)
    (hsecond : second ≤ 60) (hnanos : nanos < 1000000000) :
    time?
      (padded 2 hour ++ ':' ::
        (padded 2 minute ++ ':' :: (padded 2 second ++ (fractionText nanos ++ ['Z'])))) =
        if second = 60 then some ((hour * 3600 + minute * 60 + 59, nanos + 1000000000), ['Z'])
      else some ((hour * 3600 + minute * 60 + second, nanos), ['Z']) := by
  have hmark (rest : List Char) : mark? ':' (':' :: rest) = some rest := mark?_cons (by decide) rest
  simp only [time?, hmark, two_digits (Nat.lt_trans hhour (by decide)),
    two_digits (Nat.lt_trans hminute (by decide)),
    two_digits (Nat.lt_of_le_of_lt hsecond (by decide)), nanos?_fractionText hnanos,
    Option.bind_eq_bind, Option.bind_some]
  exact if_pos ⟨hhour, hminute, hsecond⟩

/-! ### Instants -/

/-- The date of an instant in universal time. -/
def date (t : Instant) : Date := Date.ofDays (t.seconds / secondsPerDay)

/-- An instant is in a year that exists, and lies within a second, or within the leap second behind
the last second of a minute. -/
structure Exists (t : Instant) : Prop where
  first_le : firstYear ≤ t.date.year
  le_last : t.date.year ≤ lastYear
  nanos_lt : t.nanos < 2000000000
  leap : 1000000000 ≤ t.nanos → t.seconds % 60 = 59

/-- The instants of the years 0 to 9999 exist. -/
theorem exists_of_year (hfirst : 0 ≤ t.date.year) (hlast : t.date.year ≤ 9999)
    (hnanos : t.nanos < 1000000000) : t.Exists :=
  ⟨Int.le_trans (by decide) hfirst, Int.le_trans hlast (by decide), Nat.lt_trans hnanos (by decide),
    fun hleap => absurd hleap (Nat.not_le.2 hnanos)⟩

/-- The years that exist are those of the seconds that exist. -/
theorem year_exists_iff : firstYear ≤ t.date.year ∧ t.date.year ≤ lastYear ↔
    firstSecond ≤ t.seconds ∧ t.seconds ≤ lastSecond := by
  have hbetween :=
    Date.year_between_iff (Date.isValid_ofDays (t.seconds / secondsPerDay)) firstYear lastYear
  rw [Date.toDays_ofDays] at hbetween
  rw [date, hbetween, firstSecond, lastSecond]
  generalize Date.toDays ⟨firstYear, 1, 1⟩ = first, Date.toDays ⟨lastYear, 12, 31⟩ = last
  unfold secondsPerDay
  omega

/-- The second of its day that an instant is in. -/
def secondOfDay (t : Instant) : Nat := (t.seconds % secondsPerDay).toNat

theorem chars_eq (t : Instant) : t.chars =
    yearText t.date.year ++ '-' :: (padded 2 t.date.month ++ '-' :: (padded 2 t.date.day ++ 'T' ::
      (padded 2 (t.secondOfDay / 3600) ++ ':' :: (padded 2 (t.secondOfDay / 60 % 60) ++ ':' ::
        (padded 2 (if 1000000000 ≤ t.nanos then t.secondOfDay % 60 + 1 else t.secondOfDay % 60) ++
          (fractionText (if 1000000000 ≤ t.nanos then t.nanos - 1000000000 else t.nanos) ++
            ['Z'])))))) := by
  simp only [chars, List.append_assoc, List.cons_append]
  rfl

/-- The time of day is read as it was written. -/
theorem time?_chars_of_exists (h : t.Exists) :
    time? (padded 2 (t.secondOfDay / 3600) ++ ':' :: (padded 2 (t.secondOfDay / 60 % 60) ++ ':' ::
      (padded 2 (if 1000000000 ≤ t.nanos then t.secondOfDay % 60 + 1 else t.secondOfDay % 60) ++
        (fractionText (if 1000000000 ≤ t.nanos then t.nanos - 1000000000 else t.nanos) ++
          ['Z'])))) =
      some ((t.secondOfDay, t.nanos), ['Z']) := by
  have hnanos := h.nanos_lt
  have hday : t.secondOfDay < 86400 := by
    unfold secondOfDay secondsPerDay
    omega
  by_cases hleap : 1000000000 ≤ t.nanos
  · have hlast : t.secondOfDay % 60 = 59 := by
      have hlast := h.leap hleap
      unfold secondOfDay secondsPerDay
      omega
    have hsecond : t.secondOfDay / 3600 * 3600 + t.secondOfDay / 60 % 60 * 60 + 59 =
      t.secondOfDay := by omega
    rw [if_pos hleap, if_pos hleap, hlast, time?_chars (by omega) (by omega) (by omega) (by omega),
      if_pos rfl, hsecond,
      Nat.sub_add_cancel hleap]
  · have hsecond : t.secondOfDay / 3600 * 3600 + t.secondOfDay / 60 % 60 * 60 + t.secondOfDay % 60 =
        t.secondOfDay := by
      omega
    rw [if_neg hleap, if_neg hleap, time?_chars (by omega) (by omega) (by omega) (by omega),
      if_neg (by omega), hsecond]

/-- An instant that exists is read as it was written. -/
theorem ofText?_text (h : t.Exists) : ofText? t.text = some t := by
  have hseconds := year_exists_iff.1 ⟨h.first_le, h.le_last⟩
  have hvalid : t.date.isValid = true := Date.isValid_ofDays _
  have hoffset : offset? (Text.trimStart ['Z']) = some (0, []) := by decide
  have hwhole : t.date.toDays * secondsPerDay + (t.secondOfDay : Int) - 0 = t.seconds := by
    rw [date, Date.toDays_ofDays, secondOfDay]
    unfold secondsPerDay
    omega
  rw [ofText?, text, String.toList_ofList, chars_eq, date?_chars hvalid h.first_le h.le_last]
  simp only [Option.bind_eq_bind, Option.bind_some, true_or, if_true, time?_chars_of_exists h,
    hoffset, hwhole]
  exact if_pos ⟨rfl, hseconds⟩

/-! ### What is read -/

theorem digit?_le {c : Char} {d : Nat} (h : Text.digit? c = some d) : d ≤ 9 := by
  unfold Text.digit? at h
  split at h
  · rename_i hdigit
    have hnine : c ≤ '9' := (by simpa using hdigit : '0' ≤ c ∧ c ≤ '9').2
    have hnat : c.toNat ≤ '9'.toNat := UInt32.le_iff_toNat_le.1 hnine
    obtain rfl := Option.some.inj h
    exact Nat.sub_le_sub_right hnat _
  · cases h

/-- Digits that are read are worth less than one more digit would be. -/
theorem digitsUpTo_lt (value max : Nat) (cs : List Char) :
    (digitsUpTo value max cs).2.length ≤ cs.length ∧
      cs.length - (digitsUpTo value max cs).2.length ≤ max ∧ (digitsUpTo value max cs).1 <
      (value + 1) * 10 ^ (cs.length - (digitsUpTo value max cs).2.length) := by
  fun_induction digitsUpTo value max cs with
  | case1 => simp
  | case2 => simp
  | case3 value max c rest d hdigit ih =>
    obtain ⟨hlength, hcount, hvalue⟩ := ih
    have hd := digit?_le hdigit
    rw [List.length_cons, Nat.succ_sub hlength, Nat.pow_succ']
    refine ⟨Nat.le_succ_of_le hlength, Nat.succ_le_succ hcount, Nat.lt_of_lt_of_le hvalue ?_⟩
    rw [← Nat.mul_assoc]
    exact Nat.mul_le_mul_right _ (by omega)
  | case4 => simp

theorem nanos?_lt (h : nanos? cs = some (n, rest)) : n < 1000000000 := by
  unfold nanos? at h
  split at h
  · rename_i cs
    simp only [number?, Option.bind_eq_bind] at h
    split at h
    · obtain ⟨-, hcount, hvalue⟩ := digitsUpTo_lt 0 9 cs
      obtain ⟨rfl, -⟩ := Prod.mk.inj (Option.some.inj h)
      have hpow : 10 ^ (cs.length - (digitsUpTo 0 9 cs).2.length) *
          Nat.pow 10 (9 - (cs.length - (digitsUpTo 0 9 cs).2.length)) = 1000000000 := by
        change _ * 10 ^ _ = _
        rw [← Nat.pow_add, Nat.add_sub_cancel' hcount]
      rw [Nat.zero_add, Nat.one_mul] at hvalue
      rw [← hpow]
      exact Nat.mul_lt_mul_of_pos_right hvalue (Nat.pow_pos (by decide))
    · cases h
  · obtain ⟨rfl, -⟩ := Prod.mk.inj (Option.some.inj h)
    decide

/-- A time of day that is read lies within a second, or within the leap second behind the last
second of a minute. -/
theorem time?_spec {second : Nat} (h : time? cs = some ((second, n), rest)) :
    n < 2000000000 ∧ (1000000000 ≤ n → second % 60 = 59) := by
  simp only [time?, Option.bind_eq_bind, Option.bind_eq_some_iff] at h
  obtain ⟨⟨hour, _⟩, -, _, -, ⟨minute, _⟩, -, _, -, ⟨shown, _⟩, -, ⟨nanos, _⟩, hnanos, h⟩ := h
  have hlt := nanos?_lt hnanos
  split at h
  · split at h
    · simp only [Option.some.injEq, Prod.mk.injEq] at h
      omega
    · simp only [Option.some.injEq, Prod.mk.injEq] at h
      omega
  · cases h

/-- Offsets are whole minutes. -/
theorem offset?_spec {offset : Int} (h : offset? cs = some (offset, rest)) : offset % 60 = 0 := by
  have hsize {cs rest : List Char} {offset : Int} (h : offsetSize? cs = some (offset, rest)) :
      offset % 60 = 0 := by
    simp only [offsetSize?, Option.bind_eq_bind, Option.bind_eq_some_iff] at h
    obtain ⟨⟨hours, _⟩, -, ⟨minutes, _⟩, -, h⟩ := h
    split at h
    · obtain ⟨rfl, -⟩ := Prod.mk.inj (Option.some.inj h)
      omega
    · cases h
  unfold offset? at h
  split at h
  · obtain ⟨rfl, -⟩ := Prod.mk.inj (Option.some.inj h)
    rfl
  · split at h
    · obtain ⟨rfl, -⟩ := Prod.mk.inj (Option.some.inj h)
      rfl
    · obtain ⟨rfl, -⟩ := Prod.mk.inj (Option.some.inj h)
      rfl
    · exact hsize h
    · obtain ⟨⟨size, _⟩, hread, h⟩ := Option.map_eq_some_iff.1 h
      obtain ⟨rfl, -⟩ := Prod.mk.inj h
      have hwhole := hsize hread
      omega
    · obtain ⟨⟨size, _⟩, hread, h⟩ := Option.map_eq_some_iff.1 h
      obtain ⟨rfl, -⟩ := Prod.mk.inj h
      have hwhole := hsize hread
      omega
    · cases h

/-- Whatever instant is read exists. -/
theorem exists_of_ofText? {s : String} (h : ofText? s = some t) : t.Exists := by
  simp only [ofText?, Option.bind_eq_bind] at h
  obtain ⟨⟨date, behind⟩, -, h⟩ := Option.bind_eq_some_iff.1 h
  dsimp only at h
  split at h
  · split at h
    · simp only [Option.bind_some] at h
      obtain ⟨⟨⟨second, nanos⟩, _⟩, htime, h⟩ := Option.bind_eq_some_iff.1 h
      obtain ⟨⟨offset, _⟩, hoffset, h⟩ := Option.bind_eq_some_iff.1 h
      obtain ⟨hnanos, hleap⟩ := time?_spec htime
      have hwhole := offset?_spec hoffset
      split at h
      · rename_i hinside
        obtain rfl := Option.some.inj h
        have hyears :=
          (year_exists_iff (t := ⟨date.toDays * secondsPerDay + second - offset, nanos⟩)).2
            hinside.2
        refine ⟨hyears.1, hyears.2, hnanos, fun (hle : 1000000000 ≤ nanos) => ?_⟩
        have hend := hleap hle
        change (date.toDays * (86400 : Nat) + second - offset) % 60 = 59
        omega
      · cases h
    · cases h
  · cases h

theorem ofJson?_toJson (h : t.Exists) : ofJson? t.toJson = some t := ofText?_text h

theorem exists_of_ofJson? {v : Json} (h : ofJson? v = some t) : t.Exists := by
  unfold ofJson? at h
  split at h
  · exact exists_of_ofText? h
  · cases h

end TenantAuth.Instant
