import Mathlib.Data.List.Basic
import Mathlib.Tactic.Push
import TenantAuth.Totp

/-!
Which codes are accepted at a time.

The codes of the window are tried one after the other, that of the current step first and that of
the step after it last, and the first one that was typed decides. Codes are short, so steps of a
window may share one. Which step decides depends on the codes alone; what is remembered can only
turn the verdict on it into a refusal.

The code of a step is computed from its first second, a product in sixty-four bits. That fits for
every step of a window, except in the last sixteen seconds that sixty-four bits can count: there the
step after the current one begins past their end. Nothing comes of it unless that step is looked at,
and then there is no verdict.
-/

namespace TenantAuth.Totp

variable {codes : (time : Nat) → String} {bytes : List UInt8} {secret typed : String}
  {recent more before steps rest : List Nat} {time step : Nat}

/-! ### Windows -/

/-- The code of a step is in the window of a time. -/
def Near (step time : Nat) : Prop := step ≤ stepOf time + 1 ∧ stepOf time ≤ step + 1

/-- The window holds the step of a time and the ones beside it. -/
theorem mem_window : step ∈ window time ↔ Near step time := by
  simp only [window, Near, List.mem_append, List.mem_cons, List.mem_ite_nil_right,
    List.not_mem_nil, or_false]
  omega

theorem near_stepOf (time : Nat) : Near (stepOf time) time := ⟨Nat.le_succ _, Nat.le_succ _⟩

theorem near_before (time : Nat) : Near (stepOf time - 1) time := by
  unfold Near
  omega

theorem near_after (time : Nat) : Near (stepOf time + 1) time := by
  unfold Near
  omega

/-- The steps of a window that are looked at before the one after the current step. -/
def earlier (time : Nat) : List Nat :=
  stepOf time :: if 0 < stepOf time then [stepOf time - 1] else []

theorem window_eq (time : Nat) : window time = earlier time ++ [stepOf time + 1] := rfl

theorem mem_earlier : step ∈ earlier time ↔ Near step time ∧ step ≤ stepOf time := by
  simp only [earlier, Near, List.mem_cons, List.mem_ite_nil_right, List.not_mem_nil, or_false]
  omega

/-! ### Starts of steps -/

/-- The first second of a step fits sixty-four bits. -/
def Fits (step : Nat) : Prop := step * stepSeconds < Nat.pow 2 64

instance (step : Nat) : Decidable (Fits step) := inferInstanceAs (Decidable (_ < _))

/-- A step up to the current one begins before it is over. -/
theorem fits_of_le (htime : time < Nat.pow 2 64) (h : step ≤ stepOf time) : Fits step :=
  Nat.lt_of_le_of_lt (Nat.le_trans (Nat.mul_le_mul_right _ h) (Nat.div_mul_le_self _ _)) htime

/-- The step after the current one begins within sixty-four bits, unless these end in sixteen
seconds or less. -/
theorem fits_after (htime : time < Nat.pow 2 64) :
    Fits (stepOf time + 1) ↔ time < Nat.pow 2 64 - 16 := by
  have hend : Nat.pow 2 64 = 18446744073709551616 := rfl
  simp only [Fits, stepOf, stepSeconds, hend] at htime ⊢
  omega

/-- Before the last sixteen seconds every step of a window fits. -/
theorem Near.fits (hnear : Near step time) (htime : time < Nat.pow 2 64 - 16) : Fits step :=
  Nat.lt_of_le_of_lt (Nat.mul_le_mul_right _ hnear.1)
    ((fits_after (Nat.lt_of_lt_of_le htime (Nat.sub_le _ _))).2 htime)

/-! ### Looking at steps -/

/-- The code of a step is the one at its first second. -/
def stepCode (codes : (time : Nat) → String) (step : Nat) : String := codes (step * stepSeconds)

/-- The verdict on a step that has the code. -/
def verdictOn (recent : List Nat) (step : Nat) : Verdict :=
  if step ∈ recent then .invalid else .valid step

theorem verdictOn_eq_valid {found : Nat} :
    verdictOn recent found = .valid step ↔ found = step ∧ step ∉ recent := by
  unfold verdictOn
  split
  · rename_i hrecent
    simp only [reduceCtorEq, false_iff, not_and, not_not]
    exact fun heq => heq ▸ hrecent
  · rename_i hnew
    simp only [Verdict.valid.injEq]
    exact ⟨fun heq => ⟨heq, heq ▸ hnew⟩, And.left⟩

/-- The more is remembered, the more is refused, and nothing else changes. -/
theorem verdictOn_of_subset (h : recent ⊆ more) (step : Nat) :
    verdictOn more step = verdictOn recent step ∨ verdictOn more step = .invalid := by
  unfold verdictOn
  split
  · exact Or.inr rfl
  · rename_i hnew
    rw [if_neg fun hrecent => hnew (h hrecent)]
    exact Or.inl rfl

/-- A step that fits decides if it has the code, and leaves the decision to others if not. -/
theorem check_cons_of_fits (h : Fits step) :
    check codes recent typed (step :: rest) =
      if stepCode codes step = Text.trimmed typed then .ok (verdictOn recent step)
      else check codes recent typed rest := by
  have hstart : stepStart step = .ok (step * stepSeconds) := if_pos h
  simp only [check, hstart, verdictOn, List.contains_eq_mem, decide_eq_true_eq]
  rfl

/-- There is no verdict where a step is looked at that does not fit. -/
theorem check_cons_of_not_fits (h : ¬Fits step) :
    check codes recent typed (step :: rest) = .error .timeOutOfRange := by
  have hstart : stepStart step = .error .timeOutOfRange := if_neg h
  simp only [check, hstart]
  rfl

/-- Steps that fit and do not have the code are passed over. -/
theorem check_passes (h : ∀ step ∈ before, Fits step ∧ stepCode codes step ≠ Text.trimmed typed) :
    check codes recent typed (before ++ rest) = check codes recent typed rest := by
  induction before with
  | nil => rfl
  | cons first others ih =>
    obtain ⟨⟨hfits, hcode⟩, hothers⟩ := List.forall_mem_cons.1 h
    rw [List.cons_append, check_cons_of_fits hfits, if_neg hcode]
    exact ih hothers

/-- A step that is accepted is one of those that were to be tried, it was not used recently, and it
has the code that was typed. -/
theorem valid_of_check (h : check codes recent typed steps = .ok (.valid step)) :
    step ∈ steps ∧ step ∉ recent ∧ stepCode codes step = Text.trimmed typed := by
  induction steps with
  | nil => cases h
  | cons first rest ih =>
    by_cases hfits : Fits first
    · rw [check_cons_of_fits hfits] at h
      split at h
      · rename_i hcode
        obtain ⟨rfl, hnew⟩ := verdictOn_eq_valid.1 (Except.ok.inj h)
        exact ⟨List.mem_cons_self, hnew, hcode⟩
      · obtain ⟨hmem, hrest⟩ := ih h
        exact ⟨List.mem_cons_of_mem _ hmem, hrest⟩
    · rw [check_cons_of_not_fits hfits] at h
      cases h

/-- A step that is accepted is in the window and was not used recently. -/
theorem near_of_check (h : check codes recent typed (window time) = .ok (.valid step)) :
    step ∉ recent ∧ Near step time :=
  let ⟨hmem, hnew, _⟩ := valid_of_check h
  ⟨hnew, mem_window.1 hmem⟩

/-! ### The step that decides -/

/-- The step of a window that decides about what was typed: the first one with that code, in the
order in which they are tried. -/
inductive Decides (codes : (time : Nat) → String) (typed : String) (time : Nat) :
    (step : Nat) → Prop
  | current (isCode : stepCode codes (stepOf time) = Text.trimmed typed) :
      Decides codes typed time (stepOf time)
  | before (notCurrent : stepCode codes (stepOf time) ≠ Text.trimmed typed)
      (positive : 0 < stepOf time)
      (isCode : stepCode codes (stepOf time - 1) = Text.trimmed typed) :
      Decides codes typed time (stepOf time - 1)
  | after (noOther : ∀ step ∈ earlier time, stepCode codes step ≠ Text.trimmed typed)
      (isCode : stepCode codes (stepOf time + 1) = Text.trimmed typed) :
      Decides codes typed time (stepOf time + 1)

theorem Decides.near (h : Decides codes typed time step) : Near step time := by
  cases h with
  | current => exact near_stepOf time
  | before => exact near_before time
  | after => exact near_after time

theorem Decides.isCode (h : Decides codes typed time step) :
    stepCode codes step = Text.trimmed typed := by
  cases h <;> assumption

/-- If the current step has the code, it decides. -/
theorem Decides.eq_stepOf (h : Decides codes typed time step)
    (hcurrent : stepCode codes (stepOf time) = Text.trimmed typed) : step = stepOf time := by
  cases h with
  | current => rfl
  | before notCurrent => exact absurd hcurrent notCurrent
  | after noOther => exact absurd hcurrent (noOther _ List.mem_cons_self)

/-- If a step of the window has the code, one decides. -/
theorem exists_decides (hnear : Near step time) (hcode : stepCode codes step = Text.trimmed typed) :
    ∃ step, Decides codes typed time step := by
  by_cases hnone : ∀ step ∈ earlier time, stepCode codes step ≠ Text.trimmed typed
  · have hlate : ¬step ≤ stepOf time := fun hle => hnone step (mem_earlier.2 ⟨hnear, hle⟩) hcode
    obtain rfl : step = stepOf time + 1 := by
      have := hnear.1
      omega
    exact ⟨_, .after hnone hcode⟩
  · by_cases hcurrent : stepCode codes (stepOf time) = Text.trimmed typed
    · exact ⟨_, .current hcurrent⟩
    · push Not at hnone
      obtain ⟨other, hother, htyped⟩ := hnone
      obtain ⟨hnear, hle⟩ := mem_earlier.1 hother
      have hne : other ≠ stepOf time := fun heq => hcurrent (heq ▸ htyped)
      obtain rfl : other = stepOf time - 1 := by
        have := hnear.2
        omega
      exact ⟨_, .before hcurrent (by omega) htyped⟩

/-- The step that decides is looked at after the others, and if it fits there is a verdict on it. -/
theorem check_of_decides (htime : time < Nat.pow 2 64) (h : Decides codes typed time step)
    (hfits : Fits step) (recent : List Nat) :
    check codes recent typed (window time) = .ok (verdictOn recent step) := by
  have hcurrent : Fits (stepOf time) := fits_of_le htime (Nat.le_refl _)
  rw [window_eq]
  cases h with
  | current isCode => rw [earlier, List.cons_append, check_cons_of_fits hfits, if_pos isCode]
  | before notCurrent positive isCode =>
    rw [earlier, if_pos positive, List.cons_append, check_cons_of_fits hcurrent, if_neg notCurrent,
      List.cons_append, check_cons_of_fits hfits, if_pos isCode]
  | after noOther isCode =>
    have hpassed : ∀ step ∈ earlier time,
        Fits step ∧ stepCode codes step ≠ Text.trimmed typed := fun step hstep =>
      ⟨fits_of_le htime (mem_earlier.1 hstep).2, noOther step hstep⟩
    rw [check_passes hpassed, check_cons_of_fits hfits, if_pos isCode]

/-- If none of the steps up to the current one has the code, the one after it is looked at. -/
theorem check_of_no_earlier (htime : time < Nat.pow 2 64)
    (h : ∀ step ∈ earlier time, stepCode codes step ≠ Text.trimmed typed) (recent : List Nat) :
    check codes recent typed (window time) = check codes recent typed [stepOf time + 1] := by
  rw [window_eq]
  exact check_passes fun step hstep => ⟨fits_of_le htime (mem_earlier.1 hstep).2, h step hstep⟩

/-- What is the code of no step in the window is refused, if the last one fits. -/
theorem check_of_none (htime : time < Nat.pow 2 64) (hafter : Fits (stepOf time + 1))
    (h : ∀ step, Near step time → stepCode codes step ≠ Text.trimmed typed) (recent : List Nat) :
    check codes recent typed (window time) = .ok .invalid := by
  rw [check_of_no_earlier htime fun step hstep => h step (mem_earlier.1 hstep).1,
    check_cons_of_fits hafter, if_neg (h _ (near_after time))]
  rfl

/-! ### Verdicts under a secret -/

/-- What was typed is the code of a step. -/
def IsCode (bytes : List UInt8) (typed : String) (step : Nat) : Prop :=
  codeAt bytes (step * stepSeconds) = Text.trimmed typed

theorem verify_eq (h : secretBytes secret = .ok bytes) (recent : List Nat) (typed : String)
    (time : Nat) :
    verify secret recent typed time = check (codeAt bytes) recent typed (window time) := by
  rw [verify, h]
  rfl

/-- A fresh code of the window is accepted, and no other: what is typed is refused if it is the code
of no step in the window, or only of steps that were used; if it is the code of some, none of them
used, one of them is accepted, and the current one if it is among them. To remember more can only
turn the verdict into a refusal. -/
theorem fresh_codes_only (hsecret : secretBytes secret = .ok bytes)
    (htime : time < Nat.pow 2 64 - 16) (recent : List Nat) (typed : String) :
    ∃ verdict, verify secret recent typed time = .ok verdict ∧
      ((∀ step, Near step time → IsCode bytes typed step → step ∈ recent) → verdict = .invalid) ∧
      ((∃ step, Near step time ∧ IsCode bytes typed step) →
        (∀ step, Near step time → IsCode bytes typed step → step ∉ recent) →
        ∃ step, verdict = .valid step ∧ Near step time ∧ IsCode bytes typed step ∧
          (IsCode bytes typed (stepOf time) → step = stepOf time)) ∧
      ∀ more, recent ⊆ more →
        verify secret more typed time = .ok verdict ∨
          verify secret more typed time = .ok .invalid := by
  have htime' : time < Nat.pow 2 64 := Nat.lt_of_lt_of_le htime (Nat.sub_le _ _)
  by_cases hsome : ∃ step, Near step time ∧ IsCode bytes typed step
  · obtain ⟨found, hdecides⟩ : ∃ found, Decides (codeAt bytes) typed time found := by
      obtain ⟨step, hnear, hcode⟩ := hsome
      exact exists_decides hnear hcode
    have hverify (recent : List Nat) :
        verify secret recent typed time = .ok (verdictOn recent found) := by
      rw [verify_eq hsecret, check_of_decides htime' hdecides (hdecides.near.fits htime)]
    refine ⟨_, hverify recent, fun hused => if_pos (hused found hdecides.near hdecides.isCode),
      fun _ hnew => ?_, fun more hmore => ?_⟩
    · exact ⟨found, if_neg (hnew found hdecides.near hdecides.isCode), hdecides.near,
        hdecides.isCode, hdecides.eq_stepOf⟩
    · rw [hverify more]
      exact (verdictOn_of_subset hmore found).imp (congrArg Except.ok) (congrArg Except.ok)
  · have hverify (recent : List Nat) : verify secret recent typed time = .ok .invalid := by
      rw [verify_eq hsecret, check_of_none htime' ((near_after time).fits htime)]
      exact fun step hnear htyped => hsome ⟨step, hnear, htyped⟩
    exact ⟨_, hverify recent, fun _ => rfl, fun hcode => absurd hcode hsome,
      fun more _ => Or.inl (hverify more)⟩

/-- A secret for examples. -/
def sampleSecret : String := "JBSWY3DPEHPK3PXPJBSWY3DPEHPK3PXP"

/-- The bytes of the secret for examples. -/
def sampleBytes : List UInt8 :=
  [72, 101, 108, 108, 111, 33, 222, 173, 190, 239, 72, 101, 108, 108, 111, 33, 222, 173, 190, 239]

theorem secretBytes_sample : secretBytes sampleSecret = .ok sampleBytes := by
  have hdecoded : Codec.Base32.decode sampleSecret = some sampleBytes := by decide +kernel
  rw [secretBytes, hdecoded]
  rfl

theorem codeAt_sample : codeAt sampleBytes 0 = "702218" := by decide +kernel

theorem fresh_codes_only_sample :
    secretBytes sampleSecret = .ok sampleBytes ∧ 0 < Nat.pow 2 64 - 16 ∧
      IsCode sampleBytes " 702218" 0 ∧
      verify sampleSecret [7] " 702218" 0 = .ok (.valid 0) ∧
      verify sampleSecret [1, 0] " 702218" 0 = .ok .invalid := by
  have hcode : IsCode sampleBytes " 702218" 0 := codeAt_sample.trans (by decide +kernel)
  have hnew : ∀ step, Near step 0 → IsCode sampleBytes " 702218" step → step ∉ [7] := by
    intro step hnear _
    have hle : step ≤ 1 := hnear.1
    rw [List.mem_singleton]
    omega
  have hused : ∀ step, Near step 0 → IsCode sampleBytes " 702218" step → step ∈ [1, 0] := by
    intro step hnear _
    have hle : step ≤ 1 := hnear.1
    rw [List.mem_pair]
    omega
  obtain ⟨verdict, hverify, -, haccepted, -⟩ :=
    fresh_codes_only secretBytes_sample (by decide : 0 < Nat.pow 2 64 - 16) [7] " 702218"
  obtain ⟨step, rfl, -, -, hcurrent⟩ := haccepted ⟨0, near_stepOf 0, hcode⟩ hnew
  obtain rfl : step = 0 := hcurrent hcode
  obtain ⟨refused, hverify', hrefused, -⟩ :=
    fresh_codes_only secretBytes_sample (by decide : 0 < Nat.pow 2 64 - 16) [1, 0] " 702218"
  obtain rfl := hrefused hused
  exact ⟨secretBytes_sample, by decide, hcode, hverify, hverify'⟩

/-! ### At the end of time -/

/-- The step after the current one is looked at, and it begins past the end of sixty-four bits. -/
structure Overruns (bytes : List UInt8) (typed : String) (time : Nat) : Prop where
  late : Nat.pow 2 64 - 16 ≤ time
  needed : ∀ step, Near step time → step ≤ stepOf time → ¬IsCode bytes typed step

/-- Where that does not happen, the steps that are looked at fit, and there is a verdict. -/
theorem exists_verdict (htime : time < Nat.pow 2 64) (h : ¬Overruns bytes typed time)
    (recent : List Nat) :
    ∃ verdict, check (codeAt bytes) recent typed (window time) = .ok verdict := by
  by_cases hlate : Nat.pow 2 64 - 16 ≤ time
  · -- a step up to the current one has the code, so that the one after it is not looked at
    have hsome : ∃ step, Near step time ∧ step ≤ stepOf time ∧ IsCode bytes typed step := by
      by_contra hnone
      exact h ⟨hlate, fun step hnear hle hcode => hnone ⟨step, hnear, hle, hcode⟩⟩
    obtain ⟨step, hnear, hle, hcode⟩ := hsome
    obtain ⟨found, hdecides⟩ : ∃ found, Decides (codeAt bytes) typed time found :=
      exists_decides hnear hcode
    have hfound : found ≤ stepOf time := by
      cases hdecides with
      | current => exact Nat.le_refl _
      | before => exact Nat.sub_le _ _
      | after noOther => exact absurd hcode (noOther step (mem_earlier.2 ⟨hnear, hle⟩))
    exact ⟨_, check_of_decides htime hdecides (fits_of_le htime hfound) recent⟩
  · rw [Nat.not_le] at hlate
    by_cases hsome : ∃ found, Decides (codeAt bytes) typed time found
    · obtain ⟨found, hdecides⟩ := hsome
      exact ⟨_, check_of_decides htime hdecides (hdecides.near.fits hlate) recent⟩
    · refine ⟨_, check_of_none htime ((near_after time).fits hlate) (fun step hnear hcode => ?_)
        recent⟩
      exact hsome (exists_decides hnear hcode)

/-- Whatever the time, there is a verdict, and a step that is accepted is in the window, was not
used, and has the code that was typed, unless the step after the current one is looked at in the
last sixteen seconds that sixty-four bits can count. Then its first second exceeds them, and there
is no verdict. -/
theorem sound_unless_overrun (hsecret : secretBytes secret = .ok bytes)
    (htime : time < Nat.pow 2 64) (recent : List Nat) (typed : String) :
    (¬Overruns bytes typed time →
      ∃ verdict, verify secret recent typed time = .ok verdict ∧ ∀ step, verdict = .valid step →
        Near step time ∧ step ∉ recent ∧ IsCode bytes typed step) ∧
    (Overruns bytes typed time → verify secret recent typed time = .error .timeOutOfRange) := by
  rw [verify_eq hsecret]
  constructor
  · intro hfits
    obtain ⟨verdict, hverdict⟩ := exists_verdict htime hfits recent
    refine ⟨verdict, hverdict, ?_⟩
    rintro step rfl
    obtain ⟨hmem, hnew, hcode⟩ := valid_of_check hverdict
    exact ⟨mem_window.1 hmem, hnew, hcode⟩
  · intro hover
    have hnone : ∀ step ∈ earlier time, stepCode (codeAt bytes) step ≠ Text.trimmed typed :=
      fun step hstep => hover.needed step (mem_earlier.1 hstep).1 (mem_earlier.1 hstep).2
    rw [check_of_no_earlier htime hnone]
    exact check_cons_of_not_fits ((fits_after htime).not.2 (Nat.not_lt.2 hover.late))

/-- The last sixteen seconds begin. -/
def sampleEnd : Nat := Nat.pow 2 64 - 16

/-- A code of the current step is accepted then, and one of no step up to it has no verdict. -/
theorem sound_unless_overrun_sample :
    secretBytes sampleSecret = .ok sampleBytes ∧ sampleEnd < Nat.pow 2 64 ∧
      ¬Overruns sampleBytes "505998" sampleEnd ∧
      (∃ verdict, verify sampleSecret [] "505998" sampleEnd = .ok verdict) ∧
      Overruns sampleBytes "702218" sampleEnd ∧
      verify sampleSecret [] "702218" sampleEnd = .error .timeOutOfRange := by
  have hlast : sampleEnd < Nat.pow 2 64 := by decide
  have hcurrent : IsCode sampleBytes "505998" (stepOf sampleEnd) := by
    unfold IsCode
    decide +kernel
  have hfits : ¬Overruns sampleBytes "505998" sampleEnd :=
    fun hover => hover.needed _ (near_stepOf _) (Nat.le_refl _) hcurrent
  have hover : Overruns sampleBytes "702218" sampleEnd := by
    refine ⟨Nat.le_refl _, fun step hnear hle => ?_⟩
    have hcases : step = 614891469123651719 ∨ step = 614891469123651720 := by
      have hstep : stepOf sampleEnd = 614891469123651720 := by decide
      have := hnear.2
      omega
    unfold IsCode
    rcases hcases with rfl | rfl <;> decide +kernel
  obtain ⟨verdict, hverdict, -⟩ :=
    (sound_unless_overrun secretBytes_sample hlast [] "505998").1 hfits
  exact ⟨secretBytes_sample, hlast, hfits, ⟨verdict, hverdict⟩, hover,
    (sound_unless_overrun secretBytes_sample hlast [] "702218").2 hover⟩

end TenantAuth.Totp
