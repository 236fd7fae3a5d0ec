import TenantAuth.Mfa.Possession

/-!
Texts that list things.

What is listed comes back when the text is read, as long as nothing that is listed contains the
separator. So one more recovery code adds one piece to the text of those consumed, and the steps
that are remembered come back as they were written, but for those that do not fit in sixty-four
bits.
-/

namespace TenantAuth

namespace Text

variable {sep : Char}

/-- Before a text with a separator in it come the pieces up to the separator. -/
theorem splitOnChar_append (front rest : List Char) :
    splitOnChar sep (front ++ sep :: rest) = splitOnChar sep front ++ splitOnChar sep rest := by
  induction front with
  | nil =>
    obtain ⟨piece, pieces, h⟩ := List.exists_cons_of_ne_nil (splitOnChar_ne_nil sep rest)
    simp [splitOnChar, h]
  | cons c front ih =>
    obtain ⟨piece, pieces, h⟩ := List.exists_cons_of_ne_nil (splitOnChar_ne_nil sep front)
    simp only [List.cons_append, splitOnChar, ih, h]
    split <;> rfl

/-- A text without separators is one piece. -/
theorem splitOnChar_of_notMem {cs : List Char} (h : sep ∉ cs) : splitOnChar sep cs = [cs] := by
  induction cs with
  | nil => rfl
  | cons c rest ih =>
    rw [List.mem_cons, not_or] at h
    simp [splitOnChar, ih h.2, Ne.symm h.1]

/-- There are no separators in a piece. -/
theorem notMem_of_mem_splitOnChar {cs piece : List Char} (h : piece ∈ splitOnChar sep cs) :
    sep ∉ piece := by
  induction cs generalizing piece with
  | nil =>
    rw [splitOnChar, List.mem_singleton] at h
    simp [h]
  | cons c rest ih =>
    obtain ⟨first, pieces, hrest⟩ := List.exists_cons_of_ne_nil (splitOnChar_ne_nil sep rest)
    rw [hrest] at ih
    simp only [splitOnChar, hrest] at h
    split at h
    · rcases List.mem_cons.1 h with rfl | h
      · exact List.not_mem_nil
      · exact ih h
    · rename_i hc
      rcases List.mem_cons.1 h with rfl | h
      · rw [List.mem_cons, not_or]
        exact ⟨Ne.symm hc, ih List.mem_cons_self⟩
      · exact ih (List.mem_cons_of_mem _ h)

/-- What is joined comes back by splitting. -/
theorem splitOnChar_joinWith {pieces : List (List Char)} (hne : pieces ≠ [])
    (h : ∀ p ∈ pieces, sep ∉ p) : splitOnChar sep (joinWith sep pieces) = pieces := by
  induction pieces with
  | nil => exact absurd rfl hne
  | cons piece rest ih =>
    have hpiece : sep ∉ piece := h piece List.mem_cons_self
    cases rest with
    | nil => exact splitOnChar_of_notMem hpiece
    | cons next rest =>
      rw [joinWith, splitOnChar_append, splitOnChar_of_notMem hpiece,
        ih (List.cons_ne_nil _ _) fun p hp => h p (List.mem_cons_of_mem _ hp),
        List.singleton_append]
      exact fun h => absurd h (List.cons_ne_nil _ _)

/-- Nothing is trimmed off a text without blanks. -/
theorem trim_of_not_blank {cs : List Char} (h : ∀ c ∈ cs, isBlank c = false) : trim cs = cs := by
  have hdrop {cs : List Char} (h : ∀ c ∈ cs, isBlank c = false) : cs.dropWhile isBlank = cs := by
    cases cs with
    | nil => rfl
    | cons c rest => simp [h c List.mem_cons_self]
  rw [trim, trimStart, hdrop h, trimEnd, hdrop fun c hc => h c (List.mem_reverse.1 hc),
    List.reverse_reverse]

/-! ### Numerals -/

/-- Digits lie between those of zero and nine. -/
theorem isDigit_iff {c : Char} : c.isDigit = true ↔ 48 ≤ c.toNat ∧ c.toNat ≤ 57 := by
  simp only [Char.isDigit, Bool.and_eq_true, decide_eq_true_eq, ge_iff_le, UInt32.le_iff_toNat_le]
  exact Iff.rfl

/-- A digit has the value that it is written for. -/
theorem digit?_of_isDigit {c : Char} (h : c.isDigit = true) :
    digit? c = some (c.toNat - '0'.toNat) := by
  obtain ⟨hlow, hhigh⟩ := isDigit_iff.1 h
  have hzero : '0' ≤ c := UInt32.le_iff_toNat_le.2 hlow
  have hnine : c ≤ '9' := UInt32.le_iff_toNat_le.2 hhigh
  simp [digit?, hzero, hnine]

/-- Digits are not blank. -/
theorem not_blank_of_isDigit {c : Char} (h : c.isDigit = true) : isBlank c = false := by
  have hc := isDigit_iff.1 h
  simp only [isBlank, inRanges, blankRanges, List.any_cons, List.any_nil, Bool.or_false,
    Bool.or_eq_false_iff, Bool.and_eq_false_iff, decide_eq_false_iff_not]
  omega

/-- Further digits do not lower a value. -/
theorem le_ofDigitChars (cs : List Char) (value : Nat) : value ≤ Nat.ofDigitChars 10 cs value := by
  induction cs generalizing value with
  | nil => exact Nat.le_of_eq Nat.ofDigitChars_nil.symm
  | cons c rest ih =>
    rw [Nat.ofDigitChars_cons]
    exact Nat.le_trans (by omega) (ih _)

/-- Digits are read as their value, unless it is past the bound. -/
theorem toOption_readDigits {bound value : Nat} {excess : NumeralFault} {cs : List Char}
    (hcs : ∀ c ∈ cs, c.isDigit = true) (hvalue : value ≤ bound) :
    (readDigits bound excess value cs).toOption =
      if Nat.ofDigitChars 10 cs value ≤ bound then some (Nat.ofDigitChars 10 cs value)
      else none := by
  induction cs generalizing value with
  | nil =>
    rw [Nat.ofDigitChars_nil, if_pos hvalue]
    rfl
  | cons c rest ih =>
    rw [readDigits, digit?_of_isDigit (hcs c List.mem_cons_self), Nat.ofDigitChars_cons,
      Nat.mul_comm]
    dsimp only
    split
    · rename_i hnext
      exact ih (fun c hc => hcs c (List.mem_cons_of_mem _ hc)) hnext
    · rename_i hnext
      rw [if_neg]
      · rfl
      · exact fun h => hnext (Nat.le_trans (le_ofDigitChars rest _) h)

/-- The numeral of a number is read as the number, unless it does not fit. -/
theorem toOption_readUnsigned_numeral (n : Nat) :
    (readUnsigned (numeral n)).toOption = if n ≤ maxUnsigned then some n else none := by
  have hdigits : ∀ c ∈ numeral n, c.isDigit = true := fun c hc =>
    Nat.isDigit_of_mem_toDigits (by decide) (by decide) hc
  have hread : readUnsigned (numeral n) = readDigits maxUnsigned .tooLarge 0 (numeral n) := by
    unfold readUnsigned
    split
    · rename_i h
      exact absurd h Nat.toDigits_ne_nil
    · rename_i h
      exact absurd (hdigits '+' (by simp [h])) (by decide)
    · rename_i h
      exact absurd (hdigits '+' (by simp [h])) (by decide)
    · rfl
  rw [hread, toOption_readDigits hdigits (Nat.zero_le _), numeral, Nat.ofDigitChars_ten_toDigits]

end Text

/-! ### Steps that are remembered -/

namespace Totp.Memory

/-- The numeral of a step gives the step, unless it does not fit. -/
theorem step?_numeral (step : Nat) :
    step? (Text.numeral step) = if step ≤ Text.maxUnsigned then some step else none := by
  have hblank : ∀ c ∈ Text.numeral step, Text.isBlank c = false := fun c hc =>
    Text.not_blank_of_isDigit (Nat.isDigit_of_mem_toDigits (by decide) (by decide) hc)
  rw [step?, Text.trim_of_not_blank hblank, Text.toOption_readUnsigned_numeral]

/-- Steps that were written come back, but for those that do not fit. -/
theorem ofText_toText (steps : List Nat) :
    ofText (toText steps) = steps.filter (· ≤ Text.maxUnsigned) := by
  rw [ofText, toText, String.toList_ofList]
  rcases List.eq_nil_or_concat steps with rfl | ⟨_, _, rfl⟩
  · rfl
  · rw [Text.splitOnChar_joinWith, List.filterMap_map]
    · rw [← List.filterMap_eq_filter]
      congr 1
      funext step
      simp [step?_numeral, Option.guard]
    · simp
    · intro piece hpiece hsep
      obtain ⟨step, _, rfl⟩ := List.mem_map.1 hpiece
      exact absurd (Nat.isDigit_of_mem_toDigits (by decide) (by decide) hsep) (by decide)

/-- Steps that fit come back as they were written. -/
theorem read_toText {steps : List Nat} (h : ∀ step ∈ steps, step ≤ Text.maxUnsigned) :
    read (some (toText steps)) = steps :=
  (ofText_toText steps).trans
    (List.filter_eq_self.2 fun step hstep => decide_eq_true (h step hstep))

/-- A step is remembered once, and only the latest steps are, at least one. -/
theorem nodup_record {recent : List Nat} (h : recent.Nodup) (step limit : Nat) :
    (record recent step limit).Nodup := by
  refine List.Nodup.sublist (List.drop_sublist _ _) (List.nodup_append.2 ⟨h.filter _, by simp, ?_⟩)
  intro other hother latest hlatest
  rw [List.mem_singleton.1 hlatest]
  simpa using (List.mem_filter.1 hother).2

theorem length_record_le (recent : List Nat) (step limit : Nat) :
    (record recent step limit).length ≤ max limit 1 := by
  rw [record, List.length_drop]
  omega

theorem record_ne_nil (recent : List Nat) (step limit : Nat) : record recent step limit ≠ [] := by
  intro h
  have hlength := congrArg List.length h
  rw [record, List.length_drop, List.length_append, List.length_singleton,
    List.length_nil] at hlength
  omega

end Totp.Memory

/-! ### Recovery codes that were consumed -/

namespace RecoveryCode

/-- A code that is listed has no separator in it and is not empty. -/
theorem pieces_of_mem_split {code text : String} (h : code ∈ split text) :
    pieces code = [code] ∧ code.isEmpty = false := by
  rw [split, List.mem_filter, Bool.not_eq_true'] at h
  obtain ⟨hlisted, hempty⟩ := h
  obtain ⟨piece, hpiece, rfl⟩ := List.mem_map.1 hlisted
  refine ⟨?_, hempty⟩
  rw [pieces, String.toList_ofList, Text.splitOnChar_of_notMem
    (Text.notMem_of_mem_splitOnChar hpiece)]
  rfl

/-- Codes that are put into one text are its pieces, unless there are none. -/
theorem pieces_join {codes : List String} (hne : codes ≠ [])
    (h : ∀ code ∈ codes, separator ∉ code.toList) : pieces (join codes) = codes := by
  have hsplit : Text.splitOnChar separator (Text.joinWith separator (codes.map String.toList)) =
      codes.map String.toList :=
    Text.splitOnChar_joinWith (mt List.map_eq_nil_iff.1 hne) (List.forall_mem_map.2 h)
  rw [pieces, join, String.toList_ofList, hsplit, List.map_map]
  exact (List.map_congr_left fun _ _ => String.ofList_toList).trans (List.map_id _)

/-- Codes that are put into one text are listed by it, if each is a code of its own. -/
theorem split_join {codes : List String} (h : ∀ code ∈ codes, code ≠ "" ∧ separator ∉ code.toList) :
    split (join codes) = codes := by
  by_cases hne : codes = []
  · rw [hne]
    decide
  · rw [split, pieces_join hne fun code hcode => (h code hcode).2, List.filter_eq_self]
    intro code hcode
    simpa using (h code hcode).1

end RecoveryCode

namespace Authenticator

variable {usedUp : Option String} {code text : String}

/-- What is used up names some of the codes that a text lists, each once. -/
def UsesUp (usedUp : Option String) (text : String) : Prop :=
  ∀ used, usedUp = some used →
    (RecoveryCode.pieces used).Nodup ∧ ∀ code ∈ RecoveryCode.pieces used,
    code ∈ RecoveryCode.split text

/-- One more code that is consumed is one more piece. -/
theorem pieces_withConsumed (h : UsesUp usedUp text) (hcode : RecoveryCode.pieces code = [code]) :
    RecoveryCode.pieces (withConsumed usedUp code) =
      (usedUp.map RecoveryCode.pieces).getD [] ++ [code] := by
  cases usedUp with
  | none => exact hcode
  | some used =>
    have hused : used.isEmpty = false := by
      -- an empty text has an empty piece, which no text lists as a code
      rw [← Bool.not_eq_true, String.isEmpty_iff]
      rintro rfl
      have hblank := (h "" rfl).2 "" (by decide)
      exact absurd (RecoveryCode.pieces_of_mem_split hblank).2 (by decide)
    rw [withConsumed, hused, if_neg Bool.false_ne_true, Option.map_some, Option.getD_some, ← hcode]
    simp only [RecoveryCode.pieces, String.toList_append, String.toList_singleton,
      List.append_assoc, List.singleton_append, Text.splitOnChar_append, List.map_append]

/-- A listed code that was not consumed before may be. -/
theorem UsesUp.withConsumed (h : UsesUp usedUp text) (hlisted : code ∈ RecoveryCode.split text)
    (hunused : code ∉ (usedUp.map RecoveryCode.pieces).getD []) :
    UsesUp (some (withConsumed usedUp code)) text := by
  have hearlier : ((usedUp.map RecoveryCode.pieces).getD []).Nodup ∧
      ∀ code ∈ (usedUp.map RecoveryCode.pieces).getD [], code ∈ RecoveryCode.split text := by
    cases usedUp with
    | none => exact ⟨List.nodup_nil, nofun⟩
    | some used => exact h used rfl
  rintro _ ⟨⟩
  rw [pieces_withConsumed h (RecoveryCode.pieces_of_mem_split hlisted).1]
  refine ⟨List.nodup_append.2 ⟨hearlier.1, by simp, fun other hother latest hlatest => ?_⟩,
    fun other hother => ?_⟩
  · rintro rfl
    exact hunused (List.mem_singleton.1 hlatest ▸ hother)
  · rcases List.mem_append.1 hother with hother | hother
    · exact hearlier.2 other hother
    · rw [List.mem_singleton.1 hother]
      exact hlisted

end Authenticator

end TenantAuth
