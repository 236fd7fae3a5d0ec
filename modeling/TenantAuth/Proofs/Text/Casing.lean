import TenantAuth.Text.Case

/-!
What lower case does to a text, and what it leaves alone.

A text in lower case is settled: lower case changes it no further. The signs that tell the parts of
an address apart, and blanks, are neither made nor lost. Both come from the table of runs: no image
of a run lies in the domain of a run, nor among those signs.
-/

namespace TenantAuth.Text

/-- A character that lower case leaves as it is, wherever it stands. -/
def Settled (c : Char) : Prop := lowerOf c = [c] ∧ c ≠ 'Σ'

instance (c : Char) : Decidable (Settled c) := inferInstanceAs (Decidable (_ ∧ _))

/-- A character that tells parts of a text apart: an at sign, a colon, or a blank. -/
def isMark (c : Char) : Bool := c = '@' || c = ':' || isBlank c

/-! ### The table -/

namespace CaseRun

/-- No image of a run is in the domain of another. -/
def isApart (r q : CaseRun) : Bool :=
  Nat.blt (r.image + (r.last - r.first)) q.first || Nat.blt q.last r.image ||
    ((r.stride == 2 || r.first == r.last) && q.stride == 2 && (r.image + q.first) % 2 == 1)

/-- Neither the domain of a run nor its images are in a range. -/
def misses (r : CaseRun) (range : Nat × Nat) : Bool :=
  (Nat.blt (r.image + (r.last - r.first)) range.1 || Nat.blt range.2 r.image) &&
    (Nat.blt r.last range.1 || Nat.blt range.2 r.first)

end CaseRun

/-- The code points that have to do with no run: those of marks, of capitals in ASCII, and of the
letter whose lower case is two characters long. -/
def aloof : List (Nat × Nat) := (0x3A, 0x3A) :: (0x40, 0x5A) :: (0x130, 0x130) :: blankRanges

theorem lowerRuns_isApart : (lowerRuns.all fun r => lowerRuns.all fun q => r.isApart q) = true := by
  decide +kernel

theorem lowerRuns_misses :
    (lowerRuns.all fun r => aloof.all fun range => r.misses range) = true := by
  decide +kernel

/-- What is in the image of a run, by the run. -/
theorem image?_eq_some {runs : List CaseRun} {n m : Nat} (h : CaseRun.image? runs n = some m) :
    ∃ r ∈ runs, r.first ≤ n ∧ n ≤ r.last ∧ (n - r.first) % r.stride = 0 ∧
      m = r.image + (n - r.first) := by
  unfold CaseRun.image? at h
  split at h
  · rename_i r hr
    have hholds := List.find?_some hr
    simp only [Bool.and_eq_true, decide_eq_true_eq, beq_iff_eq] at hholds
    exact ⟨r, List.mem_of_find?_eq_some hr, hholds.1.1, hholds.1.2, hholds.2,
      (Option.some.inj h).symm⟩
  · cases h

theorem image?_eq_none {runs : List CaseRun} {n : Nat}
    (h : ∀ q ∈ runs, ¬(q.first ≤ n ∧ n ≤ q.last ∧ (n - q.first) % q.stride = 0)) :
    CaseRun.image? runs n = none := by
  have hnone :
      runs.find? (fun r => r.first ≤ n && n ≤ r.last && (n - r.first) % r.stride == 0) = none := by
    refine List.find?_eq_none.2 fun q hq => ?_
    simpa [and_assoc] using h q hq
  rw [CaseRun.image?, hnone]

/-- What an image is, is no matter of lower case any more. -/
theorem image?_image {n m : Nat} (h : CaseRun.image? lowerRuns n = some m) :
    CaseRun.image? lowerRuns m = none := by
  obtain ⟨r, hr, hfirst, hlast, hstride, rfl⟩ := image?_eq_some h
  refine image?_eq_none fun q hq ⟨hlow, hhigh, hmod⟩ => ?_
  have hapart := List.all_eq_true.1 (List.all_eq_true.1 lowerRuns_isApart r hr) q hq
  simp only [CaseRun.isApart, Bool.or_eq_true, Bool.and_eq_true, Nat.blt_eq, beq_iff_eq] at hapart
  -- Where an image overlaps a domain, both take every second code point, and not the same ones.
  rcases hapart with (hbelow | habove) | ⟨⟨htwo | hsingle, hq2⟩, hodd⟩
  · omega
  · omega
  · rw [htwo] at hstride
    rw [hq2] at hmod
    omega
  · rw [hq2] at hmod
    omega

/-- Neither what has an image in lower case nor the image is aloof. -/
theorem not_aloof_of_image? {n m : Nat} (h : CaseRun.image? lowerRuns n = some m) :
    inRanges aloof n = false ∧ inRanges aloof m = false := by
  obtain ⟨r, hr, hfirst, hlast, _, rfl⟩ := image?_eq_some h
  have hmisses := List.all_eq_true.1 lowerRuns_misses r hr
  rw [List.all_eq_true] at hmisses
  constructor
  all_goals
    refine List.any_eq_false.2 fun range hrange hin => ?_
    have hmiss := hmisses range hrange
    simp only [CaseRun.misses, Bool.and_eq_true, Bool.or_eq_true, Nat.blt_eq,
    decide_eq_true_eq] at hmiss hin
    omega

/-! ### Single characters -/

/-- What is true of the first code points is true of every character in ASCII. -/
theorem forall_ascii {P : Char → Prop} (h : ∀ n < 0x80, P (Char.ofNat n)) {c : Char}
    (hc : c.toNat < 0x80) : P c := by
  have hP := h c.toNat hc
  rwa [Char.ofNat_toNat] at hP

/-- A mark is aloof. -/
theorem inRanges_aloof_of_isMark {c : Char} (h : isMark c = true) :
    inRanges aloof c.toNat = true := by
  simp only [isMark, Bool.or_eq_true, decide_eq_true_eq] at h
  rcases h with (rfl | rfl) | hblank
  · decide
  · decide
  · have hin :
        inRanges aloof c.toNat =
          ((0x3A ≤ c.toNat && c.toNat ≤ 0x3A) ||
            ((0x40 ≤ c.toNat && c.toNat ≤ 0x5A) ||
              ((0x130 ≤ c.toNat && c.toNat ≤ 0x130) || isBlank c))) := rfl
    rw [hin, hblank]
    simp

/-- What is not aloof is no mark. -/
theorem isMark_eq_false {c : Char} (h : inRanges aloof c.toNat = false) : isMark c = false := by
  rw [← Bool.not_eq_true]
  intro hmark
  rw [inRanges_aloof_of_isMark hmark] at h
  cases h

/-- One letter alone has a lower case of several characters. -/
theorem lookup_eq_none {n : Nat} (h : n ≠ 0x130) : lowerExpansions.lookup n = none := by
  rw [lowerExpansions, List.lookup_cons, beq_eq_false_iff_ne.2 h]
  rfl

/-- In ASCII only capitals change, and they are aloof. -/
theorem toLower_ascii : ∀ n < 0x80,
    inRanges aloof n = false → (Char.ofNat n).toLower = Char.ofNat n := by decide

/-- A character that is neither aloof nor in the domain of a run is settled. -/
theorem settled_of_not_aloof {c : Char} (hnone : CaseRun.image? lowerRuns c.toNat = none)
    (haloof : inRanges aloof c.toNat = false) : Settled c := by
  constructor
  · unfold lowerOf
    split
    · rename_i hascii
      have hsame := toLower_ascii c.toNat hascii haloof
      rw [Char.ofNat_toNat] at hsame
      rw [hsame]
    · have hne : c.toNat ≠ 0x130 := fun heq => by rw [heq] at haloof; revert haloof; decide
      rw [lookup_eq_none hne, hnone]
      rfl
  · rintro rfl
    revert hnone
    decide

/-- A code point that is neither aloof nor in the domain of a run is that of a settled character,
and of no mark. -/
theorem settled_ofNat {n : Nat} (hnone : CaseRun.image? lowerRuns n = none)
    (haloof : inRanges aloof n = false) :
    Settled (Char.ofNat n) ∧ isMark (Char.ofNat n) = false := by
  by_cases hvalid : n.isValidChar
  · have hpoint : (Char.ofNat n).toNat = n := by
      rw [Char.ofNat, dif_pos hvalid]
      rfl
    rw [← hpoint] at hnone haloof
    exact ⟨settled_of_not_aloof hnone haloof, isMark_eq_false haloof⟩
  · -- A code point of no character stands for the first one.
    have hzero : Char.ofNat n = Char.ofNat 0 := by
      rw [Char.ofNat, dif_neg hvalid]
      rfl
    rw [hzero]
    decide

/-- Whether all characters are settled and none is a mark. -/
def areSettledLetters (cs : List Char) : Bool := cs.all fun d => decide (Settled d) && !isMark d

theorem areSettledLetters_iff {cs : List Char} :
    areSettledLetters cs = true ↔ ∀ d ∈ cs, Settled d ∧ isMark d = false := by
  simp [areSettledLetters]

theorem lowerOf_ascii : ∀ n < 0x80, lowerOf (Char.ofNat n) = [Char.ofNat n] ∨
    isMark (Char.ofNat n) = false ∧ areSettledLetters (lowerOf (Char.ofNat n)) = true := by
    decide +kernel

/-- What a character becomes in lower case: itself, or settled characters that are no marks in place
of one that is none. -/
theorem lowerOf_cases (c : Char) :
    lowerOf c = [c] ∨ isMark c = false ∧ ∀ d ∈ lowerOf c, Settled d ∧ isMark d = false := by
  rw [← areSettledLetters_iff]
  by_cases hascii : c.toNat < 0x80
  · exact forall_ascii (P := fun c => lowerOf c = [c] ∨ isMark c = false ∧ areSettledLetters
      (lowerOf c) = true) lowerOf_ascii hascii
  · by_cases hexpansion : c.toNat = 0x130
    · obtain rfl : c = 'İ' := by rw [← Char.ofNat_toNat c, hexpansion]
      right
      decide +kernel
    · have hlower : lowerOf c = [((CaseRun.image? lowerRuns c.toNat).map Char.ofNat).getD c] := by
        rw [lowerOf, if_neg hascii, lookup_eq_none hexpansion]
      rw [hlower]
      cases himage : CaseRun.image? lowerRuns c.toNat with
      | none => exact Or.inl rfl
      | some m =>
        obtain ⟨hc, hm⟩ := not_aloof_of_image? himage
        refine Or.inr ⟨isMark_eq_false hc, areSettledLetters_iff.2 fun d hd => ?_⟩
        obtain rfl : d = Char.ofNat m := List.mem_singleton.1 hd
        exact settled_ofNat (image?_image himage) hm

/-- What a character becomes in lower case is settled. -/
theorem settled_of_mem_lowerOf {c d : Char} (h : d ∈ lowerOf c) : Settled d := by
  rcases lowerOf_cases c with hsame | ⟨_, himage⟩
  · rw [hsame] at h
    obtain rfl := List.mem_singleton.1 h
    refine ⟨hsame, ?_⟩
    rintro rfl
    revert hsame
    decide
  · exact (himage d h).1

theorem mem_lowerOf_iff_of_isMark {c d : Char} (hd : isMark d = true) : d ∈ lowerOf c ↔ d = c := by
  rcases lowerOf_cases c with hsame | ⟨hmark, himage⟩
  · rw [hsame, List.mem_singleton]
  · constructor
    · intro hmem
      rw [(himage d hmem).2] at hd
      cases hd
    · rintro rfl
      rw [hmark] at hd
      cases hd

theorem lowerOf_ne_nil (c : Char) : lowerOf c ≠ [] := by
  unfold lowerOf
  split
  · exact List.cons_ne_nil _ _
  · split
    · rename_i image himage
      by_cases hpoint : c.toNat = 0x130
      · rw [hpoint] at himage
        obtain rfl : image = [0x69, 0x307] := by simpa [lowerExpansions] using himage.symm
        decide
      · rw [lookup_eq_none hpoint] at himage
        cases himage
    · exact List.cons_ne_nil _ _

/-! ### Texts -/

variable {before rest cs : List Char} {c d : Char}

/-- What stands in the place of a character in a text in lower case. -/
structure IsImage (c : Char) (image : List Char) : Prop where
  ne_nil : image ≠ []
  settled : ∀ d ∈ image, Settled d
  mem_iff : ∀ d, isMark d = true → (d ∈ image ↔ d = c)
  eq_of_settled : Settled c → image = [c]

/-- Lower case replaces the characters of a text one by one. -/
theorem lowerAfter_cons (before : List Char) (c : Char) (rest : List Char) :
    ∃ image, IsImage c image ∧ lowerAfter before (c :: rest) = image ++ lowerAfter
      (c :: before) rest := by
  by_cases hsigma : c = 'Σ'
  · -- The one letter whose lower case depends on what stands around it.
    subst hsigma
    have hno (d : Char) (hd : isMark d = true) : d ≠ 'Σ' ∧ d ≠ 'ς' ∧ d ≠ 'σ' := by
      refine ⟨?_, ?_, ?_⟩ <;> (rintro rfl; revert hd; decide)
    refine ⟨if startsCased before && !startsCased rest then ['ς'] else ['σ'], ?_, rfl⟩
    have hfinal : Settled 'ς' := by decide
    have hinner : Settled 'σ' := by decide
    split
    · exact ⟨List.cons_ne_nil _
        _, by simpa using hfinal, fun d hd => by simp [hno d hd], fun h => absurd rfl h.2⟩
    · exact ⟨List.cons_ne_nil _
        _, by simpa using hinner, fun d hd => by simp [hno d hd], fun h => absurd rfl h.2⟩
  · refine ⟨lowerOf c,
      ⟨lowerOf_ne_nil c, fun d => settled_of_mem_lowerOf, fun d => mem_lowerOf_iff_of_isMark,
        And.left⟩, ?_⟩
    rw [lowerAfter, if_neg hsigma]

/-- A text in lower case is settled. -/
theorem settled_of_mem_lowerAfter (h : d ∈ lowerAfter before cs) : Settled d := by
  induction cs generalizing before with
  | nil => cases h
  | cons c rest ih =>
    obtain ⟨image, himage, heq⟩ := lowerAfter_cons before c rest
    rw [heq, List.mem_append] at h
    exact h.elim (himage.settled d) ih

/-- A settled text is in lower case already. -/
theorem lowerAfter_eq_self (h : ∀ c ∈ cs, Settled c) : lowerAfter before cs = cs := by
  induction cs generalizing before with
  | nil => rfl
  | cons c rest ih =>
    obtain ⟨image, himage, heq⟩ := lowerAfter_cons before c rest
    rw [heq, himage.eq_of_settled (h c List.mem_cons_self), ih fun d hd => h d
      (List.mem_cons_of_mem c hd), List.singleton_append]

/-- The marks of a text are in it in lower case as well, and no others. -/
theorem mem_lowerAfter_iff (hd : isMark d = true) : d ∈ lowerAfter before cs ↔ d ∈ cs := by
  induction cs generalizing before with
  | nil => rfl
  | cons c rest ih =>
    obtain ⟨image, himage, heq⟩ := lowerAfter_cons before c rest
    rw [heq, List.mem_append, himage.mem_iff d hd, ih, List.mem_cons]

theorem lowerAfter_eq_nil_iff : lowerAfter before cs = [] ↔ cs = [] := by
  cases cs with
  | nil => simp [lowerAfter]
  | cons c rest =>
    obtain ⟨image, himage, heq⟩ := lowerAfter_cons before c rest
    simp [heq, himage.ne_nil]

/-- A text is cut at a mark in lower case where it was cut before. -/
theorem lowerAfter_append_mark (before front rest : List Char) (hc : isMark c = true) :
    ∃ front', lowerAfter before (front ++ c :: rest) = front' ++ c :: lowerAfter
      (c :: front.reverse ++ before) rest ∧ (front' = [] ↔ front = []) ∧ ∀ d, isMark d = true →
      (d ∈ front' ↔ d ∈ front) := by
  induction front generalizing before with
  | nil =>
    obtain ⟨image, himage, heq⟩ := lowerAfter_cons before c rest
    have hsettled : Settled c := settled_of_mem_lowerOf ((mem_lowerOf_iff_of_isMark hc).2 rfl)
    refine ⟨[], ?_, by simp, by simp⟩
    rw [List.nil_append, heq, himage.eq_of_settled hsettled]
    rfl
  | cons first front ih =>
    obtain ⟨image, himage, heq⟩ := lowerAfter_cons before first (front ++ c :: rest)
    obtain ⟨front', hrest, hnil, hmem⟩ := ih (first :: before)
    refine ⟨image ++ front', ?_, ?_, fun d hd => ?_⟩
    · rw [List.cons_append, heq, hrest, List.append_assoc]
      simp
    · simp [himage.ne_nil]
    · rw [List.mem_append, himage.mem_iff d hd, hmem d hd, List.mem_cons]

end TenantAuth.Text
