import Mathlib.Data.List.Dedup
import Mathlib.Data.List.Perm.Subperm
import TenantAuth.Proofs.Mfa.Rehearsal
import TenantAuth.Proofs.Text.Listing

/-!
Using up recovery codes.

A code is accepted in any spelling: letters in either case, with hyphens and blanks anywhere. It is
accepted the first time that it is typed and never again, however it is spelled then. Nothing else
is accepted, and what is refused leaves no trace. What is used up of an authenticator lists the
codes that were accepted, in their order.
-/

namespace TenantAuth

namespace Text

theorem toUpper_cases (c : Char) :
    c.toUpper = c ∨ 97 ≤ c.toNat ∧ c.toNat ≤ 122 ∧ c.toUpper.toNat + 32 = c.toNat := by
  by_cases h : 'a'.val ≤ c.val ∧ c.val ≤ 'z'.val
  · have hlow : 97 ≤ c.toNat := h.1
    have hhigh : c.toNat ≤ 122 := h.2
    have hupper : c.toUpper.toNat = (c.toNat + 4294967264) % 4294967296 :=
      (congrArg Char.toNat (dif_pos h)).trans (UInt32.toNat_add _ _)
    exact Or.inr ⟨hlow, hhigh, by omega⟩
  · exact Or.inl (dif_neg h)

/-- Letters are not blank. -/
theorem not_blank_of_letter {c : Char} (h : 65 ≤ c.toNat ∧ c.toNat ≤ 122) : isBlank c = false := by
  simp only [isBlank, inRanges, blankRanges, List.any_cons, List.any_nil, Bool.or_false,
    Bool.or_eq_false_iff, Bool.and_eq_false_iff, decide_eq_false_iff_not]
  omega

/-- A letter has the image of the one in upper case. -/
theorem upperOf_toUpper (c : Char) : upperOf c.toUpper = upperOf c := by
  rcases toUpper_cases c with h | ⟨hlow, hhigh, hupper⟩
  · rw [h]
  · have hagain : c.toUpper.toUpper = c.toUpper := by
      rcases toUpper_cases c.toUpper with h | ⟨_, _, _⟩
      · exact h
      · omega
    rw [upperOf, upperOf, if_pos (by omega), if_pos (by omega), hagain]

/-- One more piece that is joined comes behind a separator. -/
theorem joinWith_concat {sep : Char} {pieces : List (List Char)} (hne : pieces ≠ [])
    (piece : List Char) :
    joinWith sep (pieces ++ [piece]) = joinWith sep pieces ++ sep :: piece := by
  induction pieces with
  | nil => exact absurd rfl hne
  | cons first rest ih =>
    cases rest with
    | nil => rfl
    | cons next rest =>
      simp only [List.cons_append, joinWith] at ih ⊢
      rw [ih (List.cons_ne_nil _ _), List.append_assoc, List.cons_append]

end Text

namespace RecoveryCode

/-! ### Spellings -/

/-- A text spells a code: its letters may be in the other case, and hyphens and blanks may stand
anywhere. -/
inductive Spells : (typed code : List Char) → Prop
  | nil : Spells [] []
  | separator {c : Char} {typed code : List Char} (passed : c = '-' ∨ Text.isBlank c = true)
      (rest : Spells typed code) : Spells (c :: typed) code
  | letter {c d : Char} {typed code : List Char} (same : c.toUpper = d.toUpper)
      (rest : Spells typed code) : Spells (c :: typed) (d :: code)

/-- Whether a character counts in a code. -/
def counts (c : Char) : Bool := c ≠ '-' && !Text.isBlank c

theorem counts_toUpper (c : Char) : counts c.toUpper = counts c := by
  have hletter {c : Char} (h : 65 ≤ c.toNat ∧ c.toNat ≤ 122) : counts c = true := by
    have hhyphen : c ≠ '-' := by
      rintro rfl
      exact absurd h (by decide)
    rw [counts, Text.not_blank_of_letter h, decide_eq_true hhyphen]
    rfl
  rcases Text.toUpper_cases c with h | ⟨hlow, hhigh, hupper⟩
  · rw [h]
  · rw [hletter (by omega), hletter (by omega)]

/-- However a code is spelled, the same is meant. -/
theorem normalize_of_spells {typed code : String} (h : Spells typed.toList code.toList) :
    normalize typed = normalize code := by
  have hchars {typed code : List Char} (h : Spells typed code) :
      (typed.filter counts).flatMap Text.upperOf = (code.filter counts).flatMap Text.upperOf := by
    induction h with
    | nil => rfl
    | separator passed rest ih =>
      rw [List.filter_cons_of_neg, ih]
      rcases passed with rfl | hblank
      · decide
      · simp [counts, hblank]
    | @letter c d typed code same rest ih =>
      have hcounts : counts c = counts d := by rw [← counts_toUpper, same, counts_toUpper]
      have himage :
        Text.upperOf c = Text.upperOf d := by
          rw [← Text.upperOf_toUpper, same, Text.upperOf_toUpper]
      cases hd : counts d with
      | true =>
        rw [List.filter_cons_of_pos (hcounts.trans hd), List.filter_cons_of_pos hd,
          List.flatMap_cons, List.flatMap_cons, himage, ih]
      | false =>
        rw [List.filter_cons_of_neg (by simp [hcounts, hd]),
          List.filter_cons_of_neg (by simp [hd]), ih]
  rw [normalize, normalize, Text.uppercase, Text.uppercase, String.toList_ofList,
    String.toList_ofList]
  exact congrArg String.ofList (hchars h)

/-! ### Codes that were used -/

variable {used codes : List String} {code : String}

/-- The text that lists codes that were used, if any were. -/
def usedText (used : List String) : Option String := if used = [] then none else some (join used)

theorem usedText_concat : usedText (used ++ [code]) = some (join (used ++ [code])) :=
  if_neg (List.concat_ne_nil _ _)

/-- The pieces of the text are the codes that were used. -/
theorem pieces_usedText (h : ∀ code ∈ used, separator ∉ code.toList) :
    ((usedText used).map pieces).getD [] = used := by
  unfold usedText
  split
  · rename_i hnone
    rw [hnone]
    rfl
  · rename_i hsome
    rw [Option.map_some, Option.getD_some, pieces_join hsome h]

/-- One more code that is used is listed behind the others. -/
theorem withConsumed_usedText (h : ∀ code ∈ used, code ≠ "" ∧ separator ∉ code.toList)
    (code : String) : Authenticator.withConsumed (usedText used) code = join (used ++ [code]) := by
  by_cases hnone : used = []
  · rw [hnone, usedText, if_pos rfl]
    exact String.ofList_toList.symm
  · have hmap : used.map String.toList ≠ [] := mt List.map_eq_nil_iff.1 hnone
    have hsome : (join used).isEmpty = false := by
      -- an empty text has an empty piece, which is no code
      rw [← Bool.not_eq_true, String.isEmpty_iff]
      intro hempty
      have hpieces : pieces "" = used :=
        hempty ▸ pieces_join hnone fun code hcode => (h code hcode).2
      exact (h "" (hpieces ▸ by decide)).1 rfl
    rw [usedText, if_neg hnone, Authenticator.withConsumed, hsome,
      if_neg Bool.false_ne_true, join, join, List.map_append, List.map_singleton,
      Text.joinWith_concat hmap]
    apply String.toList_inj.1
    simp

end RecoveryCode

/-- Whatever was encrypted is decrypted as it was. -/
def Services.Restores (s : Services) : Prop :=
  ∀ use use' text stored, s.encrypt use text = .ok stored → s.decrypt use' stored = .ok text

namespace Authenticator

variable {s : Services} {made : Authenticator} {n n' : Draws} {typed : String}
  {codes used tries : List String}

/-- A try to use a recovery code: what it comes to, and what is left in hand. -/
def tryRecoveryCode (s : Services) (typed : String) (h : Held) : Except Fault Unit × Held :=
  (consumeRecoveryCode s typed).run.run h

/-- Tries one after the other: the codes that were meant by those that succeeded, and what is left
in hand. -/
def tryRecoveryCodes (s : Services) : List String → Held → List String × Held
  | [], h => ([], h)
  | typed :: rest, h =>
    let (outcome, h') := tryRecoveryCode s typed h
    let (used, last) := tryRecoveryCodes s rest h'
    match outcome with
    | .ok () => (RecoveryCode.normalize typed :: used, last)
    | .error _ => (used, last)

/-- Refusal of what is no recovery code, or no longer one. -/
def noSuchCode : Fault := .validation "confirmation_code" "is not a valid recovery code"

/-- The authenticator with some of its codes used. -/
def withUsed (used : List String) (made : Authenticator) : Authenticator :=
  { made with usedUp := RecoveryCode.usedText used }

/-- Recovery codes that are decrypted to a list, whenever that is. -/
structure Holds (s : Services) (made : Authenticator) (codes : List String) : Prop where
  bounded : ∀ code ∈ codes, code ≠ "" ∧ RecoveryCode.separator ∉ code.toList
  opens : ∀ used n, ∃ n', Ends ((made.withUsed used).decryptRecoveryCodes s) n (.ok codes) n'

theorem holds_of_made (hrestores : s.Restores)
    (hcodes : ∀ code ∈ codes, code ≠ "" ∧ RecoveryCode.separator ∉ code.toList)
    (hmade : Ends (ofRecoveryCodes s codes) n (.ok made) n') :
    Holds s made codes ∧ made = made.withUsed [] := by
  obtain ⟨stored, hstored, rfl, _⟩ := ofRecoveryCodes_ok hmade
  refine ⟨⟨hcodes, fun used n => ?_⟩, rfl⟩
  refine ⟨{ n with uses := n.uses + 1 }, ?_⟩
  simp only [decryptRecoveryCodes, withUsed, Ends.bind_ok_iff, Services.requestDecryption_ok_iff,
    Ends.pure_iff]
  exact ⟨_, _, ⟨hrestores _ _ _ _ hstored, rfl⟩, by rw [RecoveryCode.split_join hcodes], rfl⟩

/-- A try succeeds if a code is meant that was not used before, and is refused otherwise. -/
theorem Holds.tryRecoveryCode (h : Holds s made codes) (hused : used ⊆ codes) (typed : String)
    (n : Draws) :
    ∃ n', Authenticator.tryRecoveryCode s typed ⟨made.withUsed used, n⟩ =
      if RecoveryCode.normalize typed ∈ codes ∧ RecoveryCode.normalize typed ∉ used then
        (.ok (), ⟨made.withUsed (used ++ [RecoveryCode.normalize typed]), n'⟩)
      else (.error noSuchCode, ⟨made.withUsed used, n'⟩) := by
  obtain ⟨n', hopened⟩ := h.opens used n
  have hbounded : ∀ code ∈ used, code ≠ "" ∧ RecoveryCode.separator ∉ code.toList :=
    fun code hcode => h.bounded code (hused hcode)
  have hconsumed : (made.withUsed used).consumedCodes = used :=
    RecoveryCode.pieces_usedText fun code hcode => (hbounded code hcode).2
  have hlooked : Ends (use ((made.withUsed used).decryptRecoveryCodes s)) ⟨made.withUsed used, n⟩
      (.ok codes) ⟨made.withUsed used, n'⟩ :=
    use_iff.2 ⟨n', hopened, rfl⟩
  refine ⟨n', ?_⟩
  split
  · rename_i hnew
    have hends : Ends (consumeRecoveryCode s typed) ⟨made.withUsed used, n⟩ (.ok ())
        ⟨made.withUsed (used ++ [RecoveryCode.normalize typed]), n'⟩ := by
      rw [consumeRecoveryCode, current_bind_iff, Ends.bind_of_ok hlooked, Ends.bind_ok_iff]
      refine ⟨(), _, Ends.ensure_ok_iff.2 ⟨by simpa [hconsumed] using hnew, rfl⟩,
        update_iff.2 ⟨rfl, ?_⟩⟩
      rw [withUsed, withUsed, RecoveryCode.withConsumed_usedText hbounded,
        RecoveryCode.usedText_concat]
    exact hends
  · rename_i hold
    have hends : Ends (consumeRecoveryCode s typed) ⟨made.withUsed used, n⟩ (.error noSuchCode)
        ⟨made.withUsed used, n'⟩ := by
      rw [consumeRecoveryCode, current_bind_iff, Ends.bind_of_ok hlooked, Ends.bind_error_iff]
      exact Or.inl (Ends.ensure_error_iff.2 ⟨by simpa [hconsumed] using hold, rfl, rfl⟩)
    exact hends

/-- Tries use each code that is meant for the first time. -/
theorem Holds.tryRecoveryCodes (h : Holds s made codes) (hused : used ⊆ codes)
    (hdistinct : used.Nodup) (tries : List String) :
    ∃ more n', Authenticator.tryRecoveryCodes s tries ⟨made.withUsed used, n⟩ =
        (more, ⟨made.withUsed (used ++ more), n'⟩) ∧
      (used ++ more).Nodup ∧ used ++ more ⊆ codes ∧
      ∀ code, code ∈ used ++ more ↔
        code ∈ codes ∧ (code ∈ used ∨ ∃ typed ∈ tries, RecoveryCode.normalize typed = code) := by
  induction tries generalizing used n with
  | nil =>
    refine ⟨[], n, by rw [List.append_nil]; rfl, by rwa [List.append_nil],
      by rwa [List.append_nil], fun code => ?_⟩
    rw [List.append_nil]
    exact ⟨fun hcode => ⟨hused hcode, Or.inl hcode⟩, fun hcode => hcode.2.resolve_right nofun⟩
  | cons typed rest ih =>
    obtain ⟨n₁, htry⟩ := h.tryRecoveryCode hused typed n
    by_cases hnew : RecoveryCode.normalize typed ∈ codes ∧ RecoveryCode.normalize typed ∉ used
    · rw [if_pos hnew] at htry
      obtain ⟨more, n₂, hrest, hdistinct, hlisted, hmem⟩ := ih (n := n₁)
        (List.append_subset.2 ⟨hused, List.cons_subset.2 ⟨hnew.1, List.nil_subset _⟩⟩)
        (List.concat_eq_append ▸ hdistinct.concat hnew.2)
      simp only [Authenticator.tryRecoveryCodes, htry, hrest, List.exists_mem_cons_iff]
      rw [List.append_assoc, List.singleton_append] at hdistinct hlisted hmem
      refine ⟨RecoveryCode.normalize typed :: more, n₂, ?_, hdistinct, hlisted, fun code => ?_⟩
      · rw [List.append_assoc, List.singleton_append]
      · rw [hmem, List.mem_append, List.mem_singleton, or_assoc, eq_comm]
    · rw [if_neg hnew] at htry
      obtain ⟨more, n₂, hrest, hdistinct, hlisted, hmem⟩ := ih (n := n₁) hused hdistinct
      simp only [Authenticator.tryRecoveryCodes, htry, hrest, List.exists_mem_cons_iff]
      refine ⟨more, n₂, rfl, hdistinct, hlisted, fun code => ?_⟩
      -- a code that is meant once more was used before
      have hbefore : code ∈ codes → RecoveryCode.normalize typed = code → code ∈ used := by
        rintro hcode rfl
        exact by_contra fun hunused => hnew ⟨hcode, hunused⟩
      rw [hmem]
      grind

/-- What tries have come to: the codes that were meant, each used once, and what the next try will
come to. -/
structure Spent (s : Services) (codes : List String) (made : Authenticator)
    (tries used : List String) (left : Held) : Prop where
  /-- The authenticator is as it was made, but for the codes that were used, which it lists in their
  order. -/
  left_eq : left.authenticator = made.withUsed used
  consumed : left.authenticator.consumedCodes = used
  /-- No code is used twice, and only codes of the list are used. -/
  once : used.Nodup
  listed : used ⊆ codes
  length_le : used.length ≤ codes.dedup.length
  /-- What is typed next is accepted if it means a code that was not used before. -/
  accepts : ∀ typed, (Authenticator.tryRecoveryCode s typed left).1 = .ok () ↔
    RecoveryCode.normalize typed ∈ codes ∧ RecoveryCode.normalize typed ∉ used
  /-- What is refused does not change the authenticator. -/
  refuses : ∀ typed, (Authenticator.tryRecoveryCode s typed left).1 ≠ .ok () →
    (Authenticator.tryRecoveryCode s typed left).1 = .error noSuchCode ∧
      (Authenticator.tryRecoveryCode s typed left).2.authenticator = left.authenticator
  /-- A spelling of a code is accepted if no spelling of it was typed before. -/
  spelled : ∀ typed, ∀ code ∈ codes, RecoveryCode.Spells typed.toList code.toList →
    ((Authenticator.tryRecoveryCode s typed left).1 = .ok () ↔
      ∀ earlier ∈ tries, RecoveryCode.normalize earlier ≠ code)

/-- Each recovery code can be used once, however it is spelled, and nothing else can be used at
all. -/
theorem each_code_once (hrestores : s.Restores)
    (hcodes : ∀ code ∈ codes, code ≠ "" ∧ RecoveryCode.separator ∉ code.toList)
    (hnormal : ∀ code ∈ codes, RecoveryCode.normalize code = code)
    (hmade : Ends (ofRecoveryCodes s codes) n (.ok made) n') (tries : List String) :
    ∃ used left, Authenticator.tryRecoveryCodes s tries ⟨made, n'⟩ = (used, left) ∧
      Spent s codes made tries used left := by
  obtain ⟨hholds, hfirst⟩ := holds_of_made hrestores hcodes hmade
  obtain ⟨used, n₁, htries, hdistinct, hlisted, hmem⟩ :=
    hholds.tryRecoveryCodes (n := n') (List.nil_subset codes) List.nodup_nil tries
  rw [List.nil_append] at htries hdistinct hlisted hmem
  have haccepts (typed : String) :
      (tryRecoveryCode s typed ⟨made.withUsed used, n₁⟩).1 = .ok () ↔
        RecoveryCode.normalize typed ∈ codes ∧ RecoveryCode.normalize typed ∉ used := by
    obtain ⟨n₂, htry⟩ := hholds.tryRecoveryCode hlisted typed n₁
    rw [htry]
    split
    · exact iff_of_true rfl ‹_›
    · exact iff_of_false nofun ‹_›
  refine ⟨used, ⟨made.withUsed used, n₁⟩, by rw [← htries, ← hfirst],
    { left_eq := rfl
      consumed := RecoveryCode.pieces_usedText fun code hcode => (hcodes code (hlisted hcode)).2
      once := hdistinct
      listed := hlisted
      length_le := ?length_le
      accepts := haccepts
      refuses := ?refuses
      spelled := ?spelled }⟩
  case length_le =>
    exact (List.subperm_of_subset hdistinct fun code hcode =>
      List.mem_dedup.2 (hlisted hcode)).length_le
  case refuses =>
    intro typed hrefused
    obtain ⟨n₂, htry⟩ := hholds.tryRecoveryCode hlisted typed n₁
    rw [if_neg (mt (haccepts typed).2 hrefused)] at htry
    rw [htry]
    exact ⟨rfl, rfl⟩
  case spelled =>
    intro typed code hcode hspells
    rw [haccepts, RecoveryCode.normalize_of_spells hspells, hnormal code hcode, hmem]
    simp [hcode]

/-- An authenticator for examples, with two codes. -/
def sampleHeld : Authenticator :=
  ⟨Script.sample.services.authenticatorId 0, true, none, .recoveryCodes (Script.marked "AAAA;BBBB")⟩

/-- Codes in several spellings, and what is none. -/
def sampleSpellings : List String := ["aa-aa", "AAAA", "cccc", " b bBb", ""]

theorem each_code_once_sample :
    ∃ left, tryRecoveryCodes Script.sample.services sampleSpellings
        ⟨sampleHeld, { Draws.none with authenticatorIds := 1, uses := 1 }⟩ =
          (["AAAA", "BBBB"], left) ∧
      Spent Script.sample.services ["AAAA", "BBBB"] sampleHeld sampleSpellings ["AAAA", "BBBB"]
        left := by
  have hrestores : Script.sample.services.Restores := by
    intro use use' text stored hencrypted
    obtain rfl : Script.marked text = stored := Except.ok.inj hencrypted
    simp only [Script.services, Script.decrypt, Script.unmarked?_marked]
    rfl
  have hmade : Ends (ofRecoveryCodes Script.sample.services ["AAAA", "BBBB"]) .none (.ok sampleHeld)
      { Draws.none with authenticatorIds := 1, uses := 1 } :=
    rfl
  obtain ⟨used, left, htries, hspent⟩ :=
    each_code_once hrestores (by decide) (by decide +kernel) hmade sampleSpellings
  obtain rfl : used = ["AAAA", "BBBB"] := (congrArg Prod.fst htries).symm.trans (by decide +kernel)
  exact ⟨left, htries, hspent⟩

end Authenticator

end TenantAuth
