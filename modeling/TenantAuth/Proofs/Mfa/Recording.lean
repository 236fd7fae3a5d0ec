import Mathlib.Data.List.Dedup
import Mathlib.Data.List.DropRight
import Mathlib.Data.List.Nodup
import TenantAuth.Proofs.Text.Listing

/-!
What the memory of steps holds, whatever is recorded in it.

Recording a step moves it behind the others, or adds it there, and forgets the oldest ones for which
there is no room. What is written is read again as it was, since a step of sixty-four bits is read
as it is written, and what is read always has sixty-four bits. So after any course of uses the
memory lists the distinct steps that were used latest, in the order of their latest use: a step that
was forgotten and used again stands where its second use puts it.
-/

namespace TenantAuth

/-! ### Texts that are read -/

namespace Text

/-- Digits that are read do not pass the bound. -/
theorem le_of_readDigits {bound value n : Nat} {excess : NumeralFault} {cs : List Char}
    (hvalue : value ≤ bound) (h : readDigits bound excess value cs = .ok n) : n ≤ bound := by
  induction cs generalizing value with
  | nil =>
    cases h
    exact hvalue
  | cons c rest ih =>
    simp only [readDigits] at h
    split at h
    · cases h
    · split at h
      · rename_i hnext
        exact ih hnext h
      · cases h

/-- An unsigned number that is read has sixty-four bits. -/
theorem le_of_readUnsigned {cs : List Char} {n : Nat} (h : readUnsigned cs = .ok n) :
    n ≤ maxUnsigned := by
  unfold readUnsigned at h
  split at h
  · cases h
  · cases h
  · exact le_of_readDigits (Nat.zero_le _) h
  · exact le_of_readDigits (Nat.zero_le _) h

end Text

namespace Totp.Memory

variable {recent used : List Nat} {step other limit : Nat} {memory : Option String}

/-- Whatever a memory is, the steps that are read from it have sixty-four bits. -/
theorem fits_of_mem_read (h : step ∈ read memory) : step ≤ Text.maxUnsigned := by
  cases memory with
  | none => cases h
  | some text =>
    obtain ⟨piece, _, hpiece⟩ := List.mem_filterMap.1 (h : step ∈ ofText text)
    unfold step? at hpiece
    cases hnumeral : Text.readUnsigned (Text.trim piece) with
    | error fault => simp [hnumeral, Except.toOption] at hpiece
    | ok n =>
      rw [hnumeral] at hpiece
      obtain rfl : n = step := Option.some.inj hpiece
      exact Text.le_of_readUnsigned hnumeral

/-! ### Recording -/

/-- The step that is recorded comes last. Before it come the latest of the others, as far as there
is room. -/
theorem record_eq_rtake_concat (recent : List Nat) (step limit : Nat) :
    record recent step limit = (recent.filter (· ≠ step)).rtake (limit - 1) ++ [step] := by
  have hroom : max limit 1 = limit - 1 + 1 := by omega
  rw [← List.rtake_concat_succ, ← hroom]
  rfl

/-- A step that is not listed comes behind those that are. -/
theorem record_of_notMem (h : step ∉ recent) :
    record recent step limit = (recent ++ [step]).rtake (max limit 1) := by
  have hothers : recent.filter (· ≠ step) = recent :=
    List.filter_eq_self.2 fun other hother => decide_eq_true (ne_of_mem_of_not_mem hother h)
  rw [record, hothers]
  rfl

theorem mem_of_mem_record (h : other ∈ record recent step limit) :
    other ∈ recent ∨ other = step := by
  rw [record_eq_rtake_concat, List.mem_append, List.mem_singleton] at h
  exact h.imp_left fun h => List.mem_of_mem_filter (List.mem_of_mem_drop h)

/-- What is recorded of steps that have sixty-four bits is read as it was. -/
theorem read_record (hrecent : ∀ other ∈ recent, other ≤ Text.maxUnsigned)
    (hstep : step ≤ Text.maxUnsigned) :
    read (some (toText (record recent step limit))) = record recent step limit := by
  refine read_toText fun other hother => ?_
  rcases mem_of_mem_record hother with hother | rfl
  · exact hrecent other hother
  · exact hstep

theorem notMem_others : step ∉ (recent.filter (· ≠ step)).rtake limit := by
  intro hmem
  simpa using List.of_mem_filter (List.mem_of_mem_drop hmem)

theorem length_rtake_le (steps : List Nat) : (steps.rtake limit).length ≤ limit := by
  rw [List.rtake, List.length_drop]
  omega

theorem rtake_of_length_le {steps : List Nat} (h : steps.length ≤ limit) :
    steps.rtake limit = steps := by
  rw [List.rtake, Nat.sub_eq_zero_of_le h, List.drop_zero]

/-- Without the step that was recorded, the others are left. -/
theorem filter_record :
    (record recent step limit).filter (· ≠ step) =
      (recent.filter (· ≠ step)).rtake (limit - 1) := by
  have hothers : ∀ other ∈ (recent.filter (· ≠ step)).rtake (limit - 1),
      decide (other ≠ step) = true :=
    fun other hother => decide_eq_true (ne_of_mem_of_not_mem hother notMem_others)
  rw [record_eq_rtake_concat, List.filter_append, List.filter_eq_self.2 hothers]
  simp

/-- Recording a step once more changes nothing. -/
theorem record_record :
    record (record recent step limit) step limit = record recent step limit := by
  rw [record_eq_rtake_concat (record _ _ _), filter_record, rtake_of_length_le (length_rtake_le _),
    ← record_eq_rtake_concat]

/-- A memory in which a step was recorded after others: what it lists, and what follows for the step
and for the others. -/
structure Recorded (recent : List Nat) (step limit : Nat) (memory : String) : Prop where
  /-- Of the others in their order and the step behind them, the latest are listed, at least one. -/
  latest : read (some memory) = (recent.filter (· ≠ step) ++ [step]).rtake (max 1 limit)
  last : (read (some memory)).getLast? = some step
  once : (read (some memory)).count step = 1
  nodup : recent.Nodup → (read (some memory)).Nodup
  bounded : (read (some memory)).length ≤ max 1 limit
  /-- Before the step, steps are listed in the order in which they were. -/
  ordered : (read (some memory)).dropLast.Sublist recent
  /-- Recording the step once more writes the same. -/
  settled : toText (record (read (some memory)) step limit) = memory

/-- Steps of sixty-four bits are written so that the step that is recorded and the latest of the
others are read. -/
theorem recorded_read_back (hrecent : ∀ other ∈ recent, other ≤ Text.maxUnsigned)
    (hstep : step ≤ Text.maxUnsigned) (limit : Nat) :
    Recorded recent step limit (toText (record recent step limit)) := by
  have hread : read (some (toText (record recent step limit))) = record recent step limit :=
    read_record hrecent hstep
  constructor <;> rw [hread]
  case latest =>
    rw [Nat.max_comm]
    rfl
  case last => rw [record_eq_rtake_concat, List.getLast?_concat]
  case once =>
    rw [record_eq_rtake_concat, List.count_append, List.count_eq_zero_of_not_mem notMem_others,
      List.count_singleton_self]
  case nodup => exact fun hnodup => nodup_record hnodup step limit
  case bounded =>
    rw [Nat.max_comm]
    exact length_record_le recent step limit
  case ordered =>
    rw [record_eq_rtake_concat, List.dropLast_concat]
    exact (List.drop_sublist _ _).trans List.filter_sublist
  case settled => rw [record_record]

/-- The largest step of all is written and read, and stands where it stood. -/
theorem recorded_read_back_largest :
    toText (record [7, 5, 18446744073709551615] 5 2) = "18446744073709551615,5" ∧
      (∀ other ∈ [7, 5, 18446744073709551615], other ≤ Text.maxUnsigned) ∧ 5 ≤ Text.maxUnsigned ∧
      [7, 5, 18446744073709551615].Nodup ∧
        Recorded [7, 5, 18446744073709551615] 5 2 "18446744073709551615,5" ∧
      (read (some "18446744073709551615,5")).Nodup := by
  have htext : toText (record [7, 5, 18446744073709551615] 5 2) = "18446744073709551615,5" := by
    decide +kernel
  have hrecent : ∀ other ∈ [7, 5, 18446744073709551615], other ≤ Text.maxUnsigned := by decide
  have hstep : 5 ≤ Text.maxUnsigned := by decide
  have hnodup : [7, 5, 18446744073709551615].Nodup := by decide
  have hrecorded := recorded_read_back hrecent hstep 2
  rw [htext] at hrecorded
  exact ⟨htext, hrecent, hstep, hnodup, hrecorded, hrecorded.nodup hnodup⟩

/-! ### One step after another -/

/-- One more use of a step brings it behind the distinct steps that were used before. -/
theorem dedup_concat (used : List Nat) (step : Nat) :
    (used ++ [step]).dedup = used.dedup.filter (· ≠ step) ++ [step] := by
  induction used with
  | nil => rfl
  | cons first rest ih =>
    rw [List.cons_append]
    by_cases hagain : first ∈ rest
    · rw [List.dedup_cons_of_mem hagain, List.dedup_cons_of_mem (List.mem_append_left _ hagain), ih]
    · rw [List.dedup_cons_of_notMem hagain]
      by_cases hstep : first = step
      · subst hstep
        rw [List.dedup_cons_of_mem (by simp), ih, List.filter_cons_of_neg (by simp)]
      · rw [List.dedup_cons_of_notMem (by simp [hagain, hstep]), ih, List.filter_cons_of_pos
          (by simpa using hstep),
          List.cons_append]

theorem rtake_append_of_le_length {front back : List Nat} (h : limit ≤ back.length) :
    (front ++ back).rtake limit = back.rtake limit := by
  rw [List.rtake, List.length_append, Nat.add_sub_assoc h, List.drop_length_add_append]
  rfl

/-- Among distinct steps there is one at most to leave out. -/
theorem length_le_filter_add_one {steps : List Nat} (hdistinct : steps.Nodup) (step : Nat) :
    steps.length ≤ (steps.filter (· ≠ step)).length + 1 := by
  have hlength := List.length_eq_length_filter_add (l := steps) (· ≠ step)
  have hcount : steps.count step ≤ 1 := List.nodup_iff_count_le_one.1 hdistinct step
  have hsame : (steps.filter fun other => !decide (other ≠ step)).length = steps.count step := by
    rw [List.count_eq_length_filter]
    exact congrArg List.length (List.filter_congr fun other _ => by simp [beq_eq_decide])
  omega

/-- Of distinct steps without one of them, the latest are found among the latest of all, if one more
is looked at. -/
theorem rtake_filter_rtake {steps : List Nat} (hdistinct : steps.Nodup) (step limit : Nat) :
    ((steps.rtake (limit + 1)).filter (· ≠ step)).rtake limit =
      (steps.filter (· ≠ step)).rtake limit := by
  rcases Nat.le_total steps.length (limit + 1) with hshort | hlong
  · rw [rtake_of_length_le hshort]
  · have hsplit : steps.take (steps.length - (limit + 1)) ++ steps.rtake (limit + 1) = steps :=
      List.take_append_drop _ _
    have hlength : (steps.rtake (limit + 1)).length = limit + 1 := by
      rw [List.rtake, List.length_drop]
      omega
    have hlatest : (steps.rtake (limit + 1)).Nodup := hdistinct.sublist (List.drop_sublist _ _)
    have hkept : limit ≤ ((steps.rtake (limit + 1)).filter (· ≠ step)).length := by
      have hone := length_le_filter_add_one hlatest step
      omega
    calc ((steps.rtake (limit + 1)).filter (· ≠ step)).rtake limit
        = ((steps.take (steps.length - (limit + 1)) ++ steps.rtake (limit + 1)).filter
          (· ≠ step)).rtake limit := by
          rw [List.filter_append, rtake_append_of_le_length hkept]
      _ = (steps.filter (· ≠ step)).rtake limit := by rw [hsplit]

/-- When the latest distinct steps are remembered and a step is recorded, new or not, they are
remembered again. -/
theorem record_latest_distinct (used : List Nat) (step limit : Nat) :
    record (used.dedup.rtake (max limit 1)) step limit =
      (used ++ [step]).dedup.rtake (max limit 1) := by
  have hroom : max limit 1 = limit - 1 + 1 := by omega
  rw [record_eq_rtake_concat, hroom, rtake_filter_rtake (List.nodup_dedup used), dedup_concat,
    List.rtake_concat_succ]

end Totp.Memory

end TenantAuth
