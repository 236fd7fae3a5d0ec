import TenantAuth.Identifier
import TenantAuth.Proofs.Codec.Base32

/-!
An identifier that was written is read as it was.

Its digits are the places of its number in base sixteen. They are written in five groups, which are
found again where the hyphens are; no other spelling begins like them.
-/

namespace TenantAuth.Uuid

theorem map_shift_eq_places (width count n : Nat) :
    (List.range count).map (fun i => (n >>> (width * (count - 1 - i))) % Nat.pow 2 width) =
      Codec.Base32.places width count n := by
  induction count with
  | zero => rfl
  | succ count ih =>
    rw [List.range_succ_eq_map, List.map_cons, List.map_map, Codec.Base32.places, ← ih,
      Nat.shiftRight_eq_div_pow]
    refine congrArg (List.cons _) (List.map_congr_left fun i _ => ?_)
    have hplace : count + 1 - 1 - (i + 1) = count - 1 - i := by omega
    rw [Function.comp_apply, hplace]

variable {u : Uuid}

/-- The digits of an identifier are the places of its number. -/
theorem digits_eq (u : Uuid) :
    u.digits = (Codec.Base32.places 4 32 u.bits.toNat).map Codec.Hex.digit := by
  rw [← map_shift_eq_places, List.map_map]
  rfl

theorem length_digits (u : Uuid) : u.digits.length = 32 := by
  rw [digits, List.length_map, List.length_range]

theorem digit_spec : ∀ n < 16, digitValue? (Codec.Hex.digit n) = some n ∧
    Codec.Hex.digit n ≠ '\x7b' ∧ (Codec.Hex.digit n).toLower ≠ 'u' := by
  decide

theorem exists_of_mem_digits {c : Char} (h : c ∈ u.digits) : ∃ n < 16, c = Codec.Hex.digit n := by
  rw [digits_eq] at h
  obtain ⟨n, hn, rfl⟩ := List.mem_map.1 h
  exact ⟨n, Codec.Base32.lt_of_mem_places hn, rfl⟩

/-- The digits of an identifier are read as the identifier. -/
theorem ofDigits?_digits (u : Uuid) : ofDigits? u.digits = some u := by
  have hvalues {ns : List Nat} (h : ∀ n ∈ ns, n < 16) :
      (ns.map Codec.Hex.digit).mapM digitValue? = some ns := by
    induction ns with
    | nil => rfl
    | cons n rest ih =>
      rw [List.map_cons, List.mapM_cons, (digit_spec n (h n List.mem_cons_self)).1,
        ih fun n hn => h n (List.mem_cons_of_mem _ hn)]
      rfl
  have hnumber : Codec.Base32.ofPlaces 4 (Codec.Base32.places 4 32 u.bits.toNat) = u.bits.toNat :=
    Codec.Base32.ofPlaces_places u.bits.isLt
  rw [ofDigits?, if_pos (length_digits u), digits_eq,
    hvalues fun n => Codec.Base32.lt_of_mem_places, Option.map_some]
  change some (Uuid.mk (BitVec.ofNat 128
    (Codec.Base32.ofPlaces 4 (Codec.Base32.places 4 32 u.bits.toNat)))) = some u
  rw [hnumber, BitVec.ofNat_toNat, BitVec.setWidth_eq]

/-- The groups are found between the hyphens. -/
theorem cut_groups {a b c d : List Char} (ha : a.length = 8) (hb : b.length = 4) (hc : c.length = 4)
    (hd : d.length = 4) {e cs : List Char}
    (hcs : cs = a ++ '-' :: b ++ '-' :: c ++ '-' :: d ++ '-' :: e) :
    cs.take 8 ++ (cs.drop 9).take 4 ++ (cs.drop 14).take 4 ++ (cs.drop 19).take 4 ++ cs.drop 24 =
      a ++ b ++ c ++ d ++ e := by
  subst hcs
  simp [List.drop_append, List.drop_eq_nil_of_le, ha, hb, hc, hd]

theorem ofGroups?_chars (u : Uuid) : ofGroups? u.chars = some u := by
  have hlength := length_digits u
  have hgroups : u.digits.take 8 ++ (u.digits.drop 8).take 4 ++ (u.digits.drop 12).take 4 ++
      (u.digits.drop 16).take 4 ++ u.digits.drop 20 = u.digits := by
    rw [← List.take_add, ← List.take_add, ← List.take_add, List.take_append_drop]
  have hcut :=
    cut_groups (by simp [hlength]) (by simp [hlength]) (by simp [hlength]) (by simp [hlength])
    (show u.chars = _ from rfl)
  have hhyphens :
      (u.chars.length = 36 && [8, 13, 18, 23].all (fun i => u.chars[i]? = some '-')) = true := by
    simp [chars, List.getElem?_append, hlength]
  rw [ofGroups?, if_pos hhyphens, hcut, hgroups, ofDigits?_digits]

/-- Groups are not taken for another spelling. -/
theorem unwrap?_chars (u : Uuid) : unwrap? u.chars = none := by
  obtain ⟨first, rest, hdigits⟩ : ∃ first rest, u.digits = first :: rest :=
    List.exists_cons_of_length_eq_add_one (length_digits u)
  obtain ⟨n, hn, rfl⟩ := exists_of_mem_digits (hdigits ▸ List.mem_cons_self)
  obtain ⟨-, hbrace, hname⟩ := digit_spec n hn
  obtain ⟨behind, hchars⟩ : ∃ behind, u.chars = Codec.Hex.digit n :: behind := by
    rw [chars, hdigits]
    exact ⟨_, rfl⟩
  have hurn : ((Codec.Hex.digit n :: behind).take 9).map Char.toLower ≠ urnLead := by
    intro heq
    exact hname (List.cons.inj heq).1
  rw [hchars, unwrap?, if_neg hurn]
  simp [hbrace]

/-- An identifier is read as it was written. -/
theorem ofChars?_chars (u : Uuid) : ofChars? u.chars = some u := by
  have hlong : ¬u.chars.length = 32 := by simp [chars, length_digits]
  rw [ofChars?, unwrap?_chars]
  dsimp only
  rw [if_neg hlong, ofGroups?_chars]

theorem ofJson?_toJson (u : Uuid) : ofJson? u.toJson = some u := by
  rw [toJson, ofJson?, text, String.toList_ofList, ofChars?_chars]

end TenantAuth.Uuid
