import TenantAuth.Text.Utf8

/-!
Texts that go through UTF-8 come back.

The bytes of a text are those of its characters, one after the other. A character in ASCII is one
byte.
-/

namespace TenantAuth.Text

theorem toList_loop (b : ByteArray) (i : Nat) (before : List UInt8) :
    ByteArray.toList.loop b i before = before.reverse ++ b.data.toList.drop i := by
  fun_induction ByteArray.toList.loop b i before with
  | case1 i before hlt ih =>
    have hget : b.get! i = b.data.toList[i] := by
      change b.data[i]! = _
      rw [getElem!_pos b.data i hlt]
      rfl
    rw [ih, hget, List.reverse_cons, List.append_assoc, List.singleton_append,
      List.getElem_cons_drop]
  | case2 i before hend => rw [List.drop_eq_nil_of_le (by simpa using hend), List.append_nil]

theorem utf8_eq_data (s : String) : utf8 s = s.toByteArray.data.toList := by
  rw [utf8, String.toUTF8_eq_toByteArray, ByteArray.toList, toList_loop]
  rfl

/-- The bytes of a text are those of its characters. -/
theorem utf8_eq (s : String) : utf8 s = s.toList.flatMap String.utf8EncodeChar := by
  rw [utf8_eq_data, ← String.utf8Encode_toList, List.utf8Encode, List.toList_data_toByteArray]

/-- The bytes of a text spell the text. -/
theorem ofUtf8_utf8 (s : String) : ofUtf8 (utf8 s) = .ok s := by
  have hbytes : (⟨(utf8 s).toArray⟩ : ByteArray) = s.toByteArray := by rw [utf8_eq_data]
  rw [ofUtf8, hbytes, String.fromUTF8?, dif_pos s.isValidUTF8]
  rfl

/-- A character in ASCII is one byte, its code point. -/
theorem utf8EncodeChar_ascii {c : Char} (h : c.toNat < 0x80) :
    String.utf8EncodeChar c = [UInt8.ofNat c.toNat] := by
  have hsize : c.utf8Size = 1 := by
    rw [Char.utf8Size_eq_one_iff, UInt32.le_iff_toNat_le]
    exact Nat.le_of_lt_succ h
  rw [String.utf8EncodeChar_eq_singleton hsize]
  rfl

/-- A character beyond ASCII has no byte in ASCII. -/
theorem le_of_mem_utf8EncodeChar {c : Char} (h : 0x80 ≤ c.toNat) :
    ∀ b ∈ String.utf8EncodeChar c, 0x80 ≤ b := by
  have hbyte (n : Nat) (hlow : 0x80 ≤ n) (hhigh : n < 0x100) : 0x80 ≤ UInt8.ofNat n := by
    rw [UInt8.le_iff_toNat_le, UInt8.toNat_ofNat', Nat.mod_eq_of_lt hhigh]
    exact hlow
  have hbeyond : ¬c.val.toNat ≤ 127 := Nat.not_le.2 h
  unfold String.utf8EncodeChar
  dsimp only
  rw [if_neg hbeyond]
  -- two, three or four bytes
  split
  · simp only [List.forall_mem_cons]
    exact ⟨hbyte _ (by omega) (by omega), hbyte _ (by omega) (by omega), nofun⟩
  · split <;> simp only [List.forall_mem_cons]
    · exact ⟨hbyte _ (by omega) (by omega), hbyte _ (by omega) (by omega), hbyte _ (by omega)
        (by omega), nofun⟩
    · exact ⟨hbyte _ (by omega) (by omega), hbyte _ (by omega) (by omega),
        hbyte _ (by omega) (by omega),
        hbyte _ (by omega) (by omega), nofun⟩

theorem utf8_ofList_ascii {cs : List Char} (h : ∀ c ∈ cs, c.toNat < 0x80) :
    utf8 (String.ofList cs) = cs.map fun c => UInt8.ofNat c.toNat := by
  rw [utf8_eq, String.toList_ofList, List.map_eq_flatMap, List.flatMap_def, List.flatMap_def]
  exact congrArg List.flatten (List.map_congr_left fun c hc => utf8EncodeChar_ascii (h c hc))

end TenantAuth.Text
