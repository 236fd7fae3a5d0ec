import TenantAuth.Cipher.Gcm

/-!
What is encrypted under a nonce of twelve bytes is decrypted under the same key and nonce.

The keystream has as many bytes as the text needs, since a block is sixteen bytes through all the
rounds. So the ciphertext is as long as the text, the tag comes after it, and the keystream added a
second time takes away the first.
-/

namespace TenantAuth.Cipher

namespace Aes

variable {columns keys : List (List UInt8)} {block : List UInt8}

theorem length_addBytes (xs ys : List UInt8) : (addBytes xs ys).length = min xs.length ys.length :=
  List.length_zipWith

/-- A group of four is made of what is grouped. -/
theorem mem_fours {α : Type} {xs group : List α} (h : group ∈ fours xs) :
    group.length = 4 ∧ ∀ x ∈ group, x ∈ xs := by
  fun_induction fours xs with
  | case1 a b c d rest ih =>
    rcases List.mem_cons.1 h with rfl | h
    · exact ⟨rfl, fun x hx => List.mem_append_left rest hx⟩
    · exact ⟨(ih h).1, fun x hx => List.mem_append_right [a, b, c, d] ((ih h).2 x hx)⟩
  | case2 => cases h

/-- Columns of four bytes are followed by columns of four bytes. -/
theorem length_of_mem_nextColumns (constant : UInt8)
    (hcolumns : ∀ column ∈ columns, column.length = 4) :
    ∀ column ∈ nextColumns constant columns, column.length = 4 := by
  unfold nextColumns
  split
  · simp only [List.forall_mem_cons] at hcolumns
    obtain ⟨h0, h1, h2, h3, h4, h5, h6, -⟩ := hcolumns
    simp [length_addBytes, h0, h1, h2, h3, h4, h5, h6]
  · exact hcolumns

theorem length_of_mem_columnsFrom (constants : List UInt8)
    (hcolumns : ∀ column ∈ columns, column.length = 4) :
    ∀ column ∈ columnsFrom columns constants, column.length = 4 := by
  induction constants generalizing columns with
  | nil => exact hcolumns
  | cons constant rest ih =>
    intro column h
    rcases List.mem_append.1 h with h | h
    · exact hcolumns column h
    · exact ih (length_of_mem_nextColumns constant hcolumns) column h

/-- A round key has the size of a block. -/
theorem length_of_mem_roundKeys {key round : List UInt8} (h : round ∈ roundKeys key) :
    round.length = 16 := by
  obtain ⟨group, hgroup, rfl⟩ := List.mem_map.1 (List.mem_of_mem_take h)
  obtain ⟨hfour, hmem⟩ := mem_fours hgroup
  have hcolumn : ∀ column ∈ group, column.length = 4 := fun column hc =>
    length_of_mem_columnsFrom _ (fun _ hfirst => (mem_fours hfirst).1) column (hmem column hc)
  match group, hfour with
  | [a, b, c, d], _ =>
    simp only [List.forall_mem_cons] at hcolumn
    obtain ⟨ha, hb, hc, hd, -⟩ := hcolumn
    simp [ha, hb, hc, hd]

theorem length_rotateRows (block : List UInt8) : (rotateRows block).length = block.length := by
  unfold rotateRows
  split <;> rfl

theorem length_mixColumn (column : List UInt8) : (mixColumn column).length = column.length := by
  unfold mixColumn
  split <;> rfl

/-- Mixing its columns keeps the size of a block. -/
theorem length_mixed (h : block.length % 4 = 0) :
    ((fours block).flatMap mixColumn).length = block.length := by
  fun_induction fours block with
  | case1 a b c d rest ih =>
    have hrest : rest.length % 4 = 0 := by
      simp only [List.length_cons] at h
      omega
    rw [List.flatMap_cons, List.length_append, length_mixColumn, ih hrest]
    simp only [List.length_cons, List.length_nil]
    omega
  | case2 xs hshort =>
    match xs with
    | [] => rfl
    | [_] | [_, _] | [_, _, _] => simp at h
    | a :: b :: c :: d :: rest => exact (hshort a b c d rest rfl).elim

/-- A round keeps the size of a block, and so do all of them. -/
theorem length_rounds (hblock : block.length = 16) (hkeys : ∀ key ∈ keys, key.length = 16) :
    (rounds block keys).length = 16 := by
  have hrows (block : List UInt8) : (rotateRows (block.map substitute)).length = block.length := by
    rw [length_rotateRows, List.length_map]
  fun_induction rounds block keys with
  | case1 => exact hblock
  | case2 block key =>
    rw [length_addBytes, hrows, hblock, hkeys key List.mem_cons_self, Nat.min_self]
  | case3 block key keys _ ih =>
    refine ih ?_ fun key hkey => hkeys key (List.mem_cons_of_mem _ hkey)
    rw [length_addBytes, length_mixed (by rw [hrows, hblock]), hrows, hblock,
      hkeys key List.mem_cons_self, Nat.min_self]

theorem length_encryptBlock (hblock : block.length = 16) (hkeys : ∀ key ∈ keys, key.length = 16) :
    (encryptBlock keys block).length = 16 := by
  cases keys with
  | nil => exact hblock
  | cons first rest =>
    refine length_rounds ?_ fun key hkey => hkeys key (List.mem_cons_of_mem _ hkey)
    rw [length_addBytes, hblock, hkeys first List.mem_cons_self, Nat.min_self]

end Aes

namespace Gcm

variable {keys : List (List UInt8)} {nonce : List UInt8}

/-- The keystream has sixteen bytes for each counter. -/
theorem length_keystream (hkeys : ∀ key ∈ keys, key.length = 16) (hnonce : nonce.length = 12)
    (count counter : Nat) : (keystream keys nonce count counter).length = 16 * count := by
  have hblock (counter : Nat) : (counterBlock nonce counter).length = 16 := by
    rw [counterBlock, List.length_append, hnonce]
    rfl
  induction count generalizing counter with
  | zero => rfl
  | succ count ih =>
    rw [keystream, List.length_append, Aes.length_encryptBlock (hblock counter) hkeys, ih]
    omega

/-- The keystream reaches to the end of the text. -/
theorem length_crypt (hkeys : ∀ key ∈ keys, key.length = 16) (hnonce : nonce.length = 12)
    (text : List UInt8) : (crypt keys nonce text).length = text.length := by
  rw [crypt, List.length_zipWith, length_keystream hkeys hnonce]
  omega

/-- What is added twice is gone. -/
theorem zipWith_xor_cancel {xs ys : List UInt8} (h : xs.length ≤ ys.length) :
    List.zipWith (· ^^^ ·) (List.zipWith (· ^^^ ·) xs ys) ys = xs := by
  induction xs generalizing ys with
  | nil => rfl
  | cons x xs ih =>
    cases ys with
    | nil => cases h
    | cons y ys =>
      rw [List.zipWith_cons_cons, List.zipWith_cons_cons, ih (Nat.le_of_succ_le_succ h),
        UInt8.xor_assoc, UInt8.xor_self, UInt8.xor_zero]

/-- Adding the keystream a second time gives the text back. -/
theorem crypt_crypt (hkeys : ∀ key ∈ keys, key.length = 16) (hnonce : nonce.length = 12)
    (text : List UInt8) : crypt keys nonce (crypt keys nonce text) = text := by
  have hreach : text.length ≤ (keystream keys nonce ((text.length + 15) / 16) 2).length := by
    rw [length_keystream hkeys hnonce]
    omega
  rw [crypt, length_crypt hkeys hnonce, crypt, zipWith_xor_cancel hreach]

theorem length_tag (keys : List (List UInt8)) (nonce ciphertext : List UInt8) :
    (tag keys nonce ciphertext).length = 16 :=
  rfl

/-- An encrypted text is longer than the text by the tag. -/
theorem length_encrypt (key : List UInt8) (hnonce : nonce.length = 12) (text : List UInt8) :
    (encrypt key nonce text).length = text.length + 16 := by
  rw [encrypt, List.length_append, length_crypt (fun _ => Aes.length_of_mem_roundKeys) hnonce,
    length_tag]

/-- Decrypting undoes encrypting under the same key and nonce. -/
theorem decrypt?_encrypt (key : List UInt8) (hnonce : nonce.length = 12) (text : List UInt8) :
    decrypt? key nonce (encrypt key nonce text) = some text := by
  have hkeys : ∀ round ∈ Aes.roundKeys key, round.length = 16 :=
    fun _ => Aes.length_of_mem_roundKeys
  have hlength := length_encrypt key hnonce text
  have hlong : ¬(encrypt key nonce text).length < 16 := by
    rw [hlength]
    omega
  -- The ciphertext is as long as the text, so the tag is cut off where it was appended.
  have hcut :
      (encrypt key nonce text).length - 16 = (crypt (Aes.roundKeys key) nonce text).length := by
    rw [hlength, Nat.add_sub_cancel, length_crypt hkeys hnonce]
  have hfront : (encrypt key nonce text).take ((encrypt key nonce text).length - 16) =
      crypt (Aes.roundKeys key) nonce text := by
    rw [hcut, encrypt, List.take_left]
  have hback : (encrypt key nonce text).drop ((encrypt key nonce text).length - 16) =
      tag (Aes.roundKeys key) nonce (crypt (Aes.roundKeys key) nonce text) := by
    rw [hcut, encrypt, List.drop_left]
  simp only [decrypt?, hfront, hback, if_neg hlong, if_true, crypt_crypt hkeys hnonce]

end Gcm

end TenantAuth.Cipher
