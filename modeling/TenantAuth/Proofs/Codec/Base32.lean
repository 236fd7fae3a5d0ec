import TenantAuth.Codec.Base32

/-!
Bytes that were written in base 32 are read back.

Writing and reading a block both go by way of one number, which the bytes and the symbols spell in
places of eight and of five bits. The bits that are left over are zero, so that shifting by them
loses nothing.
-/

namespace TenantAuth.Codec.Base32

/-! ### Places -/

section Places

variable {width : Nat}

/-- A number and one more place. -/
abbrev push (width n digit : Nat) : Nat := n * Nat.pow 2 width + digit

@[simp] theorem length_places (count n : Nat) : (places width count n).length = count := by
  induction count with
  | zero => rfl
  | succ count ih => rw [places, List.length_cons, ih]

theorem lt_of_mem_places {count n digit : Nat} (h : digit ∈ places width count n) :
    digit < Nat.pow 2 width := by
  induction count with
  | zero => cases h
  | succ count ih =>
    rcases List.mem_cons.1 h with rfl | hmem
    · exact Nat.mod_lt _ (Nat.two_pow_pos width)
    · exact ih hmem

/-- Places that are read behind a number continue it with what they were written for. -/
theorem foldl_places (width count n before : Nat) :
    (places width count n).foldl (push width) before =
      before * Nat.pow 2 (width * count) + n % Nat.pow 2 (width * count) := by
  induction count generalizing before with
  | zero => simp [places, Nat.mod_one]
  | succ count ih =>
    have hpow : Nat.pow 2 (width * (count + 1)) = Nat.pow 2 (width * count) * Nat.pow 2 width :=
      Nat.pow_add 2 (width * count) width
    rw [places, List.foldl_cons, ih, hpow, Nat.mod_mul, push]
    grind

/-- Places that were read are written again. -/
theorem places_foldl {digits : List Nat} (h : ∀ d ∈ digits, d < Nat.pow 2 width) (before : Nat) :
    places width digits.length (digits.foldl (push width) before) = digits := by
  induction digits generalizing before with
  | nil => rfl
  | cons d rest ih =>
    have hrest := ih (fun d hd => h d (List.mem_cons_of_mem _ hd)) (push width before d)
    have hpos := Nat.two_pow_pos (width * rest.length)
    rw [List.foldl_cons, List.length_cons, places, hrest]
    -- The number is the one before the rest, followed by the places of the rest.
    have hsplit := foldl_places width rest.length (rest.foldl (push width) (push width before d))
      (push width before d)
    rw [hrest] at hsplit
    have hquotient :
      rest.foldl (push width) (push width before d) / Nat.pow 2 (width * rest.length) =
        push width before d := by
      have hdivided := Nat.div_add_mod' (rest.foldl (push width) (push width before d))
        (Nat.pow 2 (width * rest.length))
      exact Nat.eq_of_mul_eq_mul_right hpos (Nat.add_right_cancel (hdivided.trans hsplit))
    rw [hquotient, push, Nat.mul_add_mod_self_right,
      Nat.mod_eq_of_lt (h d List.mem_cons_self)]

/-- The number that places spell has so many places. -/
theorem ofPlaces_lt {digits : List Nat} (h : ∀ d ∈ digits, d < Nat.pow 2 width) :
    ofPlaces width digits < Nat.pow 2 (width * digits.length) := by
  have hspelt := foldl_places width digits.length (ofPlaces width digits) 0
  have hread : places width digits.length (ofPlaces width digits) = digits := places_foldl h 0
  rw [hread, Nat.zero_mul, Nat.zero_add] at hspelt
  rw [ofPlaces] at hspelt ⊢
  rw [hspelt]
  exact Nat.mod_lt _ (Nat.two_pow_pos _)

theorem ofPlaces_places {count n : Nat} (h : n < Nat.pow 2 (width * count)) :
    ofPlaces width (places width count n) = n := by
  have hspelt := foldl_places width count n 0
  rwa [Nat.zero_mul, Nat.zero_add, Nat.mod_eq_of_lt h] at hspelt

/-- Places are those of the front before those of the rest. -/
theorem places_append {width front count top low : Nat} (htop : top < Nat.pow 2 (width * front))
    (hlow : low < Nat.pow 2 (width * count)) :
    places width (front + count) (top * Nat.pow 2 (width * count) + low) =
      places width front top ++ places width count low := by
  have hdigits (d : Nat) (hd : d ∈ places width front top ++ places width count low) :
      d < Nat.pow 2 width :=
    (List.mem_append.1 hd).elim lt_of_mem_places lt_of_mem_places
  have hread := places_foldl hdigits 0
  rw [List.length_append, length_places, length_places, List.foldl_append, foldl_places,
    foldl_places, Nat.zero_mul, Nat.zero_add, Nat.mod_eq_of_lt htop, Nat.mod_eq_of_lt hlow] at hread
  exact hread

end Places

/-! ### Symbols -/

theorem value?_symbol {n : Nat} (h : n < 32) : value? (symbol n) = some n := by
  have hall : ∀ n < 32, value? (symbol n) = some n := by decide
  exact hall n h

theorem symbol_ne_pad {n : Nat} (h : n < 32) : symbol n ≠ '=' := by
  have hall : ∀ n < 32, symbol n ≠ '=' := by decide
  exact hall n h

theorem mapM_value? {values : List Nat} (h : ∀ n ∈ values, n < 32) :
    (values.map symbol).mapM value? = some values := by
  induction values with
  | nil => rfl
  | cons n rest ih =>
    rw [List.map_cons, List.mapM_cons, value?_symbol (h n List.mem_cons_self),
      ih fun n hn => h n (List.mem_cons_of_mem _ hn)]
    rfl

/-- Padding is told apart from symbols. -/
theorem dropPad {values : List Nat} (h : ∀ n ∈ values, n < 32) (pad : Nat) :
    ((values.map symbol ++ List.replicate pad '=').reverse.dropWhile (· == '=')).reverse =
      values.map symbol := by
  have hsymbol (c : Char) (hc : c ∈ (values.map symbol).reverse) : (c == '=') = false := by
    obtain ⟨n, hn, rfl⟩ := List.mem_map.1 (List.mem_reverse.1 hc)
    exact beq_eq_false_iff_ne.2 (symbol_ne_pad (h n hn))
  have hpad (c : Char) (hc : c ∈ List.replicate pad '=') : (c == '=') = true := by
    rw [List.eq_of_mem_replicate hc]
    rfl
  have hkept : (values.map symbol).reverse.dropWhile (· == '=') = (values.map symbol).reverse := by
    cases hsymbols : (values.map symbol).reverse with
    | nil => rfl
    | cons c rest => rw [List.dropWhile_cons, hsymbol c (hsymbols ▸ List.mem_cons_self)]; rfl
  rw [List.reverse_append, List.reverse_replicate, List.dropWhile_append_of_pos hpad, hkept,
    List.reverse_reverse]

/-! ### Blocks -/

section Blocks

variable {bytes : List UInt8}

/-- The number that bytes spell. -/
abbrev number (bytes : List UInt8) : Nat := ofPlaces 8 (bytes.map UInt8.toNat)

theorem places_number : (places 8 bytes.length (number bytes)).map UInt8.ofNat = bytes := by
  have hbyte (d : Nat) (hd : d ∈ bytes.map UInt8.toNat) : d < Nat.pow 2 8 := by
    obtain ⟨b, _, rfl⟩ := List.mem_map.1 hd
    exact b.toNat_lt
  have hplaces := places_foldl hbyte 0
  rw [List.length_map] at hplaces
  have hback :
    (bytes.map UInt8.toNat).map UInt8.ofNat = bytes := by simp [List.map_map, Function.comp_def]
  exact (congrArg (List.map UInt8.ofNat) hplaces).trans hback

theorem number_lt : number bytes < Nat.pow 2 (8 * bytes.length) := by
  have hlt : number bytes < Nat.pow 2 (8 * (bytes.map UInt8.toNat).length) :=
    ofPlaces_lt fun d hd => by
    obtain ⟨b, _, rfl⟩ := List.mem_map.1 hd
    exact b.toNat_lt
  rwa [List.length_map] at hlt

/-- Bytes spell what their front spells, followed by what the rest spells. -/
theorem number_append (front rest : List UInt8) :
    number (front ++ rest) = number front * Nat.pow 2 (8 * rest.length) + number rest := by
  have hread := foldl_places 8 rest.length (number rest) (number front)
  have hbyte (d : Nat) (hd : d ∈ rest.map UInt8.toNat) : d < Nat.pow 2 8 := by
    obtain ⟨b, _, rfl⟩ := List.mem_map.1 hd
    exact b.toNat_lt
  have hdigits : places 8 rest.length (number rest) = rest.map UInt8.toNat := by
    have hplaces := places_foldl hbyte 0
    rwa [List.length_map] at hplaces
  rw [hdigits, Nat.mod_eq_of_lt number_lt] at hread
  rw [← hread, number, ofPlaces, List.map_append, List.foldl_append]
  rfl

/-- What symbols spell is read, if they hold whole bytes and the bits that are left over are
zero. -/
theorem decodeBlock_symbols {values : List Nat} (h : ∀ n ∈ values, n < 32) (hne : values ≠ [])
    (hfew : 5 * values.length % 8 < 5)
    (hzero : ofPlaces 5 values % Nat.pow 2 (5 * values.length % 8) = 0) (pad : Nat) :
    decodeBlock (values.map symbol ++ List.replicate pad '=') =
      some ((places 8 (5 * values.length / 8)
        (ofPlaces 5 values / Nat.pow 2 (5 * values.length % 8))).map UInt8.ofNat) := by
  have hsome : (values.map symbol).isEmpty = false := by simp [hne]
  have hbits : decide (5 ≤ 5 * values.length % 8) = false := decide_eq_false (Nat.not_le.2 hfew)
  unfold decodeBlock
  rw [dropPad h]
  simp only [List.length_map, hsome, hbits, Bool.or_false, Bool.false_eq_true, if_false,
    mapM_value? h]
  exact if_pos hzero

/-- The number of symbols of a block. -/
def symbolCount (bytes : List UInt8) : Nat := (8 * bytes.length + 4) / 5

/-- The number of bits that a block leaves over. -/
def spare (bytes : List UInt8) : Nat := 5 * symbolCount bytes - 8 * bytes.length

theorem length_encodeBlock :
    (encodeBlock bytes).length = symbolCount bytes := by simp [encodeBlock, symbolCount]

/-- A block is read back, however much padding stands behind it. -/
theorem decodeBlock_encodeBlock (h : bytes ≠ []) (pad : Nat) :
    decodeBlock (encodeBlock bytes ++ List.replicate pad '=') = some bytes := by
  have hlength : 0 < bytes.length := List.length_pos_iff.2 h
  have hbits : 5 * symbolCount bytes = 8 * bytes.length + spare bytes := by
    unfold spare symbolCount; omega
  have hspare : spare bytes < 5 := by unfold spare symbolCount; omega
  have hmod : 5 * symbolCount bytes % 8 = spare bytes := by omega
  have hdiv : 5 * symbolCount bytes / 8 = bytes.length := by omega
  let values := places 5 (symbolCount bytes) (number bytes * Nat.pow 2 (spare bytes))
  have hvalues (n : Nat) (hn : n ∈ values) : n < 32 := lt_of_mem_places hn
  have hcount : values.length = symbolCount bytes := length_places _ _
  have hnumber : ofPlaces 5 values = number bytes * Nat.pow 2 (spare bytes) := by
    refine ofPlaces_places ?_
    have hpow : Nat.pow 2 (5 * symbolCount bytes) =
        Nat.pow 2 (8 * bytes.length) * Nat.pow 2 (spare bytes) := by
      rw [hbits]
      exact Nat.pow_add 2 _ _
    rw [hpow]
    exact Nat.mul_lt_mul_of_pos_right number_lt (Nat.two_pow_pos _)
  have hne : values ≠ [] := List.length_pos_iff.1 (by omega)
  have hdecoded := decodeBlock_symbols hvalues hne (by rw [hcount, hmod]; exact hspare)
    (by rw [hcount, hmod, hnumber, Nat.mul_mod_left]) pad
  have hquotient : number bytes * Nat.pow 2 (spare bytes) / Nat.pow 2 (spare bytes) =
      number bytes :=
    Nat.mul_div_cancel _ (Nat.two_pow_pos _)
  rw [hcount, hmod, hdiv, hnumber, hquotient, places_number] at hdecoded
  exact hdecoded

/-- A block of eight characters is read before the others. -/
theorem decodeChars_append {block : List Char} (h : block.length = 8) (rest : List Char) :
    decodeChars (block ++ rest) = (do
      let first ← decodeBlock block
      let others ← decodeChars rest
      some (first ++ others)) := by
  match block, h with
  | [_, _, _, _, _, _, _, _], _ => rfl

end Blocks

/-- Fewer bytes than a whole block are read back, filled up with padding. -/
theorem decodeChars_encodeBlock {bytes : List UInt8} (h : bytes.length < 5) :
    decodeChars
      (encodeBlock bytes ++ List.replicate ((8 - (encodeBlock bytes).length % 8) % 8) '=') =
      some bytes := by
  by_cases hne : bytes = []
  · subst hne
    rfl
  · have hlength : 0 < bytes.length := List.length_pos_iff.2 hne
    have hcount : (encodeBlock bytes).length = (8 * bytes.length + 4) / 5 := length_encodeBlock
    have hwhole :
        (encodeBlock bytes ++
          List.replicate ((8 - (encodeBlock bytes).length % 8) % 8) '=').length = 8 := by
      rw [List.length_append, List.length_replicate]
      omega
    have hread := decodeChars_append hwhole []
    rw [List.append_nil, decodeBlock_encodeBlock hne] at hread
    rw [hread, decodeChars]
    exact congrArg some (List.append_nil bytes)

/-- Whatever bytes are written, they are read back. -/
theorem decode_encode (bytes : List UInt8) : decode (encode bytes) = some bytes := by
  rw [decode, encode, String.toList_ofList]
  fun_induction encodeUnpadded bytes with
  | case1 a b c d e rest ih =>
    have hblock :
      (encodeBlock [a, b, c, d, e]).length = 8 := by simp [length_encodeBlock, symbolCount]
    have hread : decodeBlock (encodeBlock [a, b, c, d, e]) = some [a, b, c, d, e] := by
      simpa using decodeBlock_encodeBlock (List.cons_ne_nil a [b, c, d, e]) 0
    rw [List.length_append, hblock, Nat.add_mod_left, List.append_assoc,
      decodeChars_append hblock, hread, ih]
    rfl
  | case2 rest hfew =>
    refine decodeChars_encodeBlock ?_
    match rest, hfew with
    | [], _ => decide
    | [_], _ => simp
    | [_, _], _ => simp
    | [_, _, _], _ => simp
    | [_, _, _, _], _ => simp
    | a :: b :: c :: d :: e :: more, hfew => exact (hfew a b c d e more rfl).elim

end TenantAuth.Codec.Base32
