import TenantAuth.Codec.Base64
import TenantAuth.Proofs.Codec.Base32
import TenantAuth.Proofs.Text.Utf8

/-!
Bytes that were written in padded base 64 are read back.

What is written are the bits of the bytes in groups of six, the last one filled up with zeros, and
then padding up to a whole quad. Groups of three bytes are written and read apart from one another,
so that the proofs go by quads.
-/

namespace TenantAuth.Codec.Base64

open Base32 (places number)

/-! ### Symbols -/

/-- The byte of a symbol of the standard alphabet. -/
abbrev symbolByte (n : Nat) : UInt8 := UInt8.ofNat (standard.symbol n).toNat

theorem symbol_spec : ∀ n < 64, (standard.symbol n).toNat < 0x80 ∧ value? (symbolByte n) = some n ∧
    symbolByte n ≠ pad := by
  decide

variable {bytes front : List UInt8} {ns : List Nat}

theorem values_symbols (h : ∀ n ∈ ns, n < 64) (index : Nat) :
    values index (ns.map symbolByte) = .ok ns := by
  induction ns generalizing index with
  | nil => rfl
  | cons n rest ih =>
    rw [List.map_cons, values, (symbol_spec n (h n List.mem_cons_self)).2.1]
    dsimp only
    rw [ih fun n hn => h n (List.mem_cons_of_mem _ hn), Except.map]

/-- The number of groups of six bits that hold bytes. -/
def sextetCount (bytes : List UInt8) : Nat := (8 * bytes.length + 5) / 6

/-- The number of bits that fill up the last group. -/
def spare (bytes : List UInt8) : Nat := 6 * sextetCount bytes - 8 * bytes.length

/-- The bits of bytes in groups of six, of which the last is filled up with zeros. -/
def sextets (bytes : List UInt8) : List Nat :=
  places 6 (sextetCount bytes) (number bytes * Nat.pow 2 (spare bytes))

theorem sextets_lt {n : Nat} (h : n ∈ sextets bytes) : n < 64 := Base32.lt_of_mem_places h

theorem length_sextets : (sextets bytes).length = sextetCount bytes := Base32.length_places _ _

theorem pow_spare : Nat.pow 2 (6 * sextetCount bytes) =
    Nat.pow 2 (8 * bytes.length) * Nat.pow 2 (spare bytes) := by
  have hbits : 6 * sextetCount bytes = 8 * bytes.length + spare bytes := by
    unfold spare sextetCount
    omega
  rw [hbits]
  exact Nat.pow_add 2 _ _

theorem sextets_triple (x y z : UInt8) (rest : List UInt8) :
    sextets (x :: y :: z :: rest) =
      [x.toNat / 4, x.toNat % 4 * 16 + y.toNat / 16, y.toNat % 16 * 4 + z.toNat / 64,
        z.toNat % 64] ++ sextets rest := by
  have hx := x.toNat_lt
  have hy := y.toNat_lt
  have hz := z.toNat_lt
  have hcount : sextetCount ([x, y, z] ++ rest) = 4 + sextetCount rest := by
    simp only [sextetCount, List.length_append, List.length_cons, List.length_nil]
    omega
  have hspare : spare ([x, y, z] ++ rest) = spare rest := by
    simp only [spare, hcount, List.length_append, List.length_cons, List.length_nil]
    omega
  have hlow : number rest * Nat.pow 2 (spare rest) < Nat.pow 2 (6 * sextetCount rest) := by
    rw [pow_spare]
    exact Nat.mul_lt_mul_of_pos_right Base32.number_lt (Nat.two_pow_pos _)
  have htop : number [x, y, z] = (x.toNat * 256 + y.toNat) * 256 + z.toNat := by
    simp [number, Base32.ofPlaces]
  have hfits : number [x, y, z] < Nat.pow 2 (6 * 4) := Base32.number_lt
  change sextets ([x, y, z] ++ rest) = _
  rw [sextets, hcount, hspare, Base32.number_append, Nat.add_mul, Nat.mul_assoc, ← pow_spare,
    Base32.places_append hfits hlow]
  refine congrArg (· ++ sextets rest) ?_
  rw [htop]
  simp [places]
  omega

theorem sextets_pair (x y : UInt8) :
    sextets [x, y] = [x.toNat / 4, x.toNat % 4 * 16 + y.toNat / 16, y.toNat % 16 * 4] := by
  have hx := x.toNat_lt
  have hy := y.toNat_lt
  simp [sextets, sextetCount, spare, number, Base32.ofPlaces, places]
  omega

theorem sextets_single (x : UInt8) : sextets [x] = [x.toNat / 4, x.toNat % 4 * 16] := by
  have hx := x.toNat_lt
  simp [sextets, sextetCount, spare, number, Base32.ofPlaces, places]
  omega

theorem encodeChars_eq (bytes : List UInt8) :
    standard.encodeChars bytes = (sextets bytes).map standard.symbol := by
  fun_induction standard.encodeChars bytes with
  | case1 x y z rest ih => rw [sextets_triple, List.map_append, ih]; rfl
  | case2 x y => rw [sextets_pair]; rfl
  | case3 x => rw [sextets_single]; rfl
  | case4 => rfl

/-! ### Reading -/

/-- A quad holds the bytes that it was made of. -/
theorem quadBytes?_sextets (hne : bytes ≠ []) (h : bytes.length ≤ 3) :
    quadBytes? (sextets bytes) = some bytes := by
  match bytes with
  | [x] =>
    have hx := x.toNat_lt
    have hfirst : x.toNat / 4 * 4 + x.toNat % 4 * 16 / 16 = x.toNat := by omega
    rw [sextets_single, quadBytes?, if_pos (by omega), hfirst, UInt8.ofNat_toNat]
  | [x, y] =>
    have hy := y.toNat_lt
    have hfirst : x.toNat / 4 * 4 + (x.toNat % 4 * 16 + y.toNat / 16) / 16 = x.toNat := by omega
    have hsecond : (x.toNat % 4 * 16 + y.toNat / 16) % 16 * 16 + y.toNat % 16 * 4 / 4 =
      y.toNat := by omega
    rw [sextets_pair, quadBytes?, if_pos (by omega), hfirst, hsecond, UInt8.ofNat_toNat,
      UInt8.ofNat_toNat]
  | [x, y, z] =>
    have hy := y.toNat_lt
    have hz := z.toNat_lt
    have hfirst : x.toNat / 4 * 4 + (x.toNat % 4 * 16 + y.toNat / 16) / 16 = x.toNat := by omega
    have hsecond : (x.toNat % 4 * 16 + y.toNat / 16) % 16 * 16 +
        (y.toNat % 16 * 4 + z.toNat / 64) / 4 = y.toNat := by
      omega
    have hthird : (y.toNat % 16 * 4 + z.toNat / 64) % 4 * 64 + z.toNat % 64 = z.toNat := by omega
    have hsextets :
      sextets [x, y, z] =
        [x.toNat / 4, x.toNat % 4 * 16 + y.toNat / 16, y.toNat % 16 * 4 + z.toNat / 64,
          z.toNat % 64] := sextets_triple x y z []
    rw [hsextets, quadBytes?, hfirst, hsecond, hthird, UInt8.ofNat_toNat, UInt8.ofNat_toNat,
      UInt8.ofNat_toNat]

/-- Symbols stand before the padding. -/
theorem takeWhile_symbols (h : ∀ n ∈ ns, n < 64) (padding : Nat) :
    (ns.map symbolByte ++ List.replicate padding pad).takeWhile (· != pad) = ns.map symbolByte := by
  have hsymbol : ∀ b ∈ ns.map symbolByte, (b != pad) = true := by
    intro b hb
    obtain ⟨n, hn, rfl⟩ := List.mem_map.1 hb
    exact bne_iff_ne.2 (symbol_spec n (h n hn)).2.2
  rw [List.takeWhile_append_of_pos hsymbol, List.takeWhile_replicate]
  simp

/-- A last quad is read that is filled up with padding. -/
theorem decodeLast_symbols {padding : Nat} (h : ∀ n ∈ ns, n < 64) (hfew : 2 ≤ ns.length)
    (hfull : ns.length + padding = 4) (hread : quadBytes? ns = some bytes) (index : Nat) :
    decodeLast index (ns.map symbolByte ++ List.replicate padding pad) = .ok bytes := by
  have hquad : (ns.map symbolByte ++ List.replicate padding pad).isEmpty = false := by
    rw [List.isEmpty_eq_false_iff]
    intro hnil
    rw [(List.map_eq_nil_iff.1 (List.append_eq_nil_iff.1 hnil).1)] at hfew
    exact absurd hfew (by decide)
  have hpair : ¬(ns.map symbolByte).length < 2 := by
    rw [List.length_map]
    omega
  have hlast : lastQuad index (ns.map symbolByte ++ List.replicate padding pad) =
      .ok (ns.map symbolByte, padding) := by
    have hnone : (List.replicate padding pad).any (· != pad) = false := by simp
    have htwo : decide ((ns.map symbolByte).length < 2) = false := decide_eq_false hpair
    unfold lastQuad
    rw [takeWhile_symbols h]
    dsimp only
    rw [List.drop_left, values_symbols h, hnone, htwo]
    cases padding <;> simp
  have hwhole : ¬((ns.map symbolByte).length + padding) % 4 ≠ 0 := by simp [hfull]
  unfold decodeLast
  rw [hquad, hlast]
  simp only [Bool.false_eq_true, if_false, bind, Except.bind, hpair, hwhole,
    values_symbols h, hread]
  rfl

/-- What is written behind whole quads is read behind them. -/
theorem decodeQuads_append {quad : List Nat} (h : ∀ n ∈ quad, n < 64) (hquad : quad.length = 4)
    (hread : quadBytes? quad = some front) {rest : List UInt8} (hrest : rest ≠ []) (index : Nat)
    (hothers : decodeQuads (index + 4) rest = .ok bytes) :
    decodeQuads index (quad.map symbolByte ++ rest) = .ok (front ++ bytes) := by
  match quad, rest with
  | [a, b, c, d], e :: rest =>
    have hvalues : values index [symbolByte a, symbolByte b, symbolByte c, symbolByte d] =
        .ok [a, b, c, d] :=
      values_symbols h index
    change decodeQuads index (symbolByte a :: symbolByte b :: symbolByte c :: symbolByte d ::
      e :: rest) = _
    rw [decodeQuads, hvalues, hothers]
    simp only [bind, Except.bind, hread]
    rfl

theorem decodeQuads_symbols (bytes : List UInt8) (index : Nat) :
    decodeQuads index
      ((sextets bytes).map symbolByte ++ List.replicate ((3 - bytes.length % 3) % 3) pad) =
      .ok bytes := by
  have hlast {bytes : List UInt8} (hne : bytes ≠ []) (h : bytes.length ≤ 3) (index : Nat) :
      decodeQuads index
        ((sextets bytes).map symbolByte ++ List.replicate ((3 - bytes.length % 3) % 3) pad) =
        .ok bytes := by
    have hlength : 0 < bytes.length := List.length_pos_iff.2 hne
    have hcount : (sextets bytes).length = sextetCount bytes := length_sextets
    have hfew : 2 ≤ (sextets bytes).length := by rw [hcount, sextetCount]; omega
    have hfull : (sextets bytes).length + (3 - bytes.length % 3) % 3 = 4 := by
      rw [hcount, sextetCount]; omega
    rw [decodeQuads, decodeLast_symbols (fun n => sextets_lt) hfew hfull (quadBytes?_sextets hne h)]
    intro a b c d e rest heq
    have hlong := congrArg List.length heq
    simp only [List.length_append, List.length_map, List.length_replicate, List.length_cons,
      hfull] at hlong
    omega
  fun_induction standard.encodeChars bytes generalizing index with
  | case1 x y z rest ih =>
    by_cases hrest : rest = []
    · subst hrest
      exact hlast (List.cons_ne_nil _ _) (by simp) index
    · have hquad :
        sextets [x, y, z] =
          [x.toNat / 4, x.toNat % 4 * 16 + y.toNat / 16, y.toNat % 16 * 4 + z.toNat / 64,
            z.toNat % 64] := sextets_triple x y z []
      have hsame : (3 - (x :: y :: z :: rest).length % 3) % 3 = (3 - rest.length % 3) % 3 := by
        simp only [List.length_cons]
        omega
      have hmore :
          (sextets rest).map symbolByte ++ List.replicate ((3 - rest.length % 3) % 3) pad ≠ [] := by
        have hpos := List.length_pos_iff.2 hrest
        refine List.append_ne_nil_of_left_ne_nil
          (mt List.map_eq_nil_iff.1 (List.length_pos_iff.1 ?_)) _
        rw [length_sextets, sextetCount]
        omega
      rw [sextets_triple, ← hquad, hsame, List.map_append, List.append_assoc]
      have hread : quadBytes? (sextets [x, y, z]) = some [x, y, z] :=
        quadBytes?_sextets (List.cons_ne_nil _ _) (by simp)
      have hfour : (sextets [x, y, z]).length = 4 := by rw [hquad]; rfl
      exact decodeQuads_append (fun n => sextets_lt) hfour hread hmore index (ih (index + 4))
  | case2 x y => exact hlast (List.cons_ne_nil _ _) (by simp) index
  | case3 x => exact hlast (List.cons_ne_nil _ _) (by simp) index
  | case4 => rfl

/-- What is written are the symbols of the bits in groups of six, and padding. -/
theorem toList_encode (bytes : List UInt8) : (encode bytes).toList =
    (sextets bytes).map standard.symbol ++ List.replicate ((3 - bytes.length % 3) % 3) '=' := by
  rw [encode, String.toList_ofList, encodeChars_eq]

/-- A text is the padded form of bytes: the symbols of their bits in groups of six, filled up to
whole quads with at most two characters of padding. -/
structure IsPadded (s : String) (bytes : List UInt8) : Prop where
  eq : ∃ padding ≤ 2, s.toList = (sextets bytes).map standard.symbol ++ List.replicate padding '='
  whole_quads : s.toList.length % 4 = 0

theorem isPadded_encode (bytes : List UInt8) : IsPadded (encode bytes) bytes := by
  refine ⟨⟨_, by omega, toList_encode bytes⟩, ?_⟩
  rw [toList_encode, List.length_append, List.length_map, length_sextets,
    List.length_replicate, sextetCount]
  obtain hrest | hrest | hrest : bytes.length % 3 = 0 ∨ bytes.length % 3 = 1 ∨
    bytes.length % 3 = 2 := by omega
  all_goals
    rw [hrest]
    omega

/-- The bytes of what is written. -/
theorem utf8_encode (bytes : List UInt8) : Text.utf8 (encode bytes) =
    (sextets bytes).map symbolByte ++ List.replicate ((3 - bytes.length % 3) % 3) pad := by
  have hascii : ∀ c ∈ (encode bytes).toList, c.toNat < 0x80 := by
    rw [toList_encode]
    intro c hc
    rcases List.mem_append.1 hc with hc | hc
    · obtain ⟨n, hn, rfl⟩ := List.mem_map.1 hc
      exact (symbol_spec n (sextets_lt hn)).1
    · rw [List.eq_of_mem_replicate hc]
      decide
  have hbytes := Text.utf8_ofList_ascii hascii
  rw [String.ofList_toList, toList_encode, List.map_append, List.map_map,
    List.map_replicate] at hbytes
  exact hbytes

/-- Whatever bytes are written, they are read back. -/
theorem decode_encode (bytes : List UInt8) : decode (encode bytes) = .ok bytes := by
  have hquads :
      ((sextets bytes).map symbolByte ++
        List.replicate ((3 - bytes.length % 3) % 3) pad).length % 4 ≠ 1 := by
    rw [List.length_append, List.length_map, length_sextets, List.length_replicate, sextetCount]
    omega
  rw [decode, utf8_encode, strayLast?, if_neg hquads]
  exact decodeQuads_symbols bytes 0

end TenantAuth.Codec.Base64
