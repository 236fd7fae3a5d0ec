import TenantAuth.Codec.Hex
import TenantAuth.Proofs.Text.Casing
import TenantAuth.Proofs.Text.Utf8

/-!
Bytes that are spelled in hexadecimal are read, whatever case the letters are in.
-/

namespace TenantAuth.Codec.Hex

variable {cs : List Char} {bytes : List UInt8}

/-- A text spells bytes in hexadecimal, with letters in either case. -/
def Spells (cs : List Char) (bytes : List UInt8) : Prop := cs.map Char.toLower = encodeChars bytes

instance : Decidable (Spells cs bytes) := inferInstanceAs (Decidable (_ = _))

/-- A digit in either case has the value that it is written for, and is not blank. -/
theorem value?_ofNat : ∀ m < 0x80, ∀ n < 16, (Char.ofNat m).toLower = digit n →
    value? (UInt8.ofNat m) = some (UInt8.ofNat n) ∧ Text.isBlank (Char.ofNat m) = false := by decide

/-- Nothing beyond ASCII is a digit in either case. -/
theorem ascii_of_toLower {c : Char} {n : Nat} (hn : n < 16) (h : c.toLower = digit n) :
    c.toNat < 0x80 := by
  rw [← Nat.not_le]
  intro hbeyond
  have hlast : ¬c.toNat ≤ 'Z'.toNat := by
    have hcapital : 'Z'.toNat = 0x5A := rfl
    omega
  have hsame : c.toLower = c := dif_neg fun hcapital => hlast hcapital.2
  have hdigit : ∀ n < 16, (digit n).toNat < 0x80 := by decide
  have hlow := hdigit n hn
  rw [← h, hsame] at hlow
  exact absurd hlow (Nat.not_lt.2 hbeyond)

/-- What a digit in either case is read as. -/
theorem digit_spec {c : Char} {n : Nat} (hn : n < 16) (h : c.toLower = digit n) :
    c.toNat < 0x80 ∧ value? (UInt8.ofNat c.toNat) = some (UInt8.ofNat n) ∧
      Text.isBlank c = false := by
  have hascii := ascii_of_toLower hn h
  have hvalue := value?_ofNat c.toNat hascii n hn
  rw [Char.ofNat_toNat] at hvalue
  exact ⟨hascii, hvalue h⟩

/-- A byte is spelled by the digits of its halves. -/
theorem spells_cons_iff {b : UInt8} {rest : List UInt8} : Spells cs (b :: rest) ↔
    ∃ high low others, cs = high :: low :: others ∧ high.toLower = digit (b.toNat / 16) ∧
      low.toLower = digit (b.toNat % 16) ∧ Spells others rest := by
  change cs.map Char.toLower = digit (b.toNat / 16) :: digit (b.toNat % 16) :: encodeChars rest ↔ _
  simp only [List.map_eq_cons_iff]
  constructor
  · rintro ⟨high, _, rfl, hhigh, low, others, rfl, hlow, hothers⟩
    exact ⟨high, low, others, rfl, hhigh, hlow, hothers⟩
  · rintro ⟨high, low, others, rfl, hhigh, hlow, hothers⟩
    exact ⟨high, _, rfl, hhigh, low, others, rfl, hlow, hothers⟩

/-- A byte is that of its halves. -/
theorem ofNat_halves (b : UInt8) :
    UInt8.ofNat (b.toNat / 16) * 16 + UInt8.ofNat (b.toNat % 16) = b := by
  have hlt := b.toNat_lt
  rw [← UInt8.toNat_inj]
  simp only [UInt8.toNat_add, UInt8.toNat_mul, UInt8.toNat_ofNat', UInt8.toNat_ofNat]
  omega

theorem high_lt (b : UInt8) : b.toNat / 16 < 16 := by
  have hlt := b.toNat_lt
  omega

theorem low_lt (b : UInt8) : b.toNat % 16 < 16 := Nat.mod_lt _ (by decide)

/-- What spells bytes consists of characters in ASCII that are not blank, two for each byte. -/
theorem Spells.spec (h : Spells cs bytes) :
    (∀ c ∈ cs, c.toNat < 0x80 ∧ Text.isBlank c = false) ∧ cs.length = 2 * bytes.length := by
  induction bytes generalizing cs with
  | nil =>
    obtain rfl := List.map_eq_nil_iff.1 h
    exact ⟨nofun, rfl⟩
  | cons b rest ih =>
    obtain ⟨high, low, others, rfl, hhigh, hlow, hothers⟩ := spells_cons_iff.1 h
    obtain ⟨hall, hlength⟩ := ih hothers
    have hfirst := digit_spec (high_lt b) hhigh
    have hsecond := digit_spec (low_lt b) hlow
    refine ⟨List.forall_mem_cons.2
      ⟨⟨hfirst.1, hfirst.2.2⟩, List.forall_mem_cons.2 ⟨⟨hsecond.1, hsecond.2.2⟩, hall⟩⟩, ?_⟩
    simp only [List.length_cons, hlength]
    omega

theorem decodePairs_spelled (h : Spells cs bytes) (index : Nat) :
    decodePairs index (cs.map fun c => UInt8.ofNat c.toNat) = .ok bytes := by
  induction bytes generalizing cs index with
  | nil =>
    obtain rfl := List.map_eq_nil_iff.1 h
    rfl
  | cons b rest ih =>
    obtain ⟨high, low, others, rfl, hhigh, hlow, hothers⟩ := spells_cons_iff.1 h
    rw [List.map_cons, List.map_cons, decodePairs, (digit_spec (high_lt b) hhigh).2.1,
      (digit_spec (low_lt b) hlow).2.1]
    dsimp only
    rw [ih hothers, Except.map, ofNat_halves]

/-- What spells bytes is read as these bytes. -/
theorem decode_of_spells (h : Spells cs bytes) : decode (String.ofList cs) = .ok bytes := by
  obtain ⟨hall, hlength⟩ := h.spec
  have heven : ¬(2 * bytes.length) % 2 = 1 := by omega
  rw [decode, Text.utf8_ofList_ascii fun c hc => (hall c hc).1, List.length_map, hlength,
    if_neg heven]
  exact decodePairs_spelled h 0

end TenantAuth.Codec.Hex
