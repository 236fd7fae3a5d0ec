import TenantAuth.Proofs.Json.Records
import TenantAuth.Proofs.Text.Utf8

/-!
JSON that was printed is read.

What was printed is read part by part, each of them up to its end and whatever follows: a character
of a string in the way in which it was escaped, an item behind its comma, a field behind its name.
The fields of an object are printed in the order of their names, so that each is put behind those
that were read before it. The loops have more rounds than there are bytes left, so that they never
run out of them.
-/

namespace TenantAuth.Json

variable {α : Type} {rest : List UInt8} {index rounds depth : Nat} {v : Json}

/-- A value was read, and what follows it is left. -/
def Leaves (r : Reading α) (a : α) (rest : List UInt8) : Prop := ∃ index, r = .ok (a, ⟨index, rest⟩)

/-- The bytes of characters. -/
def bytesOf (cs : List Char) : List UInt8 := cs.flatMap String.utf8EncodeChar

theorem bytesOf_append (cs ds : List Char) : bytesOf (cs ++ ds) = bytesOf cs ++ bytesOf ds :=
    List.flatMap_append

theorem utf8_ofList (cs : List Char) : Text.utf8 (String.ofList cs) = bytesOf cs := by
  rw [Text.utf8_eq, String.toList_ofList, bytesOf]

/-! ### Strings -/

/-- How a character stands in a string: behind a backslash, or as it is where nothing has to be
escaped. -/
inductive SpelledAs (c : Char) : List UInt8 → Prop
  | escaped (tail : List UInt8)
    (h : ∀ index rest, Leaves (readEscape ⟨index, tail ++ rest⟩) c rest) :
    SpelledAs c (0x5C :: tail)
  | plain (h : ∀ b ∈ String.utf8EncodeChar c, 0x20 ≤ b ∧ b ≠ 0x22 ∧ b ≠ 0x5C) :
      SpelledAs c (String.utf8EncodeChar c)

/-- A hexadecimal digit is one byte and read as what it stands for. -/
theorem hexOf?_digitChar : ∀ d < 16, ∃ b, String.utf8EncodeChar (Nat.digitChar d) = [b] ∧
    hexOf? b = some d := by
  have hdigit :
      ∀ d < 16, String.utf8EncodeChar (Nat.digitChar d) = [UInt8.ofNat (Nat.digitChar d).toNat] ∧
        hexOf? (UInt8.ofNat (Nat.digitChar d).toNat) = some d := by decide
  exact fun d hd => ⟨_, hdigit d hd⟩

/-- A control character is read from its code. -/
theorem escaped_control {c : Char} (h : c.toNat < 0x20) :
    SpelledAs c
      (bytesOf ['\\', 'u', '0', '0', Nat.digitChar (c.toNat / 16), Nat.digitChar
        (c.toNat % 16)]) := by
  obtain ⟨y, hhigh, hy⟩ := hexOf?_digitChar (c.toNat / 16) (by omega)
  obtain ⟨z, hlow, hz⟩ := hexOf?_digitChar (c.toNat % 16) (by omega)
  have hbytes :
      bytesOf ['\\', 'u', '0', '0', Nat.digitChar (c.toNat / 16), Nat.digitChar (c.toNat % 16)] =
        0x5C :: [0x75, 0x30, 0x30, y, z] := by
    change 0x5C :: 0x75 :: 0x30 :: 0x30 ::
      (String.utf8EncodeChar _ ++ (String.utf8EncodeChar _ ++ [])) = _
    rw [hhigh, hlow]
    rfl
  rw [hbytes]
  refine .escaped _ fun index rest => ⟨index + 5, ?_⟩
  have hread :
      readHex ⟨index + 1, 0x30 :: 0x30 :: y :: z :: rest⟩ = .ok (c.toNat, ⟨index + 5, rest⟩) := by
    have hzero : hexOf? 0x30 = some 0 := rfl
    have hvalue : ((0 * 16 + 0) * 16 + c.toNat / 16) * 16 + c.toNat % 16 = c.toNat := by omega
    simp only [readHex, hzero, hy, hz, hvalue]
  change readUnicode ⟨index + 1, 0x30 :: 0x30 :: y :: z :: rest⟩ = _
  have hlower : ¬(0xDC00 ≤ c.toNat ∧ c.toNat ≤ 0xDFFF) := by omega
  have hupper : c.toNat < 0xD800 ∨ 0xDBFF < c.toNat := by omega
  simp only [readUnicode, hread, bind, Except.bind, hlower, hupper, if_true, if_false,
    Char.ofNat_toNat]
  rfl

theorem escapedChar_spelled (c : Char) : SpelledAs c (bytesOf (escapedChar c)) := by
  unfold escapedChar
  -- the seven characters that have a letter for themselves
  iterate 7
    split
    · subst c
      exact .escaped [_] fun _ _ => ⟨_, rfl⟩
  split
  · rename_i hcontrol
    exact escaped_control hcontrol
  · rename_i hquote hbackslash _ _ _ _ _ hcontrol
    rw [bytesOf, List.flatMap_singleton]
    refine .plain fun b hb => ?_
    rcases Nat.lt_or_ge c.toNat 0x80 with hascii | hbeyond
    · have hbyte : ∀ n < 0x80, 0x20 ≤ n ∧ n ≠ '"'.toNat ∧ n ≠ '\\'.toNat →
          0x20 ≤ UInt8.ofNat n ∧ UInt8.ofNat n ≠ 0x22 ∧ UInt8.ofNat n ≠ 0x5C := by decide
      rw [Text.utf8EncodeChar_ascii hascii, List.mem_singleton] at hb
      subst hb
      exact hbyte c.toNat hascii
        ⟨Nat.not_lt.1 hcontrol, mt Char.toNat_inj.1 hquote, mt Char.toNat_inj.1 hbackslash⟩
    · have hlarge := Text.le_of_mem_utf8EncodeChar hbeyond b hb
      refine ⟨UInt8.le_trans (by decide) hlarge, ?_, ?_⟩ <;> rintro rfl <;>
        exact absurd hlarge (by decide)

/-- Bytes that stand for themselves are kept, in as many rounds. -/
theorem readStringIn_plain {bytes : List UInt8} (h : ∀ b ∈ bytes, 0x20 ≤ b ∧ b ≠ 0x22 ∧ b ≠ 0x5C)
    (before : List UInt8) (index : Nat) :
    readStringIn (bytes.length + rounds) before ⟨index, bytes ++ rest⟩ =
      readStringIn rounds (bytes.reverse ++ before) ⟨index + bytes.length, rest⟩ := by
  induction bytes generalizing before index with
  | nil => simp
  | cons b bytes ih =>
    obtain ⟨hlow, hquote, hbackslash⟩ := h b List.mem_cons_self
    have hnext := ih (fun d hd => h d (List.mem_cons_of_mem _ hd)) (b :: before) (index + 1)
    rw [List.length_cons, Nat.add_right_comm, List.cons_append, readStringIn]
    simp only [hquote, hbackslash, UInt8.not_lt.2 hlow, if_false]
    rw [hnext, List.reverse_cons, List.append_assoc, List.singleton_append, Nat.add_assoc,
      Nat.add_comm 1]

/-- A character is read in the way in which it was escaped. -/
theorem readStringIn_char {c : Char} {bytes : List UInt8} (h : SpelledAs c bytes)
    (before : List UInt8) (index : Nat) (hrounds : (bytes ++ rest).length < rounds) :
    ∃ rounds' index', rest.length < rounds' ∧
      readStringIn rounds before ⟨index, bytes ++ rest⟩ =
        readStringIn rounds' ((String.utf8EncodeChar c).reverse ++ before) ⟨index', rest⟩ := by
  cases h with
  | escaped tail h =>
    obtain ⟨rounds, rfl⟩ := Nat.exists_eq_add_one_of_ne_zero (Nat.ne_zero_of_lt hrounds)
    obtain ⟨index', hread⟩ := h (index + 1) rest
    have hchar : Text.utf8 (String.singleton c) = String.utf8EncodeChar c := by simp [Text.utf8_eq]
    refine ⟨rounds, index', ?_, ?_⟩
    · simp only [List.cons_append, List.length_cons, List.length_append] at hrounds
      omega
    · rw [List.cons_append, readStringIn]
      simp only [hread, hchar]
      rfl
  | plain h =>
    obtain ⟨more, rfl⟩ := Nat.exists_eq_add_of_le (show (String.utf8EncodeChar c).length ≤ rounds by
      rw [List.length_append] at hrounds
      omega)
    refine ⟨more, _, ?_, readStringIn_plain h before index⟩
    rw [List.length_append] at hrounds
    omega

/-- A string is read up to its closing quote. -/
theorem readStringIn_text (cs before : List Char) (index : Nat)
    (hrounds : (bytesOf (cs.flatMap escapedChar) ++ 0x22 :: rest).length < rounds) :
    Leaves
      (readStringIn rounds (bytesOf before).reverse
        ⟨index, bytesOf (cs.flatMap escapedChar) ++ 0x22 :: rest⟩)
        (String.ofList (before ++ cs)) rest := by
  induction cs generalizing before index rounds with
  | nil =>
    obtain ⟨rounds, rfl⟩ := Nat.exists_eq_add_one_of_ne_zero (Nat.ne_zero_of_lt hrounds)
    refine ⟨index + 1, ?_⟩
    have hread : Text.ofUtf8 (bytesOf before) = .ok (String.ofList before) := by
      rw [← utf8_ofList, Text.ofUtf8_utf8]
    have hempty : bytesOf ([].flatMap escapedChar) ++ 0x22 :: rest = 0x22 :: rest := rfl
    rw [List.append_nil, hempty, readStringIn]
    simp only [if_true, List.reverse_reverse, hread]
    rfl
  | cons c cs ih =>
    rw [List.flatMap_cons, bytesOf_append, List.append_assoc] at hrounds ⊢
    obtain ⟨rounds', index', hrounds', heq⟩ :=
      readStringIn_char (escapedChar_spelled c) (bytesOf before).reverse index hrounds
    have hbefore : (String.utf8EncodeChar c).reverse ++ (bytesOf before).reverse =
        (bytesOf (before ++ [c])).reverse := by
      simp [bytesOf]
    have hrest := ih (before ++ [c]) index' hrounds'
    rw [heq, hbefore]
    rwa [List.append_assoc, List.singleton_append] at hrest

/-- A string is read behind its opening quote. -/
theorem readString_stringText (s : String) (index : Nat) (rest : List UInt8) :
    ∃ tail, bytesOf (stringText s) ++ rest = 0x22 :: tail ∧
      Leaves (readString ⟨index, tail⟩) s rest := by
  refine ⟨bytesOf (s.toList.flatMap escapedChar) ++ 0x22 :: rest, ?_, ?_⟩
  · have hquote : bytesOf ['"'] = [0x22] := rfl
    rw [stringText, ← List.cons_append, bytesOf_append, List.append_assoc, hquote]
    rfl
  · have hread : Leaves (readString ⟨index, bytesOf (s.toList.flatMap escapedChar) ++ 0x22 :: rest⟩)
        (String.ofList ([] ++ s.toList)) rest :=
        readStringIn_text s.toList [] index (Nat.lt_succ_self _)
    rwa [List.nil_append, String.ofList_toList] at hread

/-! ### Arrays and objects -/

/-- Where there is no space, none is passed over. -/
theorem next_cons {b : UInt8} (h : isSpace b = false) (index : Nat) (rest : List UInt8) :
    Cursor.next ⟨index, b :: rest⟩ = ⟨index, b :: rest⟩ := by
  rw [Cursor.next, skipSpaces, h]
  rfl

/-- Parts of a text, each behind a comma. -/
def behindCommas (part : α → List Char) (xs : List α) : List Char :=
    xs.flatMap fun x => ',' :: part x

theorem behindCommas_cons (part : α → List Char) (x : α) (xs : List α) :
    behindCommas part (x :: xs) = ',' :: (part x ++ behindCommas part xs) := rfl

theorem bytesOf_behindCommas (part : α → List Char) (x : α) (xs : List α) (rest : List UInt8) :
    bytesOf (behindCommas part (x :: xs)) ++ rest =
      0x2C :: (bytesOf (part x) ++ (bytesOf (behindCommas part xs) ++ rest)) := by
  rw [← List.append_assoc, ← bytesOf_append]
  rfl

theorem itemsText_cons (v : Json) (items : List Json) :
    itemsText (v :: items) = text v ++ behindCommas text items := by
  induction items generalizing v with
  | nil => exact (List.append_nil _).symm
  | cons w items ih =>
    change text v ++ ',' :: itemsText (w :: items) = _
    rw [ih, behindCommas_cons]

/-- A field: its name, and its value behind a colon. -/
def fieldText (f : String × Json) : List Char := stringText f.1 ++ ':' :: text f.2

theorem fieldsText_cons (f : String × Json) (fields : List (String × Json)) :
    fieldsText (f :: fields) = fieldText f ++ behindCommas fieldText fields := by
  induction fields generalizing f with
  | nil => exact (List.append_nil _).symm
  | cons g fields ih =>
    change fieldText f ++ ',' :: fieldsText (g :: fields) = _
    rw [ih, behindCommas_cons]

/-- A value that was printed is read, whatever follows it; it starts with no space and does not end
a list. -/
structure IsRead (readPart : Cursor → Reading Json) (v : Json) : Prop where
  starts : ∃ b tail, bytesOf (text v) = b :: tail ∧ isSpace b = false ∧ b ≠ 0x5D
  reads : ∀ index rest, Leaves (readPart ⟨index, bytesOf (text v) ++ rest⟩) v rest

variable {readPart : Cursor → Reading Json} {items : List Json}
  {before fields : List (String × Json)} {f : String × Json}

/-- Items behind the first are read, each of them behind its comma. -/
theorem readItems_behindCommas (h : ∀ v ∈ items, IsRead readPart v) (before : List Json)
    (index : Nat) (hrounds : (bytesOf (behindCommas text items) ++ 0x5D :: rest).length < rounds) :
    Leaves
      (readItems readPart rounds false before
        ⟨index, bytesOf (behindCommas text items) ++ 0x5D :: rest⟩)
        (.array (before.reverse ++ items)) rest := by
  induction items generalizing before index rounds with
  | nil =>
    obtain ⟨rounds, rfl⟩ := Nat.exists_eq_add_one_of_ne_zero (Nat.ne_zero_of_lt hrounds)
    rw [List.append_nil]
    exact ⟨index + 1, rfl⟩
  | cons v items ih =>
    obtain ⟨rounds, rfl⟩ := Nat.exists_eq_add_one_of_ne_zero (Nat.ne_zero_of_lt hrounds)
    rw [bytesOf_behindCommas, List.length_cons, List.length_append] at hrounds
    rw [bytesOf_behindCommas]
    obtain ⟨⟨b, tail, hstart, hspace, hend⟩, hreads⟩ := h v List.mem_cons_self
    obtain ⟨index', hread⟩ := hreads (index + 1) (bytesOf (behindCommas text items) ++ 0x5D :: rest)
    have hfew : (bytesOf (behindCommas text items) ++ 0x5D :: rest).length < rounds := by omega
    have hrest := ih (fun w hw => h w (List.mem_cons_of_mem _ hw)) (v :: before) index' hfew
    rw [hstart, List.cons_append] at hread ⊢
    have hcomma : isSpace 0x2C = false ∧ (0x2C : UInt8) ≠ 0x5D := by decide
    rw [readItems]
    simp only [next_cons hcomma.1, next_cons hspace, Cursor.peek?, Cursor.skip, List.head?_cons,
      List.tail_cons, hcomma.2, hend, hread, if_true, if_false, Bool.false_eq_true]
    rwa [List.reverse_cons, List.append_assoc, List.singleton_append] at hrest

/-- The items of an array are read behind its bracket. -/
theorem readItems_itemsText (h : ∀ v ∈ items, IsRead readPart v)
    (hrounds : (bytesOf (itemsText items) ++ 0x5D :: rest).length < rounds) :
    Leaves (readItems readPart rounds true [] ⟨index, bytesOf (itemsText items) ++ 0x5D :: rest⟩)
      (.array items) rest := by
  obtain ⟨rounds, rfl⟩ := Nat.exists_eq_add_one_of_ne_zero (Nat.ne_zero_of_lt hrounds)
  cases items with
  | nil => exact ⟨index + 1, rfl⟩
  | cons v items =>
    obtain ⟨⟨b, tail, hstart, hspace, hend⟩, hreads⟩ := h v List.mem_cons_self
    obtain ⟨index', hread⟩ := hreads index (bytesOf (behindCommas text items) ++ 0x5D :: rest)
    rw [itemsText_cons, bytesOf_append, List.append_assoc, hstart, List.cons_append] at hrounds ⊢
    rw [List.length_cons, List.length_append] at hrounds
    have hfew : (bytesOf (behindCommas text items) ++ 0x5D :: rest).length < rounds := by omega
    have hrest :=
      readItems_behindCommas (fun w hw => h w (List.mem_cons_of_mem _ hw)) [v] index' hfew
    rw [hstart, List.cons_append] at hread
    rw [readItems]
    simp only [next_cons hspace, Cursor.peek?, List.head?_cons, hend, hread, if_true, if_false]
    exact hrest

/-- A field whose name comes last is put at the end. -/
theorem insertField_last (h : ∀ e ∈ before, e.1 < f.1) :
    insertField f.1 f.2 before = before ++ [f] := by
  induction before with
  | nil => rfl
  | cons e before ih =>
    have hlt : e.1 < f.1 := h e List.mem_cons_self
    have hne : f.1 ≠ e.1 := fun heq => String.lt_irrefl _ (heq ▸ hlt)
    have hnot : ¬f.1 < e.1 := fun hgt => String.lt_irrefl _ (String.lt_trans hlt hgt)
    rw [insertField, if_neg hne, if_neg hnot, ih fun d hd => h d (List.mem_cons_of_mem _ hd)]
    rfl

/-- The name of a field is read, and behind the colon its value. -/
theorem fieldText_reads (h : IsRead readPart f.2) (index : Nat) (rest : List UInt8) :
    ∃ tail tail' index₁ index₂, bytesOf (fieldText f) ++ rest = 0x22 :: tail ∧
      readString ⟨index, tail⟩ = .ok (f.1, ⟨index₁, 0x3A :: tail'⟩) ∧
      readPart ⟨index₁ + 1, tail'⟩ = .ok (f.2, ⟨index₂, rest⟩) := by
  obtain ⟨tail, htail, index₁, hname⟩ :=
    readString_stringText f.1 index (0x3A :: (bytesOf (text f.2) ++ rest))
  obtain ⟨index₂, hvalue⟩ := h.reads (index₁ + 1) rest
  refine ⟨tail, _, index₁, index₂, ?_, hname, hvalue⟩
  rw [fieldText, bytesOf_append, List.append_assoc, ← htail]
  rfl

/-- Fields behind the first are read, each of them behind its comma. -/
theorem readFields_behindCommas (h : ∀ e ∈ fields, IsRead readPart e.2)
    (hnames : InOrder (before ++ fields)) (index : Nat)
    (hrounds : (bytesOf (behindCommas fieldText fields) ++ 0x7D :: rest).length < rounds) :
    Leaves
      (readFields readPart rounds false before
        ⟨index, bytesOf (behindCommas fieldText fields) ++ 0x7D :: rest⟩)
        (.object (before ++ fields)) rest := by
  induction fields generalizing before index rounds with
  | nil =>
    obtain ⟨rounds, rfl⟩ := Nat.exists_eq_add_one_of_ne_zero (Nat.ne_zero_of_lt hrounds)
    rw [List.append_nil]
    exact ⟨index + 1, rfl⟩
  | cons f fields ih =>
    obtain ⟨rounds, rfl⟩ := Nat.exists_eq_add_one_of_ne_zero (Nat.ne_zero_of_lt hrounds)
    rw [bytesOf_behindCommas, List.length_cons, List.length_append] at hrounds
    rw [bytesOf_behindCommas]
    obtain ⟨tail, tail', index₁, index₂, hstart, hname, hvalue⟩ :=
      fieldText_reads (h f List.mem_cons_self) (index + 1 + 1)
        (bytesOf (behindCommas fieldText fields) ++ 0x7D :: rest)
    have hlast : ∀ e ∈ before, e.1 < f.1 :=
      fun e he => (List.pairwise_append.1 hnames).2.2 e he f List.mem_cons_self
    rw [← List.singleton_append, ← List.append_assoc] at hnames
    have hfew : (bytesOf (behindCommas fieldText fields) ++ 0x7D :: rest).length <
      rounds := by omega
    have hrest := ih (fun e he => h e (List.mem_cons_of_mem _ he)) hnames index₂ hfew
    have hcomma : isSpace 0x2C = false ∧ (0x2C : UInt8) ≠ 0x7D := by decide
    have hquote : isSpace 0x22 = false ∧ (0x22 : UInt8) ≠ 0x7D := by decide
    have hcolon : isSpace 0x3A = false := rfl
    rw [hstart, readFields]
    simp only [next_cons hcomma.1, next_cons hquote.1, next_cons hcolon, Cursor.peek?, Cursor.skip,
      List.head?_cons, List.tail_cons, hcomma.2, hquote.2, hname, hvalue, insertField_last hlast,
      if_true, if_false, Bool.false_eq_true,
      bind, Except.bind]
    rwa [List.append_assoc, List.singleton_append] at hrest

/-- The fields of an object are read behind its brace. -/
theorem readFields_fieldsText (h : ∀ e ∈ fields, IsRead readPart e.2) (hnames : InOrder fields)
    (hrounds : (bytesOf (fieldsText fields) ++ 0x7D :: rest).length < rounds) :
    Leaves (readFields readPart rounds true [] ⟨index, bytesOf (fieldsText fields) ++ 0x7D :: rest⟩)
      (.object fields) rest := by
  obtain ⟨rounds, rfl⟩ := Nat.exists_eq_add_one_of_ne_zero (Nat.ne_zero_of_lt hrounds)
  cases fields with
  | nil => exact ⟨index + 1, rfl⟩
  | cons f fields =>
    obtain ⟨tail, tail', index₁, index₂, hstart, hname, hvalue⟩ :=
      fieldText_reads (h f List.mem_cons_self) (index + 1)
        (bytesOf (behindCommas fieldText fields) ++ 0x7D :: rest)
    rw [fieldsText_cons, bytesOf_append, List.append_assoc] at hrounds ⊢
    have hfew : (bytesOf (behindCommas fieldText fields) ++ 0x7D :: rest).length < rounds := by
      have hpos : 0 < (bytesOf (fieldText f)).length := Nat.succ_pos _
      rw [List.length_append] at hrounds
      omega
    have hnames : InOrder ([f] ++ fields) := hnames
    have hrest :=
      readFields_behindCommas (fun e he => h e (List.mem_cons_of_mem _ he)) hnames index₂ hfew
    have hquote : isSpace 0x22 = false ∧ (0x22 : UInt8) ≠ 0x7D := by decide
    have hcolon : isSpace 0x3A = false := rfl
    rw [hstart, readFields]
    simp only [next_cons hquote.1, next_cons hcolon, Cursor.peek?, Cursor.skip, List.head?_cons,
      List.tail_cons, hquote.2, hname, hvalue, insertField, if_true, if_false, bind, Except.bind]
    exact hrest

/-! ### Values -/

/-- A value without numbers in which arrays and objects nest at most so deep, the fields in the
order of their names. -/
inductive IsPlain : Nat → Json → Prop
  | null {depth : Nat} : IsPlain depth .null
  | bool {depth : Nat} (b : Bool) : IsPlain depth (.bool b)
  | string {depth : Nat} (s : String) : IsPlain depth (.string s)
  | array {depth : Nat} {items : List Json} (h : ∀ v ∈ items, IsPlain depth v) :
      IsPlain (depth + 1) (.array items)
  | object {depth : Nat} {fields : List (String × Json)} (h : ∀ e ∈ fields, IsPlain depth e.2)
    (hnames : InOrder fields) : IsPlain (depth + 1) (.object fields)

theorem IsPlain.ofFields {entries : List (String × Json)} (h : ∀ e ∈ entries, IsPlain depth e.2) :
    IsPlain (depth + 1) (ofFields entries) := by
  rw [ofFields_eq]
  exact .object (fun e he => h e (mem_of_mem_placed he)) (inOrder_placed entries)

theorem IsPlain.ofList {write : α → Json} (h : ∀ a, IsPlain depth (write a)) (xs : List α) :
    IsPlain (depth + 1) (ofList write xs) :=
  .array (List.forall_mem_map.2 fun a _ => h a)

theorem IsPlain.ofOption {write : α → Json} (h : ∀ a, IsPlain depth (write a)) (o : Option α) :
    IsPlain depth (ofOption write o) := by
  cases o with
  | none => exact .null
  | some a => exact h a

theorem readValue_array (h : ∀ v ∈ items, IsRead (readValue depth) v) (index : Nat)
    (rest : List UInt8) :
    Leaves (readValue (depth + 1) ⟨index, bytesOf (text (.array items)) ++ rest⟩)
      (.array items) rest := by
  have hbytes :
      bytesOf (text (.array items)) ++ rest = 0x5B ::
        (bytesOf (itemsText items) ++ 0x5D :: rest) := by
    have hend : bytesOf [']'] = [0x5D] := rfl
    rw [text, ← List.cons_append, bytesOf_append, List.append_assoc, hend]
    rfl
  rw [hbytes]
  exact readItems_itemsText h (Nat.lt_succ_self _)

theorem readValue_object (h : ∀ e ∈ fields, IsRead (readValue depth) e.2) (hnames : InOrder fields)
    (index : Nat) (rest : List UInt8) :
    Leaves (readValue (depth + 1) ⟨index, bytesOf (text (.object fields)) ++ rest⟩)
      (.object fields) rest := by
  have hbytes :
      bytesOf (text (.object fields)) ++ rest = 0x7B ::
        (bytesOf (fieldsText fields) ++ 0x7D :: rest) := by
    have hend : bytesOf ['\x7d'] = [0x7D] := rfl
    rw [text, ← List.cons_append, bytesOf_append, List.append_assoc, hend]
    rfl
  rw [hbytes]
  exact readFields_fieldsText h hnames (Nat.lt_succ_self _)

theorem readValueWith_string (readNested : Option (Cursor → Reading Json)) (s : String)
    (index : Nat) (rest : List UInt8) :
    Leaves (readValueWith readNested ⟨index, bytesOf (text (.string s)) ++ rest⟩)
      (.string s) rest := by
  obtain ⟨tail, htail, index', hread⟩ := readString_stringText s (index + 1) rest
  rw [text, htail]
  refine ⟨index', ?_⟩
  change (readString ⟨index + 1, tail⟩).map (fun p => (Json.string p.1, p.2)) = _
  rw [hread]
  rfl

theorem readValue_eq (depth : Nat) : ∃ readNested, readValue depth = readValueWith readNested := by
  cases depth <;> exact ⟨_, rfl⟩

/-- A value is read where arrays and objects may nest as deep as they do in it. -/
theorem IsPlain.isRead (h : IsPlain depth v) : IsRead (readValue depth) v := by
  induction h with
  | @null depth =>
    obtain ⟨readNested, heq⟩ := readValue_eq depth
    rw [heq]
    exact ⟨⟨_, _, rfl, rfl, by decide⟩, fun index _ => ⟨index + 4, rfl⟩⟩
  | @bool depth b =>
    obtain ⟨readNested, heq⟩ := readValue_eq depth
    rw [heq]
    cases b with
    | true => exact ⟨⟨_, _, rfl, rfl, by decide⟩, fun index _ => ⟨index + 4, rfl⟩⟩
    | false => exact ⟨⟨_, _, rfl, rfl, by decide⟩, fun index _ => ⟨index + 5, rfl⟩⟩
  | @string depth s =>
    obtain ⟨readNested, heq⟩ := readValue_eq depth
    rw [heq]
    exact ⟨⟨_, _, rfl, rfl, by decide⟩, readValueWith_string readNested s⟩
  | array h ih => exact ⟨⟨_, _, rfl, rfl, by decide⟩, readValue_array ih⟩
  | object h hnames ih => exact ⟨⟨_, _, rfl, rfl, by decide⟩, readValue_object ih hnames⟩

/-- A value that was printed is what the text is. -/
theorem parse_compact (h : IsPlain maxDepth v) : parse (compact v) = .ok v := by
  obtain ⟨index, hread⟩ := h.isRead.reads 0 []
  rw [List.append_nil] at hread
  rw [parse, compact, utf8_ofList, ofBytes, hread]
  rfl

end TenantAuth.Json
