import TenantAuth.Proofs.Json.Reading

/-!
What the settings of a tenant hold.

A setting is a leaf of the value that settings are given as, and its key is the way to the leaf. As
long as no name of a field is empty or has a colon in it, the way can be read off the key again. So
no two leaves fall under one key, and the settings are just the leaves, without the one that lists
what is encrypted.
-/

namespace TenantAuth

/-- The segment of a key for a turn: the name of the field, or the numeral of the item. -/
def Json.Turn.text : Turn → String
  | .field name => name
  | .item index => String.ofList (Text.numeral index)

/-- No name is empty or has a colon in it, in any object of a value. -/
abbrev Json.PlainNames : Json → Prop :=
    NamesEverywhere fun names => ∀ name ∈ names, name ≠ "" ∧ ':' ∉ name.toList

namespace Settings

open Json (Turn)

variable {v : Json} {items : List Json} {fields : List (String × Json)} {way way' : List Turn}
  {key name text : String} {e : String × String}

/-- The text of a leaf. Null and the empty text are no settings, and arrays and objects are no
leaves. -/
def leafText? : Json → Option String
  | .string s => if s = "" then none else some s
  | .bool b => some (Json.compact (.bool b))
  | .number n => some (Json.compact (.number n))
  | _ => none

/-- The text of the leaf at the end of a way. -/
def textAt? (root : Json) (way : List Turn) : Option String := (root.at? way).bind leafText?

/-- The key of a way. -/
def pathKey (way : List Turn) : String := ":".intercalate (way.map Turn.text)

/-- The way to the list of encrypted keys. -/
def encryptedWay : List Turn := [.field encryptedKey]

/-- A key is a piece of a text that is cut at spaces, commas and semicolons, and not an empty
one. -/
def Lists (text key : String) : Prop := key ≠ "" ∧ key.toList ∈ text.toList.splitOnP isSeparator

/-- The settings are the leaves of a value, each of them under the key of its way, but for the list
of encrypted keys, which says what is encrypted. -/
structure HoldsLeaves (root : Json) (settings : Settings) : Prop where
  /-- Each key stands once. -/
  inOrder : InOrder settings.entries
  /-- What is found is what is held. -/
  get?_iff : ∀ key setting, settings.get? key = some setting ↔ (key, setting) ∈ settings.entries
  /-- No leaf is lost, and nothing else is held. -/
  mem_iff : ∀ key setting, (key, setting) ∈ settings.entries ↔
    ∃ way, way ≠ encryptedWay ∧ textAt? root way = some setting.value ∧ key = pathKey way ∧
      (setting.isEncrypted = true ↔ ∃ list, textAt? root encryptedWay = some list ∧ Lists list key)
  /-- Different leaves have different keys. -/
  key_injective : ∀ way way' text text', textAt? root way = some text →
    textAt? root way' = some text' → pathKey way = pathKey way' → way = way'

/-! ### Leaves and ways -/

/-- The key of one turn more. -/
def keyBelow (above : String) : Turn → String
  | .field name => fieldKey above name
  | .item index => itemKey above index

theorem mem_fieldLeaves :
    e ∈ fieldLeaves key fields ↔ ∃ f ∈ fields, e ∈ leaves (fieldKey key f.1) f.2 := by
  induction fields with
  | nil => simp [fieldLeaves]
  | cons f rest ih => simp only [fieldLeaves, List.mem_append, ih, List.mem_cons, exists_eq_or_imp]

theorem mem_itemLeaves {first : Nat} : e ∈ itemLeaves key first items ↔
    ∃ index v, items[index]? = some v ∧ e ∈ leaves (itemKey key (first + index)) v := by
  induction items generalizing first with
  | nil => simp [itemLeaves]
  | cons v rest ih =>
    rw [itemLeaves, List.mem_append, ih]
    constructor
    · rintro (he | ⟨index, w, hitem, he⟩)
      · exact ⟨0, v, rfl, he⟩
      · refine ⟨index + 1, w, hitem, ?_⟩
        rwa [Nat.add_comm index, ← Nat.add_assoc]
    · rintro ⟨_ | index, w, hitem, he⟩
      · obtain rfl : v = w := by simpa using hitem
        exact Or.inl he
      · refine Or.inr ⟨index, w, hitem, ?_⟩
        rwa [Nat.add_assoc, Nat.add_comm 1]

theorem textAt?_cons {turn : Turn} : textAt? v (turn :: way) = some text ↔
    ∃ part, v.part? turn = some part ∧ textAt? part way = some text := by
  rw [textAt?, Json.at?, Option.bind_assoc, Option.bind_eq_some_iff]
  rfl

/-- A value that is neither an array nor an object holds its own text, if it is a leaf. -/
theorem leaves_of_scalar (harray : ∀ items, v ≠ .array items)
    (hobject : ∀ fields, v ≠ .object fields) :
    leaves key v = ((leafText? v).map (Prod.mk key)).toList := by
  cases v with
  | null => simp [leaves, leafText?]
  | bool b => cases b <;> rfl
  | number n => rfl
  | string s =>
    rw [leaves, leafText?]
    split <;> rfl
  | array items => exact absurd rfl (harray items)
  | object fields => exact absurd rfl (hobject fields)

/-- What a value holds is its own text, if it is a leaf, and what its parts hold, below the keys of
the turns. -/
theorem mem_leaves_iff (h : v.DistinctNames) :
    e ∈ leaves key v ↔ leafText? v = some e.2 ∧ e.1 = key ∨
      ∃ turn part, v.part? turn = some part ∧ e ∈ leaves (keyBelow key turn) part := by
  have hscalar {v : Json} (harray : ∀ items, v ≠ .array items)
      (hobject : ∀ fields, v ≠ .object fields) :
      e ∈ leaves key v ↔ leafText? v = some e.2 ∧ e.1 = key ∨
        ∃ turn part, v.part? turn = some part ∧ e ∈ leaves (keyBelow key turn) part := by
    rw [leaves_of_scalar harray hobject]
    cases leafText? v <;>
      simp [Json.part?_of_scalar harray hobject, Prod.ext_iff, and_comm, eq_comm]
  cases v with
  | array items =>
    simp only [leaves, mem_itemLeaves, Json.part?_array, leafText?, Nat.zero_add]
    constructor
    · rintro ⟨index, part, hitem, he⟩
      exact Or.inr ⟨.item index, part, ⟨index, rfl, hitem⟩, he⟩
    · rintro (⟨⟨⟩, -⟩ | ⟨_, part, ⟨index, rfl, hitem⟩, he⟩)
      exact ⟨index, part, hitem, he⟩
  | object fields =>
    have hnames := (Json.namesEverywhere_object.1 h).1
    simp only [leaves, mem_fieldLeaves, Json.part?_object, lookup_eq_some_of_nodup hnames,
      leafText?]
    constructor
    · rintro ⟨f, hf, he⟩
      exact Or.inr ⟨.field f.1, f.2, ⟨f.1, rfl, hf⟩, he⟩
    · rintro (⟨⟨⟩, -⟩ | ⟨_, part, ⟨name, rfl, hf⟩, he⟩)
      exact ⟨(name, part), hf, he⟩
  | _ => exact hscalar nofun nofun

/-- The leaves below a key are those at the end of a way, each with the key of the way. -/
theorem mem_leaves (h : v.DistinctNames) (key : String) :
    e ∈ leaves key v ↔ ∃ way, textAt? v way = some e.2 ∧ e.1 = way.foldl keyBelow key := by
  -- the key grows with each turn into the value
  induction v using Json.partsInduction generalizing key with
  | step v ih =>
    rw [mem_leaves_iff h]
    constructor
    · rintro (⟨htext, hkey⟩ | ⟨turn, part, hpart, he⟩)
      · exact ⟨[], htext, hkey⟩
      · obtain ⟨way, htext, hkey⟩ := (ih turn part hpart (h.of_part hpart) _).1 he
        exact ⟨turn :: way, textAt?_cons.2 ⟨part, hpart, htext⟩, hkey⟩
    · rintro ⟨_ | ⟨turn, way⟩, htext, hkey⟩
      · exact Or.inl ⟨htext, hkey⟩
      · obtain ⟨part, hpart, htext⟩ := textAt?_cons.1 htext
        exact Or.inr
          ⟨turn, part, hpart, (ih turn part hpart (h.of_part hpart) _).2 ⟨way, htext, hkey⟩⟩

/-! ### Ways and keys -/

/-- Numerals say which number they are of. -/
theorem numeral_injective : Function.Injective Text.numeral := fun m n h => by
  have hvalue := congrArg (Nat.ofDigitChars 10 · 0) h
  simpa only [Text.numeral, Nat.ofDigitChars_ten_toDigits] using hvalue

/-- Turns to different parts of a value have different segments. -/
theorem turn_eq {turn turn' : Turn} {part part' : Json} (h : v.part? turn = some part)
    (h' : v.part? turn' = some part') (htext : turn.text = turn'.text) : turn = turn' := by
  cases v with
  | array items =>
    obtain ⟨index, rfl, -⟩ := Json.part?_array.1 h
    obtain ⟨index', rfl, -⟩ := Json.part?_array.1 h'
    exact congrArg Turn.item (numeral_injective (String.ofList_injective htext))
  | object fields =>
    obtain ⟨name, rfl, -⟩ := Json.part?_object.1 h
    obtain ⟨name', rfl, -⟩ := Json.part?_object.1 h'
    exact congrArg Turn.field htext
  | _ => exact absurd h nofun

/-- Ways to leaves of a value are told apart by their segments. -/
theorem way_eq (h : textAt? v way = some text) (h' : textAt? v way' = some text')
    (hsegments : way.map Turn.text = way'.map Turn.text) : way = way' := by
  induction way generalizing v way' with
  | nil => exact (List.map_eq_nil_iff.1 hsegments.symm).symm
  | cons turn rest ih =>
    obtain ⟨turn', rest', rfl, hturn, hrest⟩ := List.map_eq_cons_iff.1 hsegments.symm
    obtain ⟨part, hpart, h⟩ := textAt?_cons.1 h
    obtain ⟨part', hpart', h'⟩ := textAt?_cons.1 h'
    obtain rfl := turn_eq hpart hpart' hturn.symm
    obtain rfl : part = part' := Option.some.inj (hpart.symm.trans hpart')
    rw [ih h h' hrest.symm]

/-- The segment of a turn in a value with plain names is plain. -/
theorem colon_notMem_text {turn : Turn} {part : Json} (h : v.PlainNames)
    (hpart : v.part? turn = some part) : ':' ∉ turn.text.toList := by
  cases v with
  | array items =>
    obtain ⟨index, rfl, -⟩ := Json.part?_array.1 hpart
    rw [Turn.text, String.toList_ofList]
    exact fun hcolon => absurd (Nat.isDigit_of_mem_toDigits (by decide) (by decide) hcolon)
      (by decide)
  | object fields =>
    obtain ⟨name, rfl, hfield⟩ := Json.part?_object.1 hpart
    exact ((Json.namesEverywhere_object.1 h).1 name (List.mem_map_of_mem (mem_of_lookup hfield))).2
  | _ => exact absurd hpart nofun

theorem colon_notMem_of_mem (h : v.PlainNames) (hway : textAt? v way = some text) :
    ∀ segment ∈ way.map Turn.text, ':' ∉ segment.toList := by
  induction way generalizing v with
  | nil => nofun
  | cons turn rest ih =>
    obtain ⟨part, hpart, hrest⟩ := textAt?_cons.1 hway
    exact List.forall_mem_cons.2 ⟨colon_notMem_text h hpart, ih (h.of_part hpart) hrest⟩

/-- What is joined by colons comes back by cutting at them. -/
theorem segments_eq {segments segments' : List String} (h : ∀ s ∈ segments, ':' ∉ s.toList)
    (hne : segments ≠ []) (h' : ∀ s ∈ segments', ':' ∉ s.toList) (hne' : segments' ≠ [])
    (heq : ":".intercalate segments = ":".intercalate segments') : segments = segments' := by
  have hsplit {segments : List String} (h : ∀ s ∈ segments, ':' ∉ s.toList) (hne : segments ≠ []) :
      (":".intercalate segments).toList.splitOn ':' = segments.map String.toList := by
    rw [String.toList_intercalate]
    exact List.splitOn_intercalate ':' (List.forall_mem_map.2 h) (by simpa using hne)
  refine (List.map_inj_right fun _ _ => String.toList_inj.1).1 ?_
  rw [← hsplit h hne, ← hsplit h' hne', heq]

/-- Below a key that is not empty, each turn puts its segment behind a colon. -/
theorem keyBelow_of_ne (h : key ≠ "") (turn : Turn) :
    keyBelow key turn = key ++ ":" ++ turn.text := by
  cases turn with
  | field name => exact if_neg h
  | item index => rfl

theorem foldl_keyBelow (h : key ≠ "") (way : List Turn) :
    way.foldl keyBelow key = ":".intercalate (key :: way.map Turn.text) := by
  induction way generalizing key with
  | nil => exact String.intercalate_singleton.symm
  | cons turn rest ih =>
    have hbelow : keyBelow key turn ≠ "" := by
      rw [keyBelow_of_ne h]
      simp
    rw [List.foldl_cons, ih hbelow, keyBelow_of_ne h, String.intercalate_cons_append, List.map_cons,
      String.intercalate_cons_cons]

/-! ### The settings of an object -/

section Object

variable (hdistinct : (Json.object fields).DistinctNames) (hplain : (Json.object fields).PlainNames)

/-- The way to a leaf of an object starts with the name of a field. -/
theorem way_eq_cons (h : textAt? (.object fields) way = some text) :
    ∃ name rest, way = .field name :: rest ∧ name ∈ fields.map Prod.fst := by
  cases way with
  | nil => exact absurd h nofun
  | cons turn rest =>
    obtain ⟨part, hpart, -⟩ := textAt?_cons.1 h
    obtain ⟨name, rfl, hfield⟩ := Json.part?_object.1 hpart
    exact ⟨name, rest, rfl, List.mem_map_of_mem (mem_of_lookup hfield)⟩

include hplain

/-- At the top there is nothing to join, so the key is that of the way. -/
theorem foldl_keyBelow_top (h : textAt? (.object fields) way = some text) :
    way.foldl keyBelow "" = pathKey way := by
  obtain ⟨name, rest, rfl, hname⟩ := way_eq_cons h
  exact foldl_keyBelow ((Json.namesEverywhere_object.1 hplain).1 name hname).1 rest

theorem pathKey_injective (h : textAt? (.object fields) way = some text)
    (h' : textAt? (.object fields) way' = some text') (heq : pathKey way = pathKey way') :
    way = way' := by
  refine way_eq h h'
    (segments_eq (colon_notMem_of_mem hplain h) ?_ (colon_notMem_of_mem hplain h') ?_ heq)
  · obtain ⟨name, rest, rfl, -⟩ := way_eq_cons h
    exact List.cons_ne_nil _ _
  · obtain ⟨name, rest, rfl, -⟩ := way_eq_cons h'
    exact List.cons_ne_nil _ _

/-- Only the way to the list of encrypted keys has the key of the list. -/
theorem pathKey_eq_encryptedKey (h : textAt? (.object fields) way = some text) :
    pathKey way = encryptedKey ↔ way = encryptedWay := by
  obtain ⟨name, rest, rfl, -⟩ := way_eq_cons h
  constructor
  · intro hkey
    -- the key of the list has no colon in it, so it is the only segment
    have hencrypted : ":".intercalate [encryptedKey] = encryptedKey := String.intercalate_singleton
    have hsegments := segments_eq (colon_notMem_of_mem hplain h) (List.cons_ne_nil _ _)
      (by decide) (List.cons_ne_nil _ []) (hkey.trans hencrypted.symm)
    obtain ⟨rfl, hrest⟩ := List.cons.inj hsegments
    rw [List.map_eq_nil_iff.1 hrest]
    rfl
  · intro hway
    rw [hway]
    exact String.intercalate_singleton

include hdistinct

/-- The texts under the keys are those of the leaves under the keys of the ways to them. -/
theorem mem_texts : e ∈ placed (fieldLeaves "" fields) ↔
    ∃ way, textAt? (.object fields) way = some e.2 ∧ e.1 = pathKey way := by
  have hleaves (e : String × String) : e ∈ fieldLeaves "" fields ↔
      ∃ way, textAt? (.object fields) way = some e.2 ∧ e.1 = pathKey way := by
    refine (mem_leaves hdistinct "").trans (exists_congr fun way => and_congr_right fun htext => ?_)
    rw [foldl_keyBelow_top hplain htext]
  -- nothing is replaced where it is put, since leaves with one key are one leaf
  refine (mem_placed fun e he f hf hkeys => ?_).trans (hleaves e)
  obtain ⟨way, htext, hkey⟩ := (hleaves e).1 he
  obtain ⟨way', htext', hkey'⟩ := (hleaves f).1 hf
  obtain rfl := pathKey_injective hplain htext htext' (by rw [← hkey, ← hkey', hkeys])
  exact Prod.ext hkeys (Option.some.inj (htext.symm.trans htext'))

/-- What is found under the key of the list of encrypted keys is the text of the leaf there. -/
theorem lookup_encryptedKey :
    (placed (fieldLeaves "" fields)).lookup encryptedKey =
      textAt? (.object fields) encryptedWay := by
  refine Option.ext fun text => ?_
  rw [lookup_eq_some_of_nodup (inOrder_placed _).nodup, mem_texts hdistinct hplain]
  constructor
  · rintro ⟨way, htext, hkey⟩
    rwa [(pathKey_eq_encryptedKey hplain htext).1 hkey.symm] at htext
  · intro htext
    exact ⟨encryptedWay, htext, ((pathKey_eq_encryptedKey hplain htext).2 rfl).symm⟩

end Object

/-! ### The list of encrypted keys -/

theorem listedKeys_go (piece cs : List Char) :
    listedKeys.go piece cs = cs.splitOnPPrepend isSeparator piece := by
  induction cs generalizing piece with
  | nil => rfl
  | cons c rest ih => rw [listedKeys.go, List.splitOnPPrepend, ih, ih]

theorem mem_listedKeys : key ∈ listedKeys text.toList ↔ Lists text key := by
  have hpieces : listedKeys.go [] text.toList = text.toList.splitOnP isSeparator :=
    listedKeys_go _ _
  simp only [listedKeys, hpieces, List.mem_map, List.mem_filter, Bool.not_eq_true',
    List.isEmpty_eq_false_iff]
  constructor
  · rintro ⟨piece, ⟨hpiece, hne⟩, rfl⟩
    refine ⟨fun hempty => hne ?_, by rwa [String.toList_ofList]⟩
    rw [← String.toList_ofList (l := piece), hempty, String.toList_empty]
  · rintro ⟨hne, hpiece⟩
    exact ⟨key.toList, ⟨hpiece, mt String.toList_eq_nil_iff.1 hne⟩, String.ofList_toList⟩

/-- A list that is missing lists nothing. -/
theorem mem_listedKeys_getD {list : Option String} :
    key ∈ listedKeys (list.getD "").toList ↔ ∃ text, list = some text ∧ Lists text key := by
  rw [mem_listedKeys]
  cases list with
  | none => simp [Lists]
  | some text => simp

/-! ### The settings are the leaves -/

/-- A text under its key as a setting, marked as encrypted if the list has its key. -/
def marked (list : Option String) (e : String × String) : String × Setting :=
  (e.1, ⟨e.2, (listedKeys (list.getD "").toList).contains e.1⟩)

theorem ofJson_object (fields : List (String × Json)) : ofJson (.object fields) =
    .ok ⟨((placed (fieldLeaves "" fields)).filter fun e => e.1 ≠ encryptedKey).map
      (marked ((placed (fieldLeaves "" fields)).lookup encryptedKey))⟩ := by
  have htable : (fieldLeaves "" fields).foldl (fun t e => TextTable.insert t e.1 e.2) [] =
      placed (fieldLeaves "" fields) := by
    simp only [TextTable.insert_eq_place]
    rfl
  rw [ofJson, htable]
  rfl

/-- The settings of an object with plain names are its leaves. -/
theorem holdsLeaves_of_ofJson (hdistinct : (Json.object fields).DistinctNames)
    (hplain : (Json.object fields).PlainNames) {settings : Settings}
    (h : ofJson (.object fields) = .ok settings) :
    HoldsLeaves (.object fields) settings := by
  rw [ofJson_object, lookup_encryptedKey hdistinct hplain] at h
  obtain rfl := Except.ok.inj h
  have hordered : InOrder (((placed (fieldLeaves "" fields)).filter fun e => e.1 ≠ encryptedKey).map
      (marked (textAt? (.object fields) encryptedWay))) :=
    List.pairwise_map.2 ((inOrder_placed _).filter _)
  refine ⟨hordered, fun key setting => lookup_eq_some_of_nodup hordered.nodup,
    fun key setting => ?_, fun way way' text text' => pathKey_injective hplain⟩
  simp only [List.mem_map, List.mem_filter, mem_texts hdistinct hplain, decide_eq_true_eq]
  constructor
  · rintro ⟨e, ⟨⟨way, htext, hkey⟩, hne⟩, ⟨⟩⟩
    refine ⟨way, fun hway => hne ?_, htext, hkey, ?_⟩
    · exact hkey.trans ((pathKey_eq_encryptedKey hplain htext).2 hway)
    · exact List.contains_iff_mem.trans mem_listedKeys_getD
  · rintro ⟨way, hway, htext, hkey, hencrypted⟩
    refine ⟨(key, setting.value), ⟨⟨way, htext, hkey⟩, fun hlist => hway ?_⟩, ?_⟩
    · exact (pathKey_eq_encryptedKey hplain htext).1 (hkey.symm.trans hlist)
    · have hmark := (List.contains_iff_mem.trans mem_listedKeys_getD).trans hencrypted.symm
      rw [marked, Bool.eq_iff_iff.2 hmark]

/-- Settings neither lose nor invent nor mislabel a leaf. This holds of every value that an object
may be, however deep; how deep a text may nest is a matter of reading it, and in what is read the
names are distinct. -/
theorem exactly_leaves :
    (∀ text v, Json.parse text = .ok v → v.DistinctNames ∧ ofText text = ofJson v) ∧
      ∀ fields, (Json.object fields).DistinctNames → (Json.object fields).PlainNames →
        ∃ settings, ofJson (.object fields) = .ok settings ∧
        HoldsLeaves (.object fields) settings := by
  refine ⟨fun text v h => ⟨(Json.orderedNames_of_parse h).distinct, ?_⟩,
    fun fields hdistinct hplain => ?_⟩
  · rw [ofText, h]
  · have hread := ofJson_object fields
    exact ⟨_, hread, holdsLeaves_of_ofJson hdistinct hplain hread⟩

/-- A text is read, and of two items the one that is listed is encrypted. -/
theorem exactly_leaves_sample :
    (∃ settings, ofText "\x7b\"A\":[7]\x7d" = .ok settings ∧
      HoldsLeaves (.object [("A", .array [.number (.whole 7)])]) settings) ∧
      ∃ settings, ofJson (.object [("A", .array [.bool true, .string "x"]),
          (encryptedKey, .string "B;A:1")]) = .ok settings ∧
        settings.get? "A:0" = some ⟨"true", false⟩ ∧
        settings.get? "A:1" = some ⟨"x", true⟩ := by
  constructor
  · have hbytes :
        Text.utf8 "\x7b\"A\":[7]\x7d" = [0x7B, 0x22, 0x41, 0x22, 0x3A, 0x5B, 0x37, 0x5D, 0x7D] := by
      decide +kernel
    have hread :
        Json.parse "\x7b\"A\":[7]\x7d" = .ok (.object [("A", .array [.number (.whole 7)])]) := by
      rw [Json.parse, hbytes]
      rfl
    obtain ⟨hdistinct, htext⟩ := exactly_leaves.1 _ _ hread
    obtain ⟨settings, hsettings, hholds⟩ := exactly_leaves.2 _ hdistinct (by simp)
    exact ⟨settings, htext.trans hsettings, hholds⟩
  · obtain ⟨settings, hsettings, hholds⟩ := exactly_leaves.2
      [("A", .array [.bool true, .string "x"]), (encryptedKey, .string "B;A:1")]
      (by simp [encryptedKey]) (by simp; decide)
    have hkept :=
      fun key setting => (hholds.get?_iff key setting).trans (hholds.mem_iff key setting)
    refine ⟨settings, hsettings, (hkept _ _).2 ?_, (hkept _ _).2 ?_⟩
    · refine ⟨[.field "A", .item 0], by decide, rfl, by decide, iff_of_false (by decide) ?_⟩
      rintro ⟨_, ⟨⟩, -, hlisted⟩
      exact absurd hlisted (by decide)
    · have hlisted : Lists "B;A:1" "A:1" := ⟨by decide, by decide⟩
      exact ⟨[.field "A", .item 1], by decide, rfl, by decide, iff_of_true rfl ⟨_, rfl, hlisted⟩⟩

end Settings

end TenantAuth
