import TenantAuth.Proofs.Json.Ordered

/-!
Places inside a JSON value.

A way leads through the fields of objects and the items of arrays to a place, one turn after the
other. What the fields of objects are called is said of a value as a whole, for all objects at all
depths, and holds of every place in it then.
-/

namespace TenantAuth.Json

variable {v part : Json} {items : List Json} {fields : List (String × Json)}
  {p q : List String → Prop}

/-! ### All values -/

/-- What holds of a value if it holds of what the value is made of holds of every value. -/
theorem byParts {motive : Json → Prop} (null : motive .null) (bool : ∀ b, motive (.bool b))
    (number : ∀ n, motive (.number n)) (string : ∀ s, motive (.string s))
    (array : ∀ items, (∀ v ∈ items, motive v) → motive (.array items))
    (object : ∀ fields, (∀ f ∈ fields, motive f.2) → motive (.object fields))
    (v : Json) : motive v :=
  @Json.rec motive (fun items => ∀ v ∈ items, motive v) (fun fields => ∀ f ∈ fields, motive f.2)
    (fun f => motive f.2) null bool number string array object nofun
    (fun _ _ hfirst hrest => List.forall_mem_cons.2 ⟨hfirst, hrest⟩) nofun
    (fun _ _ hfirst hrest => List.forall_mem_cons.2 ⟨hfirst, hrest⟩) (fun _ _ h => h) v

mutual

/-- The names of the fields have a property, for every object that a value is or contains. -/
def NamesEverywhere (p : List String → Prop) : Json → Prop
  | .array items => NamesInItems p items
  | .object fields => p (fields.map Prod.fst) ∧ NamesInFields p fields
  | _ => True

/-- The names of fields have a property everywhere in items. -/
def NamesInItems (p : List String → Prop) : List Json → Prop
  | [] => True
  | v :: rest => NamesEverywhere p v ∧ NamesInItems p rest

/-- The names of fields have a property everywhere in the values of fields. -/
def NamesInFields (p : List String → Prop) : List (String × Json) → Prop
  | [] => True
  | (_, v) :: rest => NamesEverywhere p v ∧ NamesInFields p rest

end

theorem namesInItems_iff : NamesInItems p items ↔ ∀ v ∈ items, v.NamesEverywhere p := by
  induction items with
  | nil => simp [NamesInItems]
  | cons v rest ih => rw [NamesInItems, ih, List.forall_mem_cons]

theorem namesInFields_iff : NamesInFields p fields ↔ ∀ f ∈ fields, f.2.NamesEverywhere p := by
  induction fields with
  | nil => simp [NamesInFields]
  | cons f rest ih => rw [NamesInFields, ih, List.forall_mem_cons]

@[simp] theorem namesEverywhere_array :
    (array items).NamesEverywhere p ↔ ∀ v ∈ items, v.NamesEverywhere p := by
  rw [NamesEverywhere, namesInItems_iff]

@[simp] theorem namesEverywhere_object :
    (object fields).NamesEverywhere p ↔ p (fields.map Prod.fst) ∧ ∀ f ∈ fields,
      f.2.NamesEverywhere p := by
  rw [NamesEverywhere, namesInFields_iff]

@[simp] theorem namesEverywhere_null : null.NamesEverywhere p := by
  simp [NamesEverywhere]

@[simp] theorem namesEverywhere_bool (b : Bool) : (bool b).NamesEverywhere p := by
  simp [NamesEverywhere]

@[simp] theorem namesEverywhere_number (n : JsonNumber) : (number n).NamesEverywhere p := by
  simp [NamesEverywhere]

@[simp] theorem namesEverywhere_string (s : String) : (string s).NamesEverywhere p := by
  simp [NamesEverywhere]

theorem NamesEverywhere.mono (h : v.NamesEverywhere p) (hpq : ∀ names, p names → q names) :
    v.NamesEverywhere q := by
  induction v using byParts with
  | array items ih =>
    rw [namesEverywhere_array] at h ⊢
    exact fun v hv => ih v hv (h v hv)
  | object fields ih =>
    rw [namesEverywhere_object] at h ⊢
    exact ⟨hpq _ h.1, fun f hf => ih f hf (h.2 f hf)⟩
  | _ => simp

/-- The names are distinct in each object. -/
abbrev DistinctNames : Json → Prop := NamesEverywhere List.Nodup

/-! ### Turns and ways -/

/-- A turn on the way into a value: to the field of a name, or to the item of a number. -/
inductive Turn
  | field (name : String)
  | item (index : Nat)
  deriving DecidableEq

/-- What a turn leads to, if it leads to anything. -/
def part? : Json → Turn → Option Json
  | .array items, .item index => items[index]?
  | .object fields, .field name => field? name fields
  | _, _ => none

/-- The place that a way leads to, if it leads to one. -/
def at? (v : Json) : List Turn → Option Json
  | [] => some v
  | turn :: way => (v.part? turn).bind (at? · way)

variable {turn : Turn}

theorem part?_array : (array items).part? turn = some part ↔
    ∃ index, turn = .item index ∧ items[index]? = some part := by
  cases turn <;> simp [part?]

theorem part?_object : (object fields).part? turn = some part ↔
    ∃ name, turn = .field name ∧ fields.lookup name = some part := by
  cases turn <;> simp [part?, field?]

/-- Only arrays and objects have parts. -/
theorem part?_of_scalar (harray : ∀ items, v ≠ array items) (hobject : ∀ fields, v ≠ object fields)
    (turn : Turn) : v.part? turn = none := by
  cases v with
  | array items => exact absurd rfl (harray items)
  | object fields => exact absurd rfl (hobject fields)
  | _ => rfl

/-- What holds of a value if it holds of its parts holds of every value. -/
theorem partsInduction {motive : Json → Prop}
    (step : ∀ v, (∀ turn part, v.part? turn = some part → motive part) → motive v) (v : Json) :
    motive v := by
  induction v using byParts with
  | array items ih =>
    refine step _ fun turn part hpart => ?_
    obtain ⟨index, -, hitem⟩ := part?_array.1 hpart
    exact ih part (List.mem_of_getElem? hitem)
  | object fields ih =>
    refine step _ fun turn part hpart => ?_
    obtain ⟨name, -, hfield⟩ := part?_object.1 hpart
    exact ih _ (mem_of_lookup hfield)
  | _ => exact step _ nofun

/-- What holds of the names everywhere in a value holds of those everywhere in a part of it. -/
theorem NamesEverywhere.of_part (h : v.NamesEverywhere p) (hpart : v.part? turn = some part) :
    part.NamesEverywhere p := by
  cases v with
  | array items =>
    obtain ⟨index, -, hitem⟩ := part?_array.1 hpart
    exact namesEverywhere_array.1 h part (List.mem_of_getElem? hitem)
  | object fields =>
    obtain ⟨name, -, hfield⟩ := part?_object.1 hpart
    exact (namesEverywhere_object.1 h).2 _ (mem_of_lookup hfield)
  | _ => exact absurd hpart nofun

end TenantAuth.Json
