import Mathlib.Data.List.Nodup
import TenantAuth.Json.Record
import TenantAuth.Proofs.Json.Ordered

/-!
Records, choices and options that were written are read back.

The fields of a record stand in the order of their names and not in that in which they were given,
so that what is read of a field is said by what was given under its name. Whoever reads a record
uses these rules only, one for each field.
-/

namespace TenantAuth

variable {α : Type} {entries : List (String × α)} {name tag : String} {value : α}

/-- Where each name is given once, nothing else is found under it once things are in their
places. -/
theorem lookup_placed (h : (entries.map Prod.fst).Nodup) (hmem : (name, value) ∈ entries) :
    (placed entries).lookup name = some value := by
  have hone : ∀ e ∈ entries, ∀ f ∈ entries, e.1 = f.1 → e = f :=
    fun e he f hf => List.inj_on_of_nodup_map h he hf
  exact (lookup_eq_some_of_nodup (inOrder_placed entries).nodup).2 ((mem_placed hone).2 hmem)

/-- What stands under other names is found without what stands under one. -/
theorem lookup_filter_ne (list : List (String × α)) (h : name ≠ tag) :
    (list.filter fun e => e.1 != tag).lookup name = list.lookup name := by
  induction list with
  | nil => rfl
  | cons e rest ih =>
    obtain ⟨n, v⟩ := e
    by_cases htag : n = tag
    · have hother : (name == n) = false := by simpa [htag] using h
      rw [List.filter_cons_of_neg (by simp [htag]), ih, List.lookup_cons, hother]
    · rw [List.filter_cons_of_pos (by simp [htag]), List.lookup_cons, List.lookup_cons, ih]

namespace Json

variable {fields entries : List (String × Json)} {v : Json} {read : Json → Option α}
  {write : α → Json} {a : α}

/-- The object of fields has them in their places. -/
theorem ofFields_eq (entries : List (String × Json)) :
    ofFields entries = .object (placed entries) := by
  rw [ofFields, placed]
  simp only [insertField_eq_place]

/-- A record that was written has the fields that were given. -/
theorem record_of_ofFields (hv : v = ofFields entries) (h : (entries.map Prod.fst).Nodup) :
    ∃ fields,
      (∀ names, record? names v = some fields) ∧ ∀ e ∈ entries, fields.lookup e.1 = some e.2 := by
  rw [hv, ofFields_eq]
  exact ⟨placed entries, fun _ => rfl, fun _ he => lookup_placed h he⟩

/-- A choice that was written has its tag, and the other fields that were given. -/
theorem tagged_of_ofFields {t : String} (hv : v = ofFields ((tag, .string t) :: entries))
    (h : (((tag, Json.string t) :: entries).map Prod.fst).Nodup) :
    ∃ body fields, tagged? tag v = some (t, body) ∧ (∀ names, record? names body = some fields) ∧
      ∀ e ∈ entries, fields.lookup e.1 = some e.2 := by
  refine ⟨.object ((placed ((tag, .string t) :: entries)).filter fun f => f.1 != tag), _, ?_,
    fun _ => rfl, fun e he => ?_⟩
  · rw [hv, ofFields_eq, tagged?, lookup_placed h List.mem_cons_self]
  · have hother : e.1 ≠ tag := by
      have hname : e.1 ∈ entries.map Prod.fst := List.mem_map_of_mem he
      rintro rfl
      exact (List.nodup_cons.1 h).1 hname
    rw [lookup_filter_ne _ hother, lookup_placed h (List.mem_cons_of_mem _ he)]

/-- A field that is there is read. -/
theorem required?_of_lookup (hlookup : fields.lookup name = some v) (hread : read v = some a) :
    required? read name fields = some a := by
  rw [required?, hlookup]
  exact hread

/-- An optional field that was written is read, if what is there is not written as null. -/
theorem optional?_of_lookup {o : Option α} (hlookup : fields.lookup name = some (ofOption write o))
    (hread : ∀ a ∈ o, read (write a) = some a) (hnull : ∀ a ∈ o, write a ≠ .null) :
    optional? read name fields = some o := by
  rw [optional?, hlookup]
  cases o with
  | none => rfl
  | some a =>
    have hvalue := hnull a rfl
    change nullable? read (write a) = some (some a)
    unfold nullable?
    split
    · rename_i heq
      exact absurd heq hvalue
    · rw [hread a rfl]
      rfl

/-- A list that was written is read, if its items are. -/
theorem list?_ofList {xs : List α} (h : ∀ a ∈ xs, read (write a) = some a) :
    list? read (ofList write xs) = some xs := by
  rw [ofList, list?]
  induction xs with
  | nil => rfl
  | cons a rest ih =>
    rw [List.map_cons, List.mapM_cons, h a List.mem_cons_self, ih fun b hb => h b
      (List.mem_cons_of_mem _ hb)]
    rfl

/-- What was read of an optional field was read of a value. -/
theorem exists_of_optional? (h : optional? read name fields = some (some a)) :
    ∃ v, read v = some a := by
  unfold optional? at h
  split at h
  · cases h
  · unfold nullable? at h
    split at h
    · cases h
    · obtain ⟨_, hread, heq⟩ := Option.map_eq_some_iff.1 h
      obtain rfl := Option.some.inj heq
      exact ⟨_, hread⟩

/-- What was read of a field that has to be there was read of a value. -/
theorem exists_of_required? (h : required? read name fields = some a) : ∃ v, read v = some a := by
  obtain ⟨v, -, hread⟩ := Option.bind_eq_some_iff.1 h
  exact ⟨v, hread⟩

end Json

end TenantAuth
