import Mathlib.Data.List.Induction
import TenantAuth.Settings

/-!
Lists of things under names, in the order of the names.

Settings and the fields of objects are held so, and both come about by putting one thing after the
other in its place. Each name stands once then, and under it what was put there last.
-/

namespace TenantAuth

variable {α : Type} {list entries : List (String × α)} {name : String} {value : α} {e : String × α}

/-- Names stand in order, each of them once. -/
abbrev InOrder (list : List (String × α)) : Prop := list.Pairwise fun e f => e.1 < f.1

/-- Put something in the place of its name, or of what was there under it. -/
def place (name : String) (value : α) : List (String × α) → List (String × α)
  | [] => [(name, value)]
  | (n, v) :: rest =>
    if name = n then (name, value) :: rest
    else if name < n then (name, value) :: (n, v) :: rest
    else (n, v) :: place name value rest

theorem TextTable.insert_eq_place (table : TextTable) (key text : String) :
    table.insert key text = place key text table := by
  induction table with
  | nil => rfl
  | cons entry rest ih => rw [TextTable.insert, place, ih]

theorem Json.insertField_eq_place (name : String) (value : Json) (fields : List (String × Json)) :
    insertField name value fields = place name value fields := by
  induction fields with
  | nil => rfl
  | cons field rest ih => rw [insertField, place, ih]

/-- Names that are different and not in order one way are in order the other way. -/
theorem lt_of_not_lt {name other : String} (hne : name ≠ other) (hlt : ¬name < other) :
    other < name := by
  refine Classical.byContradiction fun hnot => hne ?_
  exact String.le_antisymm (String.not_lt.1 hnot) (String.not_lt.1 hlt)

theorem InOrder.ne_of_mem {rest : List (String × α)} (h : InOrder ((name, value) :: rest))
    (he : e ∈ rest) : e.1 ≠ name := by
  intro heq
  have hlt := (List.pairwise_cons.1 h).1 e he
  rw [heq] at hlt
  exact String.lt_irrefl _ hlt

/-- What was put in place is there, and what was there under another name. -/
theorem mem_place (h : InOrder list) : e ∈ place name value list ↔
    e = (name, value) ∨ e ∈ list ∧ e.1 ≠ name := by
  induction list with
  | nil => simp [place]
  | cons entry rest ih =>
    obtain ⟨n, v⟩ := entry
    have hrest := ih h.of_cons
    have hlater : ∀ f ∈ rest, f.1 ≠ n := fun f hf => h.ne_of_mem hf
    rw [place]
    split
    · rename_i heq
      subst heq
      rw [List.mem_cons, List.mem_cons]
      constructor
      · rintro (rfl | he)
        · exact Or.inl rfl
        · exact Or.inr ⟨Or.inr he, hlater e he⟩
      · rintro (rfl | ⟨rfl | he, hne⟩)
        · exact Or.inl rfl
        · exact absurd rfl hne
        · exact Or.inr he
    · rename_i hne
      split
      · rename_i hlt
        rw [List.mem_cons]
        refine or_congr_right (Iff.symm (and_iff_left_of_imp fun he heq => ?_))
        rcases List.mem_cons.1 he with rfl | he
        · exact hne heq.symm
        · have hbefore := (List.pairwise_cons.1 h).1 e he
          rw [heq] at hbefore
          exact String.lt_irrefl _ (String.lt_trans hlt hbefore)
      · rw [List.mem_cons, List.mem_cons, hrest]
        constructor
        · rintro (rfl | rfl | ⟨he, hname⟩)
          · exact Or.inr ⟨Or.inl rfl, Ne.symm hne⟩
          · exact Or.inl rfl
          · exact Or.inr ⟨Or.inr he, hname⟩
        · rintro (rfl | ⟨rfl | he, hname⟩)
          · exact Or.inr (Or.inl rfl)
          · exact Or.inl rfl
          · exact Or.inr (Or.inr ⟨he, hname⟩)

/-- Names stay in order when something is put in its place. -/
theorem InOrder.place (h : InOrder list) (name : String) (value : α) :
    InOrder (place name value list) := by
  induction list with
  | nil => exact List.pairwise_singleton _ _
  | cons entry rest ih =>
    obtain ⟨n, v⟩ := entry
    obtain ⟨hfirst, hrest⟩ := List.pairwise_cons.1 h
    rw [TenantAuth.place]
    split
    · rename_i heq
      subst heq
      exact List.pairwise_cons.2 ⟨hfirst, hrest⟩
    · rename_i hne
      split
      · rename_i hlt
        refine List.pairwise_cons.2 ⟨fun e he => ?_, h⟩
        rcases List.mem_cons.1 he with rfl | he
        · exact hlt
        · exact String.lt_trans hlt (hfirst e he)
      · rename_i hnot
        refine List.pairwise_cons.2 ⟨fun e he => ?_, ih hrest⟩
        rcases (mem_place hrest).1 he with rfl | ⟨he, -⟩
        · exact lt_of_not_lt hne hnot
        · exact hfirst e he

theorem InOrder.nodup (h : InOrder list) : (list.map Prod.fst).Nodup := by
  rw [List.Nodup, List.pairwise_map]
  refine h.imp fun {e f} hlt heq => ?_
  rw [heq] at hlt
  exact String.lt_irrefl _ hlt

/-- What is found under a name stands there. -/
theorem mem_of_lookup (h : list.lookup name = some value) : (name, value) ∈ list := by
  obtain ⟨before, after, rfl, -⟩ := List.lookup_eq_some_iff.1 h
  exact List.mem_append_right _ List.mem_cons_self

/-- Where each name stands once, what stands under a name is found there. -/
theorem lookup_eq_some_of_nodup (h : (list.map Prod.fst).Nodup) :
    list.lookup name = some value ↔ (name, value) ∈ list := by
  refine ⟨mem_of_lookup, fun he => ?_⟩
  obtain ⟨before, after, rfl⟩ := List.append_of_mem he
  refine List.lookup_eq_some_iff.2 ⟨before, after, rfl, fun f hf => ?_⟩
  rw [List.map_append, List.nodup_append] at h
  have hne : f.1 ≠ name := h.2.2 f.1 (List.mem_map_of_mem hf) name List.mem_cons_self
  simpa using hne.symm

/-- Put things in their places, one after the other. -/
def placed (entries : List (String × α)) : List (String × α) :=
  entries.foldl (fun list e => place e.1 e.2 list) []

theorem placed_concat (entries : List (String × α)) (e : String × α) :
    placed (entries ++ [e]) = place e.1 e.2 (placed entries) := by
  rw [placed, List.foldl_append, List.foldl_cons, List.foldl_nil, placed]

theorem inOrder_placed (entries : List (String × α)) : InOrder (placed entries) := by
  induction entries using List.reverseRecOn with
  | nil => exact List.Pairwise.nil
  | append_singleton entries e ih =>
    rw [placed_concat]
    exact ih.place _ _

/-- What stands in its place was put there. -/
theorem mem_of_mem_placed (he : e ∈ placed entries) : e ∈ entries := by
  induction entries using List.reverseRecOn with
  | nil => exact he
  | append_singleton entries last ih =>
    rw [placed_concat, mem_place (inOrder_placed _)] at he
    rcases he with rfl | ⟨he, -⟩
    · exact List.mem_append_right _ (List.mem_singleton.2 rfl)
    · exact List.mem_append_left _ (ih he)

/-- Things that stand under different names, or are the same, are all there once they are in their
places. -/
theorem mem_placed (h : ∀ e ∈ entries, ∀ f ∈ entries, e.1 = f.1 → e = f) :
    e ∈ placed entries ↔ e ∈ entries := by
  induction entries using List.reverseRecOn with
  | nil => exact Iff.rfl
  | append_singleton entries last ih =>
    have hentries :=
      ih fun e he f hf => h e (List.mem_append_left _ he) f (List.mem_append_left _ hf)
    rw [placed_concat, mem_place (inOrder_placed _), hentries, List.mem_append, List.mem_singleton]
    constructor
    · rintro (rfl | ⟨he, -⟩)
      · exact Or.inr rfl
      · exact Or.inl he
    · rintro (he | rfl)
      · by_cases hname : e.1 = last.1
        · exact Or.inl
            (h e (List.mem_append_left _ he) last
              (List.mem_append_right _ List.mem_cons_self) hname)
        · exact Or.inr ⟨he, hname⟩
      · exact Or.inl rfl

end TenantAuth
