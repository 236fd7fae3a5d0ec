import TenantAuth.Proofs.Json.Places

/-!
What is read from a JSON text.

The fields of an object are put in the places of their names as they are read, at every depth. So in
whatever is read, the names of each object stand in order, and each of them once.
-/

namespace TenantAuth.Json

variable {α β : Type} {v : Json} {c : Cursor}

/-- The names stand in order in each object, each of them once. -/
abbrev OrderedNames : Json → Prop := NamesEverywhere (List.Pairwise (· < ·))

theorem OrderedNames.distinct (h : v.OrderedNames) : v.DistinctNames :=
  h.mono fun _ hnames => hnames.imp fun {a b} (hlt : a < b) (heq : a = b) =>
    String.lt_irrefl b (heq ▸ hlt)

/-- What is read, if something is, has a property. -/
def Gives (q : α → Prop) (r : Reading α) : Prop := ∀ a c, r = .ok (a, c) → q a

section Gives

variable {q : α → Prop}

@[simp] theorem gives_error (fault : Fault) : Gives q (.error fault : Reading α) := nofun

@[simp] theorem gives_ok {a : α} : Gives q (.ok (a, c) : Reading α) ↔ q a := by
  refine ⟨fun h => h a c rfl, ?_⟩
  rintro h _ _ ⟨⟩
  exact h

theorem gives_ite {condition : Prop} [Decidable condition] {r₁ r₂ : Reading α} (h₁ : Gives q r₁)
    (h₂ : Gives q r₂) : Gives q (if condition then r₁ else r₂) := by
  split
  · exact h₁
  · exact h₂

theorem gives_bind {p : β → Prop} {r : Reading α} {next : α × Cursor → Reading β} (hr : Gives q r)
    (hnext : ∀ a, q a → ∀ c, Gives p (next (a, c))) : Gives p (r.bind next) := by
  cases r with
  | error fault => exact gives_error fault
  | ok read => exact hnext read.1 (hr read.1 read.2 rfl) read.2

end Gives

/-! ### Words, numbers and strings -/

theorem ordered_readWord (h : v.OrderedNames) (word : List UInt8) (c : Cursor) :
    Gives OrderedNames (readWord v word c) := by
  induction word generalizing c with
  | nil => simpa [readWord] using h
  | cons b word ih =>
    unfold readWord
    split
    · simp
    · exact gives_ite (ih _) (by simp)

theorem ordered_doubleAt (isNegative : Bool) (value : Nat) (power : Int) (c : Cursor) :
    Gives OrderedNames (doubleAt isNegative value power c) := by
  unfold doubleAt
  split <;> simp

theorem ordered_readExponent (isNegative : Bool) (value : Nat) (power : Int) (c : Cursor) :
    Gives OrderedNames (readExponent isNegative value power c) := by
  unfold readExponent
  simp only
  split
  · simp
  · split
    · simp
    · split
      · exact ordered_doubleAt _ _ _ _
      · exact gives_ite (by simp) (by simp)

theorem ordered_readPower (isNegative : Bool) (value : Nat) (power : Int) (c : Cursor) :
    Gives OrderedNames (readPower isNegative value power c) := by
  exact gives_ite (ordered_readExponent _ _ _ _) (ordered_doubleAt _ _ _ _)

theorem ordered_readFraction (isNegative : Bool) (value : Nat) (power : Int) (c : Cursor) :
    Gives OrderedNames (readFraction isNegative value power c) := by
  refine gives_ite (ordered_readPower _ _ _ _) (gives_ite ?_ (ordered_readPower _ _ _ _))
  split <;> simp

theorem ordered_readAfterWhole (isNegative : Bool) (value : Nat) (c : Cursor) :
    Gives OrderedNames (readAfterWhole isNegative value c) := by
  refine gives_ite (ordered_readFraction _ _ _ _) (gives_ite (ordered_readExponent _ _ _ _) ?_)
  exact gives_ite (by simp) (gives_ite (by simp) (ordered_doubleAt _ _ _ _))

theorem ordered_readNumber (isNegative : Bool) (c : Cursor) :
    Gives OrderedNames (readNumber isNegative c) := by
  unfold readNumber
  split
  · simp
  · split
    · simp
    · dsimp only
      split
      · simp
      · exact ordered_readAfterWhole _ _ _
    · refine gives_ite ?_ (ordered_readAfterWhole _ _ _)
      exact gives_ite (ordered_readFraction _ _ _ _) (ordered_readPower _ _ _ _)

/-! ### Arrays and objects -/

section Parts

variable {readPart : Cursor → Reading Json}

theorem ordered_readItems (hpart : ∀ c, Gives OrderedNames (readPart c)) (rounds : Nat)
    (isFirst : Bool) {before : List Json} (hbefore : ∀ v ∈ before, v.OrderedNames) (c : Cursor) :
    Gives OrderedNames (readItems readPart rounds isFirst before c) := by
  induction rounds generalizing isFirst before c with
  | zero => simp [readItems]
  | succ rounds ih =>
    unfold readItems
    dsimp only
    split
    · simp
    · refine gives_ite ?close (gives_ite ?first (gives_ite ?comma (by simp)))
      case close =>
        exact gives_ok.2 (namesEverywhere_array.2 fun v hv => hbefore v (List.mem_reverse.1 hv))
      case' comma =>
        split
        · simp
        refine gives_ite (by simp) ?_
      -- the first item is read at once and a later one behind a comma
      case first | comma =>
        split
        · rename_i v c' hread
          exact ih _ (List.forall_mem_cons.2 ⟨hpart _ v c' hread, hbefore⟩) _
        · simp

/-- Fields stay in order, and what they hold stays so, when one more is put in its place. -/
theorem OrderedNames.insertField {before : List (String × Json)}
    (hbefore : (object before).OrderedNames) (hv : v.OrderedNames) (name : String) :
    (object (insertField name v before)).OrderedNames := by
  rw [OrderedNames, namesEverywhere_object, List.pairwise_map] at hbefore ⊢
  obtain ⟨hnames, hvalues⟩ := hbefore
  rw [insertField_eq_place]
  refine ⟨InOrder.place hnames name v, fun f hf => ?_⟩
  rcases (mem_place hnames).1 hf with rfl | ⟨hf, -⟩
  · exact hv
  · exact hvalues f hf

theorem ordered_readFields (hpart : ∀ c, Gives OrderedNames (readPart c)) (rounds : Nat)
    (isFirst : Bool) {before : List (String × Json)} (hbefore : (object before).OrderedNames)
    (c : Cursor) :
    Gives OrderedNames (readFields readPart rounds isFirst before c) := by
  induction rounds generalizing isFirst before c with
  | zero => simp [readFields]
  | succ rounds ih =>
    unfold readFields
    dsimp only
    split
    · simp
    · refine gives_ite (gives_ok.2 hbefore)
        (gives_ite (gives_ite ?first (by simp)) (gives_ite ?comma (by simp)))
      case' comma =>
        split
        · simp
        refine gives_ite ?_ (gives_ite (by simp) (by simp))
      case first | comma =>
        refine gives_bind (q := fun _ => True) (fun _ _ _ => trivial) fun name _ c => ?_
        dsimp only
        split
        · exact gives_error _
        · refine gives_ite (gives_bind (hpart _) fun v hv c => ?_) (gives_error _)
          exact ih _ (hbefore.insertField hv name) c

end Parts

/-! ### Texts -/

theorem ordered_readValueWith {nested : Option (Cursor → Reading Json)}
    (hnested : ∀ readPart, nested = some readPart → ∀ c, Gives OrderedNames (readPart c))
    (c : Cursor) :
    Gives OrderedNames (readValueWith nested c) := by
  unfold readValueWith
  dsimp only
  split
  · simp
  · refine gives_ite (ordered_readWord (by simp) _ _)
      (gives_ite (ordered_readWord (by simp) _ _) ?_)
    refine gives_ite (ordered_readWord (by simp) _ _) (gives_ite (ordered_readNumber _ _) ?_)
    refine gives_ite (ordered_readNumber _ _) (gives_ite ?_ (gives_ite ?_ (by simp)))
    · cases readString c.next.skip with
      | error fault => exact gives_error fault
      | ok read => exact gives_ok.2 (by simp)
    · split
      · simp
      · rename_i readPart
        have hpart := hnested readPart rfl
        exact gives_ite (ordered_readItems hpart _ _ (by simp) _)
          (ordered_readFields hpart _ _ (by simp) _)

theorem ordered_readValue (depth : Nat) (c : Cursor) : Gives OrderedNames (readValue depth c) := by
  induction depth generalizing c with
  | zero => exact ordered_readValueWith (by simp) c
  | succ depth ih =>
    refine ordered_readValueWith ?_ c
    rintro _ ⟨⟩
    exact ih

/-- In what a text is, the names of each object stand in order. -/
theorem orderedNames_of_parse {text : String} (h : parse text = .ok v) : v.OrderedNames := by
  rw [parse, ofBytes] at h
  cases hread : readValue maxDepth ⟨0, Text.utf8 text⟩ with
  | error fault => simp [hread, bind, Except.bind, Except.mapError] at h
  | ok read =>
    have hordered := ordered_readValue maxDepth _ read.1 read.2 hread
    simp only [hread, bind, Except.bind] at h
    split at h
    · obtain rfl : read.1 = v := by simpa [pure, Except.pure, Except.mapError] using h
      exact hordered
    · simp [throw, throwThe, MonadExceptOf.throw, Except.mapError] at h

end TenantAuth.Json
