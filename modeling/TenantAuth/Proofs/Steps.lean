import Mathlib.Order.Defs.Unbundled
import TenantAuth.Credential.Registering

/-!
Steps that may be refused, from the outside.

Steps start in a state and end in one, with an answer or a refusal. What a course of steps did is
found by going back from its end to the ends of its parts. What no step ever undoes is said once for
the parts, as a relation that they move along, and then holds of every course that is made of them.
-/

namespace TenantAuth

variable {σ α β : Type}

/-- Steps from one state end in another, with an answer or a refusal. -/
def Ends (m : ExceptT Fault (StateM σ) α) (s : σ) (r : Except Fault α) (s' : σ) : Prop :=
  m.run.run s = (r, s')

namespace Ends

variable {s s' : σ} {m : ExceptT Fault (StateM σ) α} {k : α → ExceptT Fault (StateM σ) β}

/-- There is one end only. -/
theorem unique {r r₂ : Except Fault α} {s₂ : σ} (h : Ends m s r s') (h₂ : Ends m s r₂ s₂) :
    r = r₂ ∧ s' = s₂ := by
  rw [Ends, h] at h₂
  exact Prod.mk.inj h₂

/-- One course after another ends where the second ends, or where the first was refused. -/
theorem bind_iff {r : Except Fault β} :
    Ends (m >>= k) s r s' ↔
      (∃ a s₁, Ends m s (.ok a) s₁ ∧ Ends (k a) s₁ r s') ∨
        ∃ e, Ends m s (.error e) s' ∧ r = .error e := by
  have hrun : (m >>= k).run.run s = match m.run.run s with
      | (.ok a, s₁) => (k a).run.run s₁
      | (.error e, s₁) => (.error e, s₁) := by
    change (ExceptT.bind m k).run.run s = _
    simp only [ExceptT.bind, ExceptT.run, ExceptT.mk, StateT.run, bind, StateT.bind]
    cases m s with
    | mk r₁ s₁ => cases r₁ <;> rfl
  rw [Ends, hrun]
  rcases hm : m.run.run s with ⟨e | a, s₁⟩
  · constructor
    · intro h
      obtain ⟨rfl, rfl⟩ := Prod.mk.inj h
      exact Or.inr ⟨e, hm, rfl⟩
    · rintro (⟨a, s₂, h, _⟩ | ⟨e₂, h, rfl⟩)
      · exact absurd (unique hm h).1 (by simp)
      · obtain ⟨he, rfl⟩ := unique hm h
        rw [Except.error.inj he]
  · constructor
    · exact fun h => Or.inl ⟨a, s₁, hm, h⟩
    · rintro (⟨a₂, s₂, h, hk⟩ | ⟨e, h, _⟩)
      · obtain ⟨ha, rfl⟩ := unique hm h
        rw [Except.ok.inj ha]
        exact hk
      · exact absurd (unique hm h).1 (by simp)

/-- An answer of two courses comes from an answer of each. -/
@[simp] theorem bind_ok_iff {b : β} :
    Ends (m >>= k) s (.ok b) s' ↔ ∃ a s₁, Ends m s (.ok a) s₁ ∧ Ends (k a) s₁ (.ok b) s' := by
  simp [bind_iff]

/-- After steps that were answered comes what follows them. -/
theorem bind_of_ok {a : α} {s₁ : σ} {r : Except Fault β} (h : Ends m s (.ok a) s₁) :
    Ends (m >>= k) s r s' ↔ Ends (k a) s₁ r s' := by
  rw [bind_iff]
  constructor
  · rintro (⟨a', s₂, h', hk⟩ | ⟨e, h', _⟩)
    · obtain ⟨ha, rfl⟩ := unique h h'
      rwa [Except.ok.inj ha]
    · cases (unique h h').1
  · exact fun hk => Or.inl ⟨a, s₁, h, hk⟩

/-- One course after another is refused where the first is, or where the second is after it. -/
theorem bind_error_iff {fault : Fault} :
    Ends (m >>= k) s (.error fault) s' ↔
      Ends m s (.error fault) s' ∨
        ∃ a s₁, Ends m s (.ok a) s₁ ∧ Ends (k a) s₁ (.error fault) s' := by
  rw [bind_iff, or_comm]
  simp

@[simp] theorem pure_iff {a : α} {r : Except Fault α} :
    Ends (pure a : ExceptT Fault (StateM σ) α) s r s' ↔ r = .ok a ∧ s' = s := by
  change (Except.ok a, s) = (r, s') ↔ _
  rw [Prod.mk.injEq, eq_comm, eq_comm (a := s)]

@[simp] theorem map_ok_iff {f : α → β} {b : β} :
    Ends (f <$> m) s (.ok b) s' ↔ ∃ a, Ends m s (.ok a) s' ∧ b = f a := by
  rw [← bind_pure_comp, bind_ok_iff]
  simp

/-- What is made of an answer does not change where the steps end. -/
theorem bind_pure_iff {f : α → β} {r : Except Fault β} :
    Ends (m >>= fun a => pure (f a)) s r s' ↔ ∃ r₁, Ends m s r₁ s' ∧ r = r₁.map f := by
  rw [bind_iff]
  constructor
  · rintro (⟨a, s₁, h, hpure⟩ | ⟨e, h, rfl⟩)
    · obtain ⟨rfl, rfl⟩ := pure_iff.1 hpure
      exact ⟨_, h, rfl⟩
    · exact ⟨_, h, rfl⟩
  · rintro ⟨e | a, h, rfl⟩
    · exact Or.inr ⟨e, h, rfl⟩
    · exact Or.inl ⟨a, s', h, pure_iff.2 ⟨rfl, rfl⟩⟩

@[simp] theorem modifyGet_iff {f : σ → α × σ} {r : Except Fault α} :
    Ends (modifyGet f : ExceptT Fault (StateM σ) α) s r s' ↔ r = .ok (f s).1 ∧ s' = (f s).2 := by
  change (Except.ok (f s).1, (f s).2) = (r, s') ↔ _
  rw [Prod.mk.injEq, eq_comm, eq_comm (b := s')]

@[simp] theorem throw_iff {e : Fault} {r : Except Fault α} :
    Ends (throw e : ExceptT Fault (StateM σ) α) s r s' ↔ r = .error e ∧ s' = s := by
  change (Except.error e, s) = (r, s') ↔ _
  rw [Prod.mk.injEq, eq_comm, eq_comm (a := s)]

@[simp] theorem ensure_ok_iff {c : Bool} {e : Fault} {u : Unit} :
    Ends (ensure c e : ExceptT Fault (StateM σ) Unit) s (.ok u) s' ↔ c = true ∧ s' = s := by
  unfold ensure
  split <;> simp [*]

theorem ensure_error_iff {c : Bool} {e fault : Fault} :
    Ends (ensure c e : ExceptT Fault (StateM σ) Unit) s (.error fault) s' ↔
      c = false ∧ fault = e ∧ s' = s := by
  unfold ensure
  split <;> simp [*]

@[simp] theorem demand_ok_iff {v : Option α} {e : Fault} {a : α} :
    Ends (demand v e : ExceptT Fault (StateM σ) α) s (.ok a) s' ↔ v = some a ∧ s' = s := by
  cases v <;> simp [demand, eq_comm]

@[simp] theorem unexpected_ok_iff {ε : Type} {wording : ε → String} {x : Except ε α} {a : α} :
    Ends (unexpected wording x : ExceptT Fault (StateM σ) α) s (.ok a) s' ↔ x = .ok a ∧ s' = s := by
  cases x <;> simp [unexpected, eq_comm]

@[simp] theorem liftExcept_ok_iff {x : Except Fault α} {a : α} :
    Ends (liftExcept x : ExceptT Fault (StateM σ) α) s (.ok a) s' ↔ x = .ok a ∧ s' = s := by
  cases x <;> simp [liftExcept, eq_comm]

end Ends

/-! ### What is never undone -/

/-- Steps move along a relation, whether or not they are refused. -/
def Moves (R : σ → σ → Prop) (m : ExceptT Fault (StateM σ) α) : Prop :=
  ∀ s r s', Ends m s r s' → R s s'

section Moves

variable {R : σ → σ → Prop} {m : ExceptT Fault (StateM σ) α} {k : α → ExceptT Fault (StateM σ) β}

@[simp] theorem moves_bind [IsTrans σ R] (hm : Moves R m) (hk : ∀ a, Moves R (k a)) :
    Moves R (m >>= k) := by
  intro s r s' h
  rcases Ends.bind_iff.1 h with ⟨a, s₁, h₁, h₂⟩ | ⟨e, h₁, _⟩
  · exact IsTrans.trans _ _ _ (hm _ _ _ h₁) (hk a _ _ _ h₂)
  · exact hm _ _ _ h₁

@[simp] theorem moves_ite {c : Prop} [Decidable c] {m₁ m₂ : ExceptT Fault (StateM σ) α}
    (h₁ : Moves R m₁) (h₂ : Moves R m₂) : Moves R (if c then m₁ else m₂) := by
  split
  · exact h₁
  · exact h₂

/-- Steps that move along a relation lead on along it, whether they are refused or something follows
them. -/
theorem Moves.after [IsTrans σ R] {r : Except Fault β} {s₀ s s' : σ} (hm : Moves R m)
    (hbefore : R s₀ s) (h : Ends (m >>= k) s r s') :
    R s₀ s' ∨ ∃ a s₁, Ends m s (.ok a) s₁ ∧ R s₀ s₁ ∧ Ends (k a) s₁ r s' := by
  rcases Ends.bind_iff.1 h with ⟨a, s₁, h₁, h₂⟩ | ⟨e, h₁, _⟩
  · exact Or.inr ⟨a, s₁, h₁, IsTrans.trans _ _ _ hbefore (hm _ _ _ h₁), h₂⟩
  · exact Or.inl (IsTrans.trans _ _ _ hbefore (hm _ _ _ h₁))

/-- A single change that the relation allows. -/
theorem moves_modifyGet {f : σ → α × σ} (h : ∀ s, R s (f s).2) :
    Moves R (modifyGet f : ExceptT Fault (StateM σ) α) := by
  intro s r s' hs
  rw [(Ends.modifyGet_iff.1 hs).2]
  exact h s

variable [Std.Refl R]

@[simp] theorem moves_pure (a : α) : Moves R (pure a) := by
  intro s r s' h
  rw [(Ends.pure_iff.1 h).2]
  exact Std.Refl.refl s

@[simp] theorem moves_map [IsTrans σ R] {f : α → β} (hm : Moves R m) : Moves R (f <$> m) := by
  rw [← bind_pure_comp]
  exact moves_bind hm fun a => moves_pure (f a)

@[simp] theorem moves_throw (e : Fault) : Moves R (throw e : ExceptT Fault (StateM σ) α) := by
  intro s r s' h
  rw [(Ends.throw_iff.1 h).2]
  exact Std.Refl.refl s

@[simp] theorem moves_ensure (c : Bool) (e : Fault) :
    Moves R (ensure c e : ExceptT Fault (StateM σ) Unit) := by
  unfold ensure
  split <;> simp

@[simp] theorem moves_demand (v : Option α) (e : Fault) :
    Moves R (demand v e : ExceptT Fault (StateM σ) α) := by
  cases v <;> simp [demand]

@[simp] theorem moves_unexpected {ε : Type} (wording : ε → String) (x : Except ε α) :
    Moves R (unexpected wording x : ExceptT Fault (StateM σ) α) := by
  cases x <;> simp [unexpected]

@[simp] theorem moves_liftExcept (x : Except Fault α) :
    Moves R (liftExcept x : ExceptT Fault (StateM σ) α) := by
  cases x <;> simp [liftExcept]

end Moves

/-- A part of the state stays as it is. -/
def Same (part : σ → β) (s s' : σ) : Prop := part s' = part s

instance (part : σ → β) : IsTrans σ (Same part) := ⟨fun _ _ _ h h' => h'.trans h⟩

instance (part : σ → β) : Std.Refl (Same part) := ⟨fun _ => rfl⟩

/-- Steps do not touch a part of the state, whether or not they are refused. -/
abbrev Looks (part : σ → β) (m : ExceptT Fault (StateM σ) α) : Prop := Moves (Same part) m

/-- A count does not go down. -/
def Grows (count : σ → Nat) (s s' : σ) : Prop := count s ≤ count s'

instance (count : σ → Nat) : IsTrans σ (Grows count) := ⟨fun _ _ _ => Nat.le_trans⟩

instance (count : σ → Nat) : Std.Refl (Grows count) := ⟨fun _ => Nat.le_refl _⟩

/-! ### Refusals -/

/-- Steps are refused for reasons of one kind only. -/
def RefusedOnly (reason : Fault → Prop) (m : ExceptT Fault (StateM σ) α) : Prop :=
  ∀ s fault s', Ends m s (.error fault) s' → reason fault

/-- Steps are never refused. -/
abbrev NeverRefused (m : ExceptT Fault (StateM σ) α) : Prop := RefusedOnly (fun _ => False) m

/-- Steps do not touch a part of the state if they are refused. -/
def AllOrNothing {γ : Type} (part : σ → γ) (m : ExceptT Fault (StateM σ) α) : Prop :=
  ∀ s fault s', Ends m s (.error fault) s' → part s' = part s

section Refusals

variable {γ : Type} {reason : Fault → Prop} {part : σ → γ} {m m₁ m₂ : ExceptT Fault (StateM σ) α}
  {k : α → ExceptT Fault (StateM σ) β}

@[simp] theorem refusedOnly_pure (a : α) :
    RefusedOnly reason (pure a : ExceptT Fault (StateM σ) α) :=
  fun _ _ _ h => nomatch (Ends.pure_iff.1 h).1

@[simp] theorem refusedOnly_modifyGet (f : σ → α × σ) :
    RefusedOnly reason (modifyGet f : ExceptT Fault (StateM σ) α) :=
  fun _ _ _ h => nomatch (Ends.modifyGet_iff.1 h).1

@[simp] theorem refusedOnly_bind (hm : RefusedOnly reason m) (hk : ∀ a, RefusedOnly reason (k a)) :
    RefusedOnly reason (m >>= k) := by
  intro s fault s' h
  rcases Ends.bind_error_iff.1 h with h | ⟨a, s₁, _, h⟩
  · exact hm _ _ _ h
  · exact hk a _ _ _ h

@[simp] theorem refusedOnly_map {f : α → β} (hm : RefusedOnly reason m) :
    RefusedOnly reason (f <$> m) := by
  rw [← bind_pure_comp]
  exact refusedOnly_bind hm fun a => refusedOnly_pure (f a)

theorem NeverRefused.answers (h : NeverRefused m) (s : σ) : ∃ a s', Ends m s (.ok a) s' := by
  rcases hrun : m.run.run s with ⟨fault | a, s'⟩
  · exact (h s fault s' hrun).elim
  · exact ⟨a, s', hrun⟩

theorem Looks.allOrNothing (h : Looks part m) : AllOrNothing part m := fun s _ s' hm => h s _ s' hm

/-- What is never refused may do anything. -/
theorem NeverRefused.allOrNothing (h : NeverRefused m) : AllOrNothing part m :=
  fun s fault s' hm => (h s fault s' hm).elim

theorem allOrNothing_ite {c : Prop} [Decidable c] (h₁ : AllOrNothing part m₁)
    (h₂ : AllOrNothing part m₂) : AllOrNothing part (if c then m₁ else m₂) := by
  split
  · exact h₁
  · exact h₂

/-- Looking does no harm to whatever follows. -/
theorem Looks.then (hm : Looks part m) (hk : ∀ a, AllOrNothing part (k a)) :
    AllOrNothing part (m >>= k) := by
  intro s fault s' h
  rcases Ends.bind_error_iff.1 h with h | ⟨a, s₁, h, hrest⟩
  · exact hm _ _ _ h
  · exact (hk a _ _ _ hrest).trans (hm _ _ _ h)

/-- Nor does what is never refused to whatever came before it. -/
theorem AllOrNothing.then (hm : AllOrNothing part m) (hk : ∀ a, NeverRefused (k a)) :
    AllOrNothing part (m >>= k) := by
  intro s fault s' h
  rcases Ends.bind_error_iff.1 h with h | ⟨a, s₁, _, hrest⟩
  · exact hm _ _ _ h
  · exact (hk a _ _ _ hrest).elim

/-- Nothing is refused by making an answer. -/
theorem AllOrNothing.answer (hm : AllOrNothing part m) (f : α → β) :
    AllOrNothing part (m >>= fun a => pure (f a)) :=
  hm.then fun _ => refusedOnly_pure _

end Refusals

/-! ### Attempts -/

/-- Attempts one after the other, each from what the one before it left: what they come to, and what
is left in the end. -/
def attempts : List (ExceptT Fault (StateM σ) α) → σ → List (Except Fault α) × σ
  | [], s => ([], s)
  | m :: rest, s =>
    let (outcome, s') := m.run.run s
    let (outcomes, left) := attempts rest s'
    (outcome :: outcomes, left)

theorem attempts_cons {m : ExceptT Fault (StateM σ) α} {rest : List (ExceptT Fault (StateM σ) α)}
    {s s' : σ} {r : Except Fault α} (h : Ends m s r s') :
    attempts (m :: rest) s = (r :: (attempts rest s').1, (attempts rest s').2) := by
  rw [attempts, show m.run.run s = (r, s') from h]

end TenantAuth
