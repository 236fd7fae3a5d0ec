import Mathlib.Order.Defs.Unbundled
import TenantAuth.Stream.Checkpoint

/-!
Courses of action on streams that are carried out alone, from the outside.

A course that comes to its end has an outcome and leaves a state behind. What it did is found by
going back from its end to the ends of its parts. A course on a part of a state leaves the rest of
it alone, a course comes to its end when all its parts do, and it never undoes what none of its
parts undoes.
-/

namespace TenantAuth

variable {σ τ α β : Type}

/-- A part of a larger state, which is read and written on its own. -/
structure IsPart (get : τ → σ) (set : σ → τ → τ) : Prop where
  get_set : ∀ s t, get (set s t) = s
  set_set : ∀ s s' t, set s' (set s t) = set s' t
  set_get : ∀ t, set (get t) t = t

namespace Fiber

theorem run_bind (m : Fiber σ α) (k : α → Fiber σ β) (s : σ) :
    (m >>= k).run s = (m.run s).bind fun p => (k p.1).run p.2 := by
  induction m generalizing s with
  | done a => rfl
  | act ready effect next ih =>
    change (if ready s then (next s >>= k).run (effect s) else none) = _
    rw [run]
    cases ready s with
    | true => exact ih s (effect s)
    | false => rfl

theorem run_zoom {get : τ → σ} {set : σ → τ → τ} (hpart : IsPart get set) (m : Fiber σ α) (t : τ) :
    (m.zoom get set).run t = (m.run (get t)).map fun p => (p.1, set p.2 t) := by
  induction m generalizing t with
  | done a => rw [zoom, run, run, Option.map_some, hpart.set_get]
  | act ready effect next ih =>
    rw [zoom, run, run]
    cases ready (get t) with
    | true =>
      rw [if_pos rfl, if_pos rfl, ih, hpart.get_set]
      simp only [hpart.set_set]
    | false => rfl

end Fiber

namespace StreamM

/-- A course from one state ends in another, with an answer or a fault. -/
def Ends (m : StreamM σ α) (s : σ) (r : Except StreamFault α) (s' : σ) : Prop :=
  Fiber.run m.run s = some (r, s')

variable {s s' : σ} {m : StreamM σ α} {k : α → StreamM σ β}

/-- There is one end only. -/
theorem Ends.unique {r r₂ : Except StreamFault α} {s₂ : σ} (h : Ends m s r s')
    (h₂ : Ends m s r₂ s₂) : r = r₂ ∧ s' = s₂ := by
  rw [Ends, h] at h₂
  exact Prod.mk.inj (Option.some.inj h₂)

/-- One course after another ends where the second ends, or where the first came to a fault. -/
theorem ends_bind_iff {r : Except StreamFault β} :
    Ends (m >>= k) s r s' ↔
      (∃ a s₁, Ends m s (.ok a) s₁ ∧ Ends (k a) s₁ r s') ∨
        ∃ e, Ends m s (.error e) s' ∧ r = .error e := by
  have hrun : Fiber.run (m >>= k).run s =
      (Fiber.run m.run s).bind fun p => Fiber.run (ExceptT.bindCont k p.1) p.2 :=
      Fiber.run_bind _ _ _
  rw [Ends, hrun, Option.bind_eq_some_iff]
  constructor
  · rintro ⟨⟨e | a, s₁⟩, hm, h⟩
    · obtain ⟨rfl, rfl⟩ := Prod.mk.inj (Option.some.inj h)
      exact Or.inr ⟨e, hm, rfl⟩
    · exact Or.inl ⟨a, s₁, hm, h⟩
  · rintro (⟨a, s₁, hm, h⟩ | ⟨e, hm, rfl⟩)
    · exact ⟨_, hm, h⟩
    · exact ⟨_, hm, rfl⟩

@[simp] theorem ends_pure_iff {a : α} {r : Except StreamFault α} :
    Ends (pure a : StreamM σ α) s r s' ↔ r = .ok a ∧ s' = s := by
  change some (Except.ok a, s) = some (r, s') ↔ _
  rw [Option.some.injEq, Prod.mk.injEq, eq_comm, eq_comm (a := s)]

/-- What is made of an answer does not change where a course ends. -/
theorem ends_bind_pure_iff {f : α → β} {r : Except StreamFault β} :
    Ends (m >>= fun a => pure (f a)) s r s' ↔
      ∃ outcome, Ends m s outcome s' ∧ r = outcome.map f := by
  rw [ends_bind_iff]
  constructor
  · rintro (⟨a, s₁, h, hpure⟩ | ⟨e, h, rfl⟩)
    · obtain ⟨rfl, rfl⟩ := ends_pure_iff.1 hpure
      exact ⟨_, h, rfl⟩
    · exact ⟨_, h, rfl⟩
  · rintro ⟨e | a, h, rfl⟩
    · exact Or.inr ⟨e, h, rfl⟩
    · exact Or.inl ⟨a, s', h, ends_pure_iff.2 ⟨rfl, rfl⟩⟩

@[simp] theorem ends_throw_iff {e : StreamFault} {r : Except StreamFault α} :
    Ends (throw e : StreamM σ α) s r s' ↔ r = .error e ∧ s' = s := by
  change some (Except.error e, s) = some (r, s') ↔ _
  rw [Option.some.injEq, Prod.mk.injEq, eq_comm, eq_comm (a := s)]

@[simp] theorem ends_liftExcept_iff {x : Except StreamFault α} {r : Except StreamFault α} :
    Ends (liftExcept x : StreamM σ α) s r s' ↔ r = x ∧ s' = s := by
  cases x with
  | ok a => exact ends_pure_iff
  | error e => exact ends_throw_iff

/-- One action that is always possible. -/
@[simp] theorem ends_step_iff {f : σ → Except StreamFault α × σ} {r : Except StreamFault α} :
    Ends (ExceptT.mk (Fiber.step f)) s r s' ↔ r = (f s).1 ∧ s' = (f s).2 := by
  change some (f s) = some (r, s') ↔ _
  rw [Option.some.injEq, Prod.ext_iff, eq_comm, eq_comm (a := (f s).2)]

theorem ends_ofFiber_iff {fiber : Fiber σ α} {r : Except StreamFault α} :
    Ends (ofFiber fiber) s r s' ↔ ∃ a, fiber.run s = some (a, s') ∧ r = .ok a := by
  have hrun : Fiber.run (ofFiber fiber).run s = (fiber.run s).bind fun p => some (.ok p.1, p.2) :=
    Fiber.run_bind _ _ _
  rw [Ends, hrun, Option.bind_eq_some_iff]
  constructor
  · rintro ⟨p, hp, h⟩
    obtain ⟨rfl, rfl⟩ := Prod.mk.inj (Option.some.inj h)
    exact ⟨p.1, hp, rfl⟩
  · rintro ⟨a, h, rfl⟩
    exact ⟨_, h, rfl⟩

/-- What a course came to is an answer for whoever waits for it, be it a fault. -/
theorem ends_run_iff {r : Except StreamFault (Except StreamFault α)} :
    Ends (ofFiber m.run) s r s' ↔ ∃ outcome, Ends m s outcome s' ∧ r = .ok outcome :=
      ends_ofFiber_iff

@[simp] theorem ends_look_iff {f : σ → α} {r : Except StreamFault α} :
    Ends (ofFiber (Fiber.look f)) s r s' ↔ r = .ok (f s) ∧ s' = s := by
  change some (Except.ok (f s), s) = some (r, s') ↔ _
  rw [Option.some.injEq, Prod.mk.injEq, eq_comm, eq_comm (a := s)]

@[simp] theorem ends_fiberStep_iff {f : σ → α × σ} {r : Except StreamFault α} :
    Ends (ofFiber (Fiber.step f)) s r s' ↔ r = .ok (f s).1 ∧ s' = (f s).2 := by
  change some (Except.ok (f s).1, (f s).2) = some (r, s') ↔ _
  rw [Option.some.injEq, Prod.mk.injEq, eq_comm, eq_comm (a := (f s).2)]

@[simp] theorem ends_change_iff {f : σ → σ} {r : Except StreamFault Unit} :
    Ends (ofFiber (Fiber.change f)) s r s' ↔ r = .ok () ∧ s' = f s := by
  change some (Except.ok (), f s) = some (r, s') ↔ _
  rw [Option.some.injEq, Prod.mk.injEq, eq_comm, eq_comm (a := f s)]

@[simp] theorem ends_await_iff {ready : σ → Bool} {f : σ → σ} {r : Except StreamFault Unit} :
    Ends (ofFiber (Fiber.await ready f)) s r s' ↔ ready s = true ∧ r = .ok () ∧ s' = f s := by
  rw [ends_ofFiber_iff, Fiber.await, Fiber.run]
  cases ready s with
  | true =>
    constructor
    · rintro ⟨_, h, rfl⟩
      exact ⟨rfl, rfl, (Prod.mk.inj (Option.some.inj h)).2.symm⟩
    · rintro ⟨_, rfl, rfl⟩
      exact ⟨(), rfl, rfl⟩
  | false => simp

/-- A course on a part of a state leaves the rest of it alone. -/
theorem ends_zoom_iff {get : τ → σ} {set : σ → τ → τ} (hpart : IsPart get set) {t t' : τ}
    {r : Except StreamFault α} :
    Ends (m.zoom get set) t r t' ↔ ∃ s', Ends m (get t) r s' ∧ t' = set s' t := by
  have hrun : Fiber.run (m.zoom get set).run t =
      (Fiber.run m.run (get t)).map fun p => (p.1, set p.2 t) := Fiber.run_zoom hpart _ _
  rw [Ends, hrun, Option.map_eq_some_iff]
  constructor
  · rintro ⟨p, hp, h⟩
    obtain ⟨rfl, rfl⟩ := Prod.mk.inj h
    exact ⟨p.2, hp, rfl⟩
  · rintro ⟨s', h, rfl⟩
    exact ⟨_, h, rfl⟩

/-! ### Coming to an end -/

/-- A course comes to its end from a state. -/
def Returns (m : StreamM σ α) (s : σ) : Prop := ∃ r s', Ends m s r s'

theorem returns_bind (hm : Returns m s) (hk : ∀ a s₁, Ends m s (.ok a) s₁ → Returns (k a) s₁) :
    Returns (m >>= k) s := by
  obtain ⟨e | a, s₁, h⟩ := hm
  · exact ⟨_, s₁, ends_bind_iff.2 (Or.inr ⟨e, h, rfl⟩)⟩
  · obtain ⟨r, s₂, h₂⟩ := hk a s₁ h
    exact ⟨r, s₂, ends_bind_iff.2 (Or.inl ⟨a, s₁, h, h₂⟩)⟩

theorem Returns.zoom {get : τ → σ} {set : σ → τ → τ} (hpart : IsPart get set) {t : τ}
    (h : Returns m (get t)) : Returns (m.zoom get set) t := by
  obtain ⟨r, s', h⟩ := h
  exact ⟨r, _, (ends_zoom_iff hpart).2 ⟨s', h, rfl⟩⟩

/-! ### What is never undone -/

/-- A course moves along a relation, whatever it comes to. -/
def Moves (R : σ → σ → Prop) (m : StreamM σ α) : Prop := ∀ s r s', Ends m s r s' → R s s'

section Moves

variable {R : σ → σ → Prop}

theorem Moves.bind [IsTrans σ R] (hm : Moves R m) (hk : ∀ a, Moves R (k a)) :
    Moves R (m >>= k) := by
  intro s r s' h
  rcases ends_bind_iff.1 h with ⟨a, s₁, h₁, h₂⟩ | ⟨_, h₁, _⟩
  · exact IsTrans.trans _ _ _ (hm _ _ _ h₁) (hk a _ _ _ h₂)
  · exact hm _ _ _ h₁

variable [Std.Refl R]

theorem moves_liftExcept (x : Except StreamFault α) : Moves R (liftExcept x : StreamM σ α) := by
  intro s r s' h
  rw [(ends_liftExcept_iff.1 h).2]
  exact Std.Refl.refl s

theorem moves_pure (a : α) : Moves R (pure a : StreamM σ α) := moves_liftExcept (.ok a)

theorem moves_throw (fault : StreamFault) : Moves R (throw fault : StreamM σ α) :=
    moves_liftExcept (.error fault)

end Moves

end StreamM

end TenantAuth
