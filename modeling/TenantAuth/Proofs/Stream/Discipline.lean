import TenantAuth.Stream.Checkpoint
import Mathlib.Data.Set.List
import Mathlib.Logic.Function.Basic
import Mathlib.Logic.Hydra

/-!
Courses of action among others, from the outside.

What others do between two actions of a course cannot be foreseen, but it can be agreed on. A
discipline says what a course may rely on before its next action, what the action may change, and
when the course may have to wait. All of this depends on what the course has in its hand, which its
actions may change as well. When all courses keep to a discipline, what holds of all their hands and
of the state is preserved, whatever turns they take; and when they never all wait for one another,
there are turns that bring each of them to its end.
-/

namespace TenantAuth

/-- What courses of action on a state of type `σ` agree on, where `γ` is what a course has in its
hand. -/
structure Discipline (σ γ : Type) where
  relies : γ → σ → Prop
  acts : γ → σ → γ → σ → Prop
  waits : γ → σ → Prop

variable {σ τ γ δ α β : Type}

/-- No discipline at all. -/
def Discipline.free : Discipline σ Unit := ⟨fun _ _ => True, fun _ _ _ _ => True, fun _ _ => True⟩

/-- One discipline on a part of a state within another on the whole of it. -/
structure Discipline.Within (part : Discipline σ γ) (whole : Discipline τ δ) (get : τ → σ)
    (set : σ → τ → τ) (grip : γ → δ) : Prop where
  relies : ∀ hand t, whole.relies (grip hand) t → part.relies hand (get t)
  acts : ∀ hand t hand' s', whole.relies (grip hand) t → part.acts hand (get t) hand' s' →
    whole.acts (grip hand) t (grip hand') (set s' t)
  waits : ∀ hand t, whole.relies (grip hand) t → part.waits hand (get t) → whole.waits (grip hand) t

/-- What holds of the hands of some courses and of the state is enough for each to rely on, and is
preserved by what each may do. -/
structure Discipline.Preserves (d : Discipline σ γ) (count : Nat)
    (inv : (Nat → γ) → σ → Prop) : Prop where
  relies : ∀ hands s, inv hands s → ∀ i < count, d.relies (hands i) s
  acts : ∀ hands s, inv hands s → ∀ i < count, ∀ hand' s', d.acts (hands i) s hand' s' →
    inv (Function.update hands i hand') s'

namespace Fiber

variable {d : Discipline σ γ} {hand : γ}

/-- A course keeps to a discipline as long as others do, and if it comes to its end, its outcome and
its hand are as they should be. -/
def Keeps (d : Discipline σ γ) (ends : α → γ → Prop) : Fiber σ α → γ → Prop
  | done a, hand => ends a hand
  | act ready effect next, hand => ∀ s, d.relies hand s →
    (ready s = false → d.waits hand s) ∧
      (ready s = true → ∃ hand', d.acts hand s hand' (effect s) ∧ (next s).Keeps d ends hand')

theorem keeps_bind_iff {m : Fiber σ α} {k : α → Fiber σ β} {ends : β → γ → Prop} :
    (m >>= k).Keeps d ends hand ↔ m.Keeps d (fun a => (k a).Keeps d ends) hand := by
  -- on the actions of the first course; each leaves its own hand behind
  induction m generalizing hand with
  | done a => exact Iff.rfl
  | act ready effect next ih =>
    refine forall_congr' fun s => imp_congr_right fun _ => and_congr_right fun _ =>
      imp_congr_right fun _ => ?_
    exact exists_congr fun hand' => and_congr_right fun _ => ih s

theorem Keeps.imp {ends ends' : α → γ → Prop} {m : Fiber σ α} (h : m.Keeps d ends hand)
    (himp : ∀ a hand', ends a hand' → ends' a hand') : m.Keeps d ends' hand := by
  induction m generalizing hand with
  | done a => exact himp a hand h
  | act ready effect next ih =>
    intro s hs
    refine ⟨(h s hs).1, fun hready => ?_⟩
    obtain ⟨hand', hacts, hnext⟩ := (h s hs).2 hready
    exact ⟨hand', hacts, ih s hnext⟩

theorem Keeps.zoom {whole : Discipline τ δ} {get : τ → σ} {set : σ → τ → τ} {ends : α → δ → Prop}
    {m : Fiber σ α} (grip : γ → δ) (hwithin : d.Within whole get set grip)
    (h : m.Keeps d (fun a hand' => ends a (grip hand')) hand) :
    (m.zoom get set).Keeps whole ends (grip hand) := by
  induction m generalizing hand with
  | done a => exact h
  | act ready effect next ih =>
    intro t ht
    obtain ⟨hwaits, hacts⟩ := h (get t) (hwithin.relies hand t ht)
    refine ⟨fun hready => hwithin.waits hand t ht (hwaits hready), fun hready => ?_⟩
    obtain ⟨hand', hdone, hnext⟩ := hacts hready
    exact ⟨grip hand', hwithin.acts hand t hand' _ ht hdone, ih (get t) hnext⟩

theorem keeps_free {m : Fiber σ α} : m.Keeps Discipline.free (fun _ _ => True) () := by
  induction m with
  | done a => trivial
  | act ready effect next ih => exact fun s _ => ⟨fun _ => trivial, fun _ => ⟨(), trivial, ih s⟩⟩

/-- An action that is always possible. -/
theorem keeps_ready_iff {ends : α → γ → Prop} {effect : σ → σ} {next : σ → Fiber σ α} :
    (act (fun _ => true) effect next).Keeps d ends hand ↔
      ∀ s, d.relies hand s →
        ∃ hand', d.acts hand s hand' (effect s) ∧ (next s).Keeps d ends hand' :=
  forall_congr' fun _ => imp_congr_right fun _ => ⟨fun h => h.2 rfl, fun h => ⟨nofun, fun _ => h⟩⟩

/-- A course that never has to wait comes to its end when it is carried out alone. -/
theorem Keeps.run {ends : α → γ → Prop} {m : Fiber σ α} {s : σ} (h : m.Keeps d ends hand)
    (hs : d.relies hand s) (hrefl : ∀ hand s, d.relies hand s → d.acts hand s hand s)
    (htrans : ∀ {hand hand₁ hand₂ s s₁ s₂}, d.acts hand s hand₁ s₁ → d.acts hand₁ s₁ hand₂ s₂ →
      d.acts hand s hand₂ s₂)
    (hrelies : ∀ {hand hand' s s'}, d.acts hand s hand' s' → d.relies hand' s')
    (hprompt : ∀ hand s, ¬ d.waits hand s) :
    ∃ a s' hand', m.run s = some (a, s') ∧ d.acts hand s hand' s' ∧ ends a hand' := by
  induction m generalizing hand s with
  | done a => exact ⟨a, s, hand, rfl, hrefl hand s hs, h⟩
  | act ready effect next ih =>
    have hready : ready s = true := by
      by_contra hnot
      exact hprompt hand s ((h s hs).1 (Bool.eq_false_iff.2 hnot))
    obtain ⟨hand₁, hacts, hnext⟩ := (h s hs).2 hready
    obtain ⟨a, s', hand', hrun, hthen, hends⟩ := ih s hnext (hrelies hacts)
    refine ⟨a, s', hand', ?_, htrans hacts hthen, hends⟩
    rw [Fiber.run, if_pos hready]
    exact hrun

/-! ### Several courses -/

/-- Each of several courses keeps to a discipline, and an invariant holds of their hands and the
state. -/
structure Together (d : Discipline σ γ) (ends : Nat → α → γ → Prop) (inv : (Nat → γ) → σ → Prop)
    (hands : Nat → γ) (fibers : List (Fiber σ α)) (s : σ) : Prop where
  keeps : ∀ (i : Nat) (fiber : Fiber σ α),
    fibers[i]? = some fiber → fiber.Keeps d (ends i) (hands i)
  inv : inv hands s

variable {ends : Nat → α → γ → Prop} {inv : (Nat → γ) → σ → Prop} {hands : Nat → γ}
  {fibers : List (Fiber σ α)} {s s' : σ} {fiber rest : Fiber σ α} {i count : Nat}

/-- A course that carries out its next action was ready for it, and what follows keeps to the
discipline. -/
theorem Keeps.advance {ends : α → γ → Prop} (h : fiber.Keeps d ends hand) (hs : d.relies hand s)
    (hadvance : fiber.advance s = some (rest, s')) :
    ∃ hand', d.acts hand s hand' s' ∧ rest.Keeps d ends hand' := by
  cases fiber with
  | done a => cases hadvance
  | act ready effect next =>
    rw [Fiber.advance] at hadvance
    split at hadvance
    · rename_i hready
      obtain ⟨rfl, rfl⟩ := Prod.mk.inj (Option.some.inj hadvance)
      exact (h s hs).2 hready
    · cases hadvance

/-- A course that cannot carry out an action has come to its end, or waits. -/
theorem Keeps.stuck {ends : α → γ → Prop} (h : fiber.Keeps d ends hand) (hs : d.relies hand s)
    (hadvance : fiber.advance s = none) :
    fiber.isDone = true ∧ (∃ a, ends a hand) ∨ d.waits hand s := by
  cases fiber with
  | done a => exact Or.inl ⟨rfl, a, h⟩
  | act ready effect next =>
    rw [Fiber.advance] at hadvance
    split at hadvance
    · cases hadvance
    · rename_i hready
      exact Or.inr ((h s hs).1 (Bool.eq_false_iff.2 hready))

theorem advanceOne_of_advance (hi : fibers[i]? = some fiber)
    (hadvance : fiber.advance s = some (rest, s')) :
    advanceOne fibers s i = (fibers.set i rest, s') := by
  rw [advanceOne, hi]
  simp only [hadvance]

theorem advanceOne_of_none (hadvance : ∀ fiber, fibers[i]? = some fiber → fiber.advance s = none) :
    advanceOne fibers s i = (fibers, s) := by
  rw [advanceOne]
  cases hi : fibers[i]? with
  | none => rfl
  | some fiber => simp only [hadvance fiber hi]

/-- What one course does preserves what holds of all. -/
theorem Together.advance (h : Together d ends inv hands fibers s)
    (hpreserves : d.Preserves fibers.length inv) (hi : fibers[i]? = some fiber)
    (hadvance : fiber.advance s = some (rest, s')) :
    ∃ hand', Together d ends inv (Function.update hands i hand') (fibers.set i rest) s' := by
  have hlt : i < fibers.length := (List.getElem?_eq_some_iff.1 hi).1
  obtain ⟨hand', hacts, hrest⟩ :=
    (h.keeps i fiber hi).advance (hpreserves.relies hands s h.inv i hlt) hadvance
  refine ⟨hand', fun j other hj => ?_, hpreserves.acts hands s h.inv i hlt hand' s' hacts⟩
  by_cases hij : i = j
  · subst hij
    rw [List.getElem?_set_self hlt, Option.some.injEq] at hj
    rw [Function.update_self, ← hj]
    exact hrest
  · rw [List.getElem?_set_ne hij] at hj
    rw [Function.update_of_ne (Ne.symm hij)]
    exact h.keeps j other hj

theorem Together.advanceOne (h : Together d ends inv hands fibers s)
    (hpreserves : d.Preserves fibers.length inv) (i : Nat) :
    (advanceOne fibers s i).1.length = fibers.length ∧
      ∃ hand', Together d ends inv (Function.update hands i hand') (advanceOne fibers s i).1
        (advanceOne fibers s i).2 := by
  by_cases hnone : ∀ fiber, fibers[i]? = some fiber → fiber.advance s = none
  · rw [advanceOne_of_none hnone]
    exact ⟨rfl, hands i, (Function.update_eq_self i hands).symm ▸ h⟩
  · push Not at hnone
    obtain ⟨fiber, hi, hsome⟩ := hnone
    obtain ⟨⟨rest, s'⟩, hadvance⟩ := Option.ne_none_iff_exists'.1 hsome
    rw [advanceOne_of_advance hi hadvance]
    exact ⟨List.length_set, h.advance hpreserves hi hadvance⟩

/-- Whatever turns courses take, what holds of all of them is preserved, and who has had no turn has
in its hand what it had. -/
theorem Together.interleave_idle (h : Together d ends inv hands fibers s)
    (hpreserves : d.Preserves fibers.length inv) (turns : List Nat) :
    (interleave turns fibers s).1.length = fibers.length ∧ ∃ hands',
      (∀ i, i ∉ turns → hands' i = hands i) ∧
        Together d ends inv hands' (interleave turns fibers s).1 (interleave turns fibers s).2 := by
  induction turns generalizing hands fibers s with
  | nil => exact ⟨rfl, hands, fun _ _ => rfl, h⟩
  | cons i rest ih =>
    obtain ⟨hlength, hand₁, h₁⟩ := h.advanceOne hpreserves i
    obtain ⟨hlength₂, hands₂, hidle, h₂⟩ := ih h₁ (hlength ▸ hpreserves)
    refine ⟨hlength₂.trans hlength, hands₂, fun j hj => ?_, h₂⟩
    obtain ⟨hji, hrest⟩ := not_or.1 (List.mem_cons.not.1 hj)
    rw [hidle j hrest, Function.update_of_ne hji]

theorem Together.interleave (h : Together d ends inv hands fibers s)
    (hpreserves : d.Preserves fibers.length inv) (turns : List Nat) :
    (interleave turns fibers s).1.length = fibers.length ∧
      ∃ hands', Together d ends inv hands' (interleave turns fibers s).1
      (interleave turns fibers s).2 := by
  obtain ⟨hlength, hands', _, htogether⟩ := h.interleave_idle hpreserves turns
  exact ⟨hlength, hands', htogether⟩

/-- A course that has had no turn is where it was. -/
theorem getElem?_interleave {turns : List Nat} (hi : i ∉ turns) :
    (interleave turns fibers s).1[i]? = fibers[i]? := by
  induction turns generalizing fibers s with
  | nil => rfl
  | cons j rest ih =>
    obtain ⟨hij, hrest⟩ := not_or.1 (List.mem_cons.not.1 hi)
    refine (ih hrest).trans ?_
    change (Fiber.advanceOne fibers s j).1[i]? = fibers[i]?
    unfold Fiber.advanceOne
    split
    · rfl
    · split
      · rfl
      · exact List.getElem?_set_ne (Ne.symm hij)

theorem interleave_cons {turns : List Nat} : interleave (i :: turns) fibers s =
    interleave turns (Fiber.advanceOne fibers s i).1 (Fiber.advanceOne fibers s i).2 := rfl

/-- Some turns after others. -/
theorem interleave_append {turns more : List Nat} : interleave (turns ++ more) fibers s =
    interleave more (interleave turns fibers s).1 (interleave turns fibers s).2 := List.foldl_append

/-- When all courses have come to their ends, each has the outcome it should have. -/
theorem Together.outcomes (h : Together d ends inv hands fibers s)
    (hdone : ∀ fiber ∈ fibers, fiber.isDone = true) :
    ∃ outcomes : List α, fibers = outcomes.map done ∧ ∀ i a, outcomes[i]? = some a →
      ends i a (hands i) := by
  have hshape : ∃ outcomes : List α, outcomes.map done = fibers := by
    rw [← Set.mem_range, Set.range_list_map]
    intro fiber hfiber
    cases fiber with
    | done a => exact ⟨a, rfl⟩
    | act ready effect next => cases hdone _ hfiber
  obtain ⟨outcomes, rfl⟩ := hshape
  refine ⟨outcomes, rfl, fun i a hi => h.keeps i (done a) ?_⟩
  rw [List.getElem?_map, hi]
  rfl

/-! ### Coming to an end -/

/-- What follows an action of a course. -/
def Next (rest fiber : Fiber σ α) : Prop :=
    ∃ ready effect next s, fiber = act ready effect next ∧ rest = next s

/-- No course goes on for ever. -/
theorem wellFounded_next : WellFounded (Next (σ := σ) (α := α)) := by
  refine ⟨fun fiber => ?_⟩
  induction fiber with
  | done a => exact ⟨_, fun _ ⟨_, _, _, _, h, _⟩ => nomatch h⟩
  | act ready effect next ih =>
    refine ⟨_, ?_⟩
    rintro _ ⟨_, _, _, s, ⟨⟩, rfl⟩
    exact ih s

theorem next_of_advance (hadvance : fiber.advance s = some (rest, s')) : Next rest fiber := by
  cases fiber with
  | done a => cases hadvance
  | act ready effect next =>
    rw [Fiber.advance] at hadvance
    split at hadvance
    · exact ⟨ready, effect, next, s, rfl, (Prod.mk.inj (Option.some.inj hadvance)).1.symm⟩
    · cases hadvance

/-- Of several courses, the one that carries out an action comes nearer to its end, and the others
stay as they are. -/
theorem cutExpand_of_advance (hi : fibers[i]? = some fiber)
    (hadvance : fiber.advance s = some (rest, s')) :
    Relation.CutExpand Next (↑(fibers.set i rest) : Multiset (Fiber σ α)) ↑fibers := by
  obtain ⟨hlt, rfl⟩ := List.getElem?_eq_some_iff.1 hi
  have hbefore : fibers = fibers.take i ++ fibers[i] :: fibers.drop (i + 1) := by
    rw [List.getElem_cons_drop, List.take_append_drop]
  have hafter : fibers.set i rest = fibers.take i ++ rest :: fibers.drop (i + 1) := by
    rw [List.set_eq_take_append_cons_drop, if_pos hlt]
  rw [hafter]
  conv_rhs => rw [hbefore]
  rw [← Multiset.coe_add, ← Multiset.coe_add, ← Multiset.cons_coe, ← Multiset.cons_coe,
    ← Multiset.singleton_add, ← Multiset.singleton_add, Relation.cutExpand_add_left]
  exact Relation.cutExpand_single_add (next_of_advance hadvance) _

/-- When courses cannot all wait for one another, there are turns that bring each of them to its
end. -/
theorem Together.exists_turns (h : Together d ends inv hands fibers s)
    (hpreserves : d.Preserves fibers.length inv)
    (hfree : ∀ hands s, inv hands s →
      (∀ i < fibers.length, (∃ a, ends i a (hands i)) ∨ d.waits (hands i) s) →
      ∀ i < fibers.length, ¬ d.waits (hands i) s) :
    ∃ turns, ∀ fiber ∈ (Fiber.interleave turns fibers s).1, fiber.isDone = true := by
  -- any action takes one course out of the bag and puts what follows it in its place
  obtain ⟨bag, hbag⟩ : ∃ bag : Multiset (Fiber σ α), bag = ↑fibers := ⟨_, rfl⟩
  induction bag using (wellFounded_next (σ := σ) (α := α)).cutExpand.induction generalizing hands
    fibers s with
  | _ bag ih =>
    subst hbag
    by_cases hmoves : ∃ (i : Nat) (fiber : Fiber σ α), fibers[i]? = some fiber ∧
      fiber.advance s ≠ none
    · obtain ⟨i, fiber, hi, hsome⟩ := hmoves
      obtain ⟨⟨rest, s'⟩, hadvance⟩ := Option.ne_none_iff_exists'.1 hsome
      have hlength : (fibers.set i rest).length = fibers.length := List.length_set
      obtain ⟨hands', hnext⟩ := h.advance hpreserves hi hadvance
      obtain ⟨turns, hturns⟩ := ih _ (cutExpand_of_advance hi hadvance) hnext (hlength ▸ hpreserves)
        (hlength ▸ hfree) rfl
      refine ⟨i :: turns, ?_⟩
      rw [Fiber.interleave, List.foldl_cons, advanceOne_of_advance hi hadvance]
      exact hturns
    · -- nobody can carry out an action, so that nobody waits, and all are done
      push Not at hmoves
      have hstuck : ∀ i (hi : i < fibers.length),
          fibers[i].isDone = true ∧ (∃ a, ends i a (hands i)) ∨ d.waits (hands i) s := by
        intro i hi
        have hget : fibers[i]? = some fibers[i] := List.getElem?_eq_getElem hi
        exact (h.keeps i _ hget).stuck (hpreserves.relies hands s h.inv i hi) (hmoves i _ hget)
      have hnobody := hfree hands s h.inv fun i hi => (hstuck i hi).imp And.right id
      refine ⟨[], fun fiber hfiber => ?_⟩
      obtain ⟨i, hi, rfl⟩ := List.mem_iff_getElem.1 hfiber
      exact ((hstuck i hi).resolve_right (hnobody i hi)).1

end Fiber

namespace StreamM

variable {d : Discipline σ γ} {hand : γ} {m : StreamM σ α} {k : α → StreamM σ β}

/-- A course that may end in a fault keeps to a discipline. -/
def Keeps (d : Discipline σ γ) (ends : Except StreamFault α → γ → Prop) (m : StreamM σ α)
    (hand : γ) : Prop :=
  Fiber.Keeps d ends m.run hand

theorem Keeps.imp {ends ends' : Except StreamFault α → γ → Prop} (h : Keeps d ends m hand)
    (himp : ∀ r hand', ends r hand' → ends' r hand') : Keeps d ends' m hand :=
    Fiber.Keeps.imp h himp

/-- One course after another, where a fault of the first is the outcome of both. -/
theorem keeps_bind_iff {ends : Except StreamFault β → γ → Prop} :
    Keeps d ends (m >>= k) hand ↔ Keeps d (fun r hand' =>
      match r with
      | .ok a => Keeps d ends (k a) hand'
      | .error fault => ends (.error fault) hand') m hand := by
  refine Fiber.keeps_bind_iff.trans ⟨fun h => Fiber.Keeps.imp h ?_, fun h => Fiber.Keeps.imp h ?_⟩
  all_goals
    rintro (fault | a) hand' h
    · exact h
    · exact h

/-- One course after another, when the first comes to no fault. -/
theorem Keeps.bind {ends : Except StreamFault β → γ → Prop}
    (h : Keeps d (fun r hand' => ∃ a, r = .ok a ∧ Keeps d ends (k a) hand') m hand) :
    Keeps d ends (m >>= k) hand := by
  refine keeps_bind_iff.2 (h.imp ?_)
  rintro _ hand' ⟨a, rfl, ha⟩
  exact ha

theorem keeps_pure_iff {ends : Except StreamFault α → γ → Prop} {a : α} :
    Keeps d ends (pure a) hand ↔ ends (.ok a) hand := Iff.rfl

theorem keeps_liftExcept_iff {ends : Except StreamFault α → γ → Prop} {x : Except StreamFault α} :
    Keeps d ends (liftExcept x) hand ↔ ends x hand := by
  cases x with
  | ok a => exact Iff.rfl
  | error fault => exact Iff.rfl

theorem keeps_ofFiber_iff {ends : Except StreamFault α → γ → Prop} {fiber : Fiber σ α} :
    Keeps d ends (ofFiber fiber) hand ↔ fiber.Keeps d (fun a => ends (.ok a)) hand :=
      Fiber.keeps_bind_iff

/-- One action that is always possible. -/
theorem keeps_fiberStep_iff {ends : Except StreamFault α → γ → Prop} {f : σ → α × σ} :
    Keeps d ends (ofFiber (Fiber.step f)) hand ↔
      ∀ s, d.relies hand s → ∃ hand', d.acts hand s hand' (f s).2 ∧ ends (.ok (f s).1) hand' :=
  keeps_ofFiber_iff.trans Fiber.keeps_ready_iff

theorem keeps_look_iff {ends : Except StreamFault α → γ → Prop} {f : σ → α} :
    Keeps d ends (ofFiber (Fiber.look f)) hand ↔
      ∀ s, d.relies hand s → ∃ hand', d.acts hand s hand' s ∧ ends (.ok (f s)) hand' :=
  keeps_ofFiber_iff.trans Fiber.keeps_ready_iff

theorem keeps_change_iff {ends : Except StreamFault Unit → γ → Prop} {f : σ → σ} :
    Keeps d ends (ofFiber (Fiber.change f)) hand ↔
      ∀ s, d.relies hand s → ∃ hand', d.acts hand s hand' (f s) ∧ ends (.ok ()) hand' :=
  keeps_ofFiber_iff.trans Fiber.keeps_ready_iff

theorem keeps_await_iff {ends : Except StreamFault Unit → γ → Prop} {ready : σ → Bool} {f : σ → σ} :
    Keeps d ends (ofFiber (Fiber.await ready f)) hand ↔
      ∀ s, d.relies hand s → (ready s = false → d.waits hand s) ∧
        (ready s = true → ∃ hand', d.acts hand s hand' (f s) ∧ ends (.ok ()) hand') :=
  keeps_ofFiber_iff

/-- A course on a part of a state. -/
theorem Keeps.zoom {whole : Discipline τ δ} {get : τ → σ} {set : σ → τ → τ}
    {ends : Except StreamFault α → δ → Prop} (grip : γ → δ) (hwithin : d.Within whole get set grip)
    (h : Keeps d (fun r hand' => ends r (grip hand')) m hand) :
    Keeps whole ends (m.zoom get set) (grip hand) :=
  Fiber.Keeps.zoom grip hwithin h

end StreamM

end TenantAuth
