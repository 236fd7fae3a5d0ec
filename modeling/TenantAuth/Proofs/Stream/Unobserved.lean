import TenantAuth.Proofs.Stream.Observing

/-!
An observer changes nothing.

A course shadows another one if it does what the other does, as far as one can see from a part of
its state, and beside that only what cannot be seen from there. Whatever turns some courses take,
their shadows can take turns so that the same is seen of them. Calls with an observer shadow the
calls without.
-/

namespace TenantAuth

variable {σ τ σ' τ' α β : Type}

namespace Fiber

/-- One course does what another does on what is seen of its state. Now and then it does something
that is not seen. -/
inductive Shadows (view : τ → σ) : Fiber τ α → Fiber σ α → Prop
  | done (a : α) : Shadows view (done a) (done a)
  | act {ready' : τ → Bool} {ready : σ → Bool} {effect' : τ → τ} {effect : σ → σ}
    {next' : τ → Fiber τ α} {next : σ → Fiber σ α} (hready : ∀ t, ready' t = ready (view t))
    (heffect : ∀ t, view (effect' t) = effect (view t))
    (hnext : ∀ t, Shadows view (next' t) (next (view t))) :
    Shadows view (act ready' effect' next') (act ready effect next)
  | aside {effect' : τ → τ} {next' : τ → Fiber τ α} {fiber : Fiber σ α}
    (heffect : ∀ t, view (effect' t) = view t) (hnext : ∀ t, Shadows view (next' t) fiber) :
    Shadows view (act (fun _ => true) effect' next') fiber

variable {view : τ → σ} {m' : Fiber τ α} {m : Fiber σ α} {fibers' : List (Fiber τ α)}
  {fibers : List (Fiber σ α)} {i : Nat} {t : τ}

theorem Shadows.bind {k' : α → Fiber τ β} {k : α → Fiber σ β} (h : Shadows view m' m)
    (hk : ∀ a, Shadows view (k' a) (k a)) : Shadows view (m' >>= k') (m >>= k) := by
  induction h with
  | done a => exact hk a
  | act hready heffect _ ih => exact .act hready heffect ih
  | aside heffect _ ih => exact .aside heffect ih

theorem Shadows.zoom {view' : τ' → σ'} {get' : τ' → τ} {set' : τ → τ' → τ'} {get : σ' → σ}
    {set : σ → σ' → σ'} (hpart : IsPart get set) (hget : ∀ t, get (view' t) = view (get' t))
    (hset : ∀ s t, view' (set' s t) = set (view s) (view' t)) (h : Shadows view m' m) :
    Shadows view' (m'.zoom get' set') (m.zoom get set) := by
  induction h with
  | done a => exact .done a
  | act hready heffect _ ih =>
    refine .act (fun t => ?_) (fun t => ?_) fun t => ?_
    · rw [hready, hget]
    · rw [hset, heffect, hget]
    · rw [hget]
      exact ih (get' t)
  | aside heffect _ ih =>
    refine .aside (fun t => ?_) fun t => ih (get' t)
    rw [hset, heffect, ← hget, hpart.set_get]

/-- A course on a part of a state shadows the course itself. -/
theorem shadows_zoom {get : τ → σ} {set : σ → τ → τ} (hpart : IsPart get set) :
    Shadows get (m.zoom get set) m := by
  induction m with
  | done a => exact .done a
  | act ready effect next ih =>
    exact .act (fun _ => rfl) (fun t => hpart.get_set _ t) fun t => ih (get t)

/-- What an action of a course does, its shadow does in some turns. -/
theorem Shadows.follow {rest : Fiber σ α} {s' : σ} (h : Shadows view m' m)
    (hi : fibers'[i]? = some m') (hadvance : m.advance (view t) = some (rest, s')) :
    ∃ turns rest' t',
      interleave turns fibers' t = (fibers'.set i rest', t') ∧ Shadows view rest' rest ∧
      view t' = s' := by
  induction h generalizing fibers' t with
  | done a => cases hadvance
  | @act ready' ready effect' effect next' next hready heffect hnext ih =>
    rw [Fiber.advance] at hadvance
    split at hadvance
    · rename_i hgo
      obtain ⟨rfl, rfl⟩ := Prod.mk.inj (Option.some.inj hadvance)
      refine ⟨[i], next' t, effect' t, advanceOne_of_advance hi ?_, hnext t, heffect t⟩
      rw [Fiber.advance, hready, if_pos hgo]
    · cases hadvance
  | @aside effect' next' fiber heffect hnext ih =>
    have hlt : i < fibers'.length := (List.getElem?_eq_some_iff.1 hi).1
    have hnow : (fibers'.set i (next' t))[i]? = some (next' t) := List.getElem?_set_self hlt
    rw [← heffect] at hadvance
    obtain ⟨turns, rest', t', hturns, hrest, ht'⟩ := ih t hnow hadvance
    refine ⟨i :: turns, rest', t', ?_, hrest, ht'⟩
    rw [interleave_cons, advanceOne_of_advance hi rfl, hturns, List.set_set]

/-- When a course is at its end, its shadow gets there in some turns. -/
theorem Shadows.finish {a : α} (h : Shadows view m' (.done a)) (hi : fibers'[i]? = some m')
    (t : τ) : ∃ turns t', interleave turns fibers' t = (fibers'.set i (.done a), t') ∧
    view t' = view t := by
  generalize hm : Fiber.done a = m at h
  induction h generalizing fibers' t with
  | done b =>
    cases hm
    refine ⟨[], t, ?_, rfl⟩
    obtain ⟨hlt, hget⟩ := List.getElem?_eq_some_iff.1 hi
    rw [← hget, List.set_getElem_self]
    rfl
  | act => cases hm
  | @aside effect' next' fiber heffect hnext ih =>
    have hlt : i < fibers'.length := (List.getElem?_eq_some_iff.1 hi).1
    have hnow : (fibers'.set i (next' t))[i]? = some (next' t) := List.getElem?_set_self hlt
    obtain ⟨turns, t', hturns, ht'⟩ := ih t hnow (effect' t) hm
    refine ⟨i :: turns, t', ?_, ht'.trans (heffect t)⟩
    rw [interleave_cons, advanceOne_of_advance hi rfl, hturns, List.set_set]

/-! ### Several courses -/

/-- Each of several courses shadows one of others, and both are in states that look the same. -/
structure Shadowed (view : τ → σ) (left : List (Fiber τ α) × τ)
    (right : List (Fiber σ α) × σ) : Prop where
  length : left.1.length = right.1.length
  shadows : ∀ (i : Nat) m' m, left.1[i]? = some m' → right.1[i]? = some m → Shadows view m' m
  state : view left.2 = right.2

variable {s : σ}

theorem Shadowed.get (h : Shadowed view (fibers', t) (fibers, s)) (hi : fibers[i]? = some m) :
    ∃ m', fibers'[i]? = some m' ∧ Shadows view m' m := by
  have hlt : i < fibers'.length := h.length.symm ▸ (List.getElem?_eq_some_iff.1 hi).1
  exact ⟨_, List.getElem?_eq_getElem hlt, h.shadows i _ _ (List.getElem?_eq_getElem hlt) hi⟩

theorem Shadowed.set {t' : τ} {s' : σ} (h : Shadowed view (fibers', t) (fibers, s))
    (hm : Shadows view m' m) (hstate : view t' = s') :
    Shadowed view (fibers'.set i m', t') (fibers.set i m, s') := by
  refine ⟨?_, fun j n' n hn' hn => ?_, hstate⟩
  · rw [List.length_set, List.length_set]
    exact h.length
  · by_cases hij : i = j
    · subst hij
      have hlt' : i < fibers'.length := by
        have := (List.getElem?_eq_some_iff.1 hn').1
        rwa [List.length_set] at this
      have hlt : i < fibers.length := h.length ▸ hlt'
      rw [List.getElem?_set_self hlt'] at hn'
      rw [List.getElem?_set_self hlt] at hn
      rw [← Option.some.inj hn', ← Option.some.inj hn]
      exact hm
    · rw [List.getElem?_set_ne hij] at hn'
      rw [List.getElem?_set_ne hij] at hn
      exact h.shadows j n' n hn' hn

/-- Whatever turns courses take, their shadows can follow. -/
theorem Shadowed.interleave (h : Shadowed view (fibers', t) (fibers, s)) (turns : List Nat) :
    ∃ turns', Shadowed view (interleave turns' fibers' t) (interleave turns fibers s) := by
  induction turns generalizing fibers' t fibers s with
  | nil => exact ⟨[], h⟩
  | cons i rest ih =>
    by_cases hnone : ∀ m, fibers[i]? = some m → m.advance s = none
    · obtain ⟨turns', hturns'⟩ := ih h
      refine ⟨turns', ?_⟩
      rw [interleave_cons, advanceOne_of_none hnone]
      exact hturns'
    · push Not at hnone
      obtain ⟨m, hi, hsome⟩ := hnone
      obtain ⟨⟨next, s'⟩, hadvance⟩ := Option.ne_none_iff_exists'.1 hsome
      obtain ⟨m', hi', hm⟩ := h.get hi
      have hview : view t = s := h.state
      obtain ⟨turns₁, next', t', hturns₁, hnext, ht'⟩ := hm.follow hi' (hview ▸ hadvance)
      obtain ⟨turns₂, hturns₂⟩ := ih (h.set hnext ht')
      refine ⟨turns₁ ++ turns₂, ?_⟩
      rw [interleave_append, hturns₁, interleave_cons, advanceOne_of_advance hi hadvance]
      exact hturns₂

/-- When a course is done, its shadow can be done as well, and the other shadows stay as they
are. -/
theorem Shadowed.finish_one {a : α} (h : Shadowed view (fibers', t) (fibers, s))
    (ha : fibers[i]? = some (done a)) :
    ∃ turns', Shadowed view (Fiber.interleave turns' fibers' t) (fibers, s) ∧
      (Fiber.interleave turns' fibers' t).1[i]? = some (done a) ∧
      ∀ j ≠ i, (Fiber.interleave turns' fibers' t).1[j]? = fibers'[j]? := by
  obtain ⟨m', hm', hshadows⟩ := h.get ha
  obtain ⟨turns', t', hturns', ht'⟩ := hshadows.finish hm' t
  obtain ⟨_, hget⟩ := List.getElem?_eq_some_iff.1 ha
  have hset : Shadowed view (fibers'.set i (done a), t') (fibers.set i fibers[i], s) :=
    h.set (hget ▸ Shadows.done a) (ht'.trans h.state)
  rw [List.set_getElem_self] at hset
  refine ⟨turns', ?_, ?_, fun j hj => ?_⟩
  · rw [hturns']
    exact hset
  · rw [hturns']
    exact List.getElem?_set_self (List.getElem?_eq_some_iff.1 hm').1
  · rw [hturns']
    exact List.getElem?_set_ne (Ne.symm hj)

/-- Shadows of courses that are done can be done as well. -/
theorem Shadowed.finish (h : Shadowed view (fibers', t) (fibers, s)) : ∃ turns',
    Shadowed view (Fiber.interleave turns' fibers' t) (fibers, s) ∧ ∀ (i : Nat) (a : α),
      fibers[i]? = some (done a) → (Fiber.interleave turns' fibers' t).1[i]? = some (done a) := by
  -- one after the other, from the first
  have hfirst : ∀ count : Nat, ∃ turns', Shadowed view (Fiber.interleave turns' fibers' t)
      (fibers, s) ∧ ∀ i < count, ∀ a : α, fibers[i]? = some (done a) →
        (Fiber.interleave turns' fibers' t).1[i]? = some (done a) := by
    intro count
    induction count with
    | zero => exact ⟨[], h, fun i hi => absurd hi (Nat.not_lt_zero i)⟩
    | succ count ih =>
      obtain ⟨turns', hturns', hdone⟩ := ih
      by_cases hend : ∃ a, fibers[count]? = some (done a)
      · obtain ⟨a, ha⟩ := hend
        obtain ⟨more, hmore, hlast, hothers⟩ := hturns'.finish_one ha
        refine ⟨turns' ++ more, ?_, fun i hi b hb => ?_⟩
        · rw [interleave_append]
          exact hmore
        · rw [interleave_append]
          by_cases hic : i = count
          · subst hic
            cases ha.symm.trans hb
            exact hlast
          · exact (hothers i hic).trans (hdone i (by omega) b hb)
      · refine ⟨turns', hturns', fun i hi a ha => ?_⟩
        by_cases hic : i = count
        · exact absurd ⟨a, hic ▸ ha⟩ hend
        · exact hdone i (by omega) a ha
  obtain ⟨turns', hturns', hdone⟩ := hfirst fibers.length
  exact ⟨turns', hturns', fun i a ha => hdone i (List.getElem?_eq_some_iff.1 ha).1 a ha⟩

end Fiber

namespace StreamM

/-- One course that may end in a fault shadows another one. -/
def Shadows (view : τ → σ) (m' : StreamM τ α) (m : StreamM σ α) : Prop :=
    Fiber.Shadows view m'.run m.run

variable {view : τ → σ} {m' : StreamM τ α} {m : StreamM σ α}

theorem shadows_pure (a : α) : Shadows view (pure a) (pure a) := .done _

theorem shadows_liftExcept (x : Except StreamFault α) :
    Shadows view (liftExcept x) (liftExcept x) := by
  cases x with
  | ok a => exact .done _
  | error fault => exact .done _

theorem Shadows.bind {k' : α → StreamM τ β} {k : α → StreamM σ β} (h : Shadows view m' m)
    (hk : ∀ a, Shadows view (k' a) (k a)) : Shadows view (m' >>= k') (m >>= k) := by
  refine Fiber.Shadows.bind h ?_
  rintro (fault | a)
  · exact .done _
  · exact hk a

theorem shadows_ofFiber {fiber' : Fiber τ α} {fiber : Fiber σ α} (h : fiber'.Shadows view fiber) :
    Shadows view (ofFiber fiber') (ofFiber fiber) := Fiber.Shadows.bind h fun _ => .done _

theorem shadows_await {ready' : τ → Bool} {ready : σ → Bool} {f' : τ → τ} {f : σ → σ}
    (hready : ∀ t, ready' t = ready (view t)) (hf : ∀ t, view (f' t) = f (view t)) :
    Shadows view (ofFiber (Fiber.await ready' f')) (ofFiber (Fiber.await ready f)) :=
  shadows_ofFiber (.act hready hf fun _ => .done _)

theorem shadows_step {f' : τ → α × τ} {f : σ → α × σ} (hf : ∀ t, (f' t).1 = (f (view t)).1)
    (hf' : ∀ t, view (f' t).2 = (f (view t)).2) :
    Shadows view (ofFiber (Fiber.step f')) (ofFiber (Fiber.step f)) :=
  shadows_ofFiber (.act (fun _ => rfl) hf' fun t => hf t ▸ .done _)

theorem shadows_change {f' : τ → τ} {f : σ → σ} (hf : ∀ t, view (f' t) = f (view t)) :
    Shadows view (ofFiber (Fiber.change f')) (ofFiber (Fiber.change f)) :=
  shadows_ofFiber (.act (fun _ => rfl) hf fun _ => .done _)

theorem shadows_look {f' : τ → α} {f : σ → α} (hf : ∀ t, f' t = f (view t)) :
    Shadows view (ofFiber (Fiber.look f')) (ofFiber (Fiber.look f)) :=
  shadows_ofFiber (.act (fun _ => rfl) (fun _ => rfl) fun t => hf t ▸ .done _)

theorem Shadows.aside {f' : τ → τ} {k' : Unit → StreamM τ α} (hf : ∀ t, view (f' t) = view t)
    (hk : Shadows view (k' ()) m) : Shadows view (ofFiber (Fiber.change f') >>= k') m :=
  Fiber.Shadows.aside hf fun _ => hk

/-- To take what a course came to and to come to that is to do what the course does. -/
theorem ofFiber_run_liftExcept : (ofFiber m.run >>= fun outcome => liftExcept outcome) = m := by
  have hfiber : ∀ fiber : Fiber σ (Except StreamFault α),
      (ofFiber fiber >>= fun outcome => liftExcept outcome) = ExceptT.mk fiber := by
    intro fiber
    induction fiber with
    | done r => cases r <;> rfl
    | act ready effect next ih => exact congrArg (Fiber.act ready effect) (funext ih)
  exact hfiber m.run

end StreamM

namespace Observed

variable {κ : Type} {handlers : Handlers κ} {handler : HandlerId} {stamps : EventStore.Stamps}
  {i number : Nat} {stream : String} {events : List Event}

/-- A store and others without what was noted. -/
def unobserve (hub : Hub (Diary κ)) : Hub κ := ⟨hub.stores, hub.alive, hub.outside.outside⟩

/-- The handler goes about its work as if nobody watched. -/
theorem shadows_observed : (observed handlers number handler stream events).Shadows Diary.outside
    (handlers handler stream events) := by
  rw [← StreamM.ofFiber_run_liftExcept (m := handlers handler stream events)]
  refine StreamM.Shadows.aside (fun _ => rfl) ?_
  refine StreamM.Shadows.bind (StreamM.shadows_ofFiber (Fiber.shadows_zoom Diary.isPart_outside))
    fun outcome => ?_
  exact StreamM.Shadows.aside (fun _ => rfl) (StreamM.shadows_liftExcept outcome)

theorem shadows_holding {m' : StreamM (Hub (Diary κ)) α} {m : StreamM (Hub κ) α}
    (h : m'.Shadows unobserve m) :
    (Hub.holding i stream m').Shadows unobserve (Hub.holding i stream m) := by
  refine StreamM.Shadows.bind (StreamM.shadows_await (fun _ => rfl) fun _ => rfl) fun _ => ?_
  refine StreamM.Shadows.bind (StreamM.shadows_ofFiber h) fun outcome => ?_
  exact StreamM.Shadows.bind (StreamM.shadows_change fun _ => rfl) fun _ =>
    StreamM.shadows_liftExcept outcome

theorem shadows_notify : (Hub.notify (observed handlers number) i stream events).Shadows unobserve
    (Hub.notify handlers i stream events) := by
  refine StreamM.Shadows.bind (StreamM.shadows_look fun _ => rfl) ?_
  rintro (_ | handler)
  · exact StreamM.shadows_pure ()
  · exact Fiber.Shadows.zoom Hub.isPart_outside (fun _ => rfl) (fun _ _ => rfl) shadows_observed

theorem shadows_perform (call : Call) :
    (call.perform (observed handlers number) stamps i).Shadows unobserve
      (call.perform handlers stamps i) := by
  cases call with
  | append aggregate stream pending =>
    rw [Call.perform, Call.perform, Hub.append, Hub.append]
    split
    · exact StreamM.shadows_pure []
    · refine shadows_holding
        (StreamM.Shadows.bind (StreamM.shadows_step (fun _ => rfl) fun _ => rfl) fun batch => ?_)
      exact StreamM.Shadows.bind shadows_notify fun _ => StreamM.shadows_pure batch
  | redeliver stream =>
    refine StreamM.Shadows.bind (shadows_holding ?_) fun _ => StreamM.shadows_pure []
    refine StreamM.Shadows.bind (StreamM.shadows_look fun _ => rfl) fun events => ?_
    split
    · exact StreamM.shadows_pure ()
    · exact shadows_notify

/-- Whatever turns calls take, they can take turns with observers so that the store, what handlers
work on and the answers are the same. -/
theorem unobserved (handlers : Handlers κ) (stamps : EventStore.Stamps) (i : Nat)
    (calls : List Call) (hub : Hub κ) (turns : List Nat) : ∃ turns',
      unobserve (together handlers stamps i calls hub turns').2 =
      (interleaved handlers stamps i calls hub turns).2 ∧
      ∀ (k : Nat) r, (interleaved handlers stamps i calls hub turns).1[k]? = some (.done r) →
        (together handlers stamps i calls hub turns').1[k]? = some (.done r) := by
  have hbegin : Fiber.Shadowed unobserve
      (calls.zipIdx.map (fun e => (e.1.perform (observed handlers e.2) stamps i).run), observe hub)
      (calls.map (fun call => (call.perform handlers stamps i).run), hub) := by
    refine ⟨?_, fun k m' m hm' hm => ?_, rfl⟩
    · rw [List.length_map, List.length_map, List.length_zipIdx]
    · obtain ⟨call, hcall, rfl⟩ := perform_of_getElem? hm'
      rw [List.getElem?_map, hcall] at hm
      obtain rfl := Option.some.inj hm
      exact shadows_perform call
  obtain ⟨turns₁, h₁⟩ := hbegin.interleave turns
  obtain ⟨turns₂, h₂, hdone⟩ := Fiber.Shadowed.finish h₁
  refine ⟨turns₁ ++ turns₂, ?_, ?_⟩
  · rw [together, Fiber.interleave_append]
    exact h₂.state
  · rw [together, Fiber.interleave_append]
    exact hdone

end Observed

end TenantAuth
