import TenantAuth.Proofs.Stream.Delivery
import TenantAuth.Proofs.Stream.Unobserved

/-!
Minutes of what a projector does.

Minutes list every checkpoint that is loaded or saved and every call of a projection, with what came
of it. They stand beside whatever the projector works on, and a batch ends with them as it ends
without. So what is found in minutes holds of any checkpoints and any projections. Of an event that
is offered they tell who answered, in what order, and who came to a fault.
-/

namespace TenantAuth

section Shadows

variable {σ τ α : Type} {view : τ → σ}

/-- A course ends as its shadow does, as far as one can see. -/
theorem Fiber.Shadows.run_eq {m' : Fiber τ α} {m : Fiber σ α} (h : Shadows view m' m) (t : τ) :
    (m'.run t).map (fun p => (p.1, view p.2)) = m.run (view t) := by
  induction h generalizing t with
  | done a => rfl
  | @act ready' ready effect' effect next' next hready heffect hnext ih =>
    rw [run, run, hready]
    cases ready (view t) with
    | true => rw [if_pos rfl, if_pos rfl, ih, heffect]
    | false => rfl
  | aside heffect hnext ih => rw [run, if_pos rfl, ih, heffect]

theorem StreamM.Shadows.ends_iff {m' : StreamM τ α} {m : StreamM σ α} {t : τ}
    {r : Except StreamFault α} {s : σ} (h : m'.Shadows view m) :
    Ends m (view t) r s ↔ ∃ t', Ends m' t r t' ∧ view t' = s := by
  rw [Ends, ← Fiber.Shadows.run_eq h t, Option.map_eq_some_iff]
  constructor
  · rintro ⟨⟨_, t'⟩, hrun, hsame⟩
    obtain ⟨rfl, rfl⟩ := Prod.mk.inj hsame
    exact ⟨t', hrun, rfl⟩
  · rintro ⟨t', hrun, rfl⟩
    exact ⟨(r, t'), hrun, rfl⟩

end Shadows

namespace Minuted

open Delivery

/-- Something that a projector does, and what came of it: it loads a checkpoint, calls a projection,
or saves a checkpoint. -/
inductive Note
  | loaded (stream : String) (answer : Except StreamFault Nat)
  | passed (call : Call)
  | saved (stream : String) (next : Nat) (answer : Except StreamFault Unit)

/-- The minutes so far, beside what a projector works on. -/
structure Minutes (ω : Type) where
  notes : List Note
  outside : ω

variable {ω α : Type}

namespace Minutes

/-- The minutes with one more note. -/
def enter (note : Note) (minutes : Minutes ω) : Minutes ω :=
    { minutes with notes := minutes.notes ++ [note] }

/-- The minutes when something else was left behind. -/
def leave (outside : ω) (minutes : Minutes ω) : Minutes ω := { minutes with outside }

theorem isPart_outside : IsPart (Minutes.outside (ω := ω)) leave :=
    ⟨fun _ _ => rfl, fun _ _ _ => rfl, fun _ => rfl⟩

end Minutes

/-- A course of action of which a note is taken. -/
def noting (note : Except StreamFault α → Note) (m : StreamM ω α) : StreamM (Minutes ω) α := do
  let outcome ← StreamM.ofFiber (m.zoom Minutes.outside Minutes.leave).run
  StreamM.ofFiber (Fiber.change (Minutes.enter (note outcome)))
  liftExcept outcome

/-- A projection of a number, with a note of each call. -/
def attended (projection : Projection ω) (number : Nat) : Projection (Minutes ω) where
  aggregate := projection.aggregate
  project event := noting (fun answer => .passed ⟨number, event, answer⟩) (projection.project event)

/-- A projector of which minutes are taken. -/
def minuted (p : Projector ω) : Projector (Minutes ω) where
  checkpoints :=
    ⟨fun stream => noting (.loaded stream) (p.checkpoints.load stream),
      fun stream next => noting (.saved stream next) (p.checkpoints.save stream next)⟩
  migrate := p.migrate
  projections := p.projections.zipIdx.map fun e => attended e.1 e.2

/-- The projections for an aggregate, with their numbers. -/
def reading (p : Projector ω) (aggregate : String) : List (Projection ω × Nat) :=
  p.projections.zipIdx.filter fun e => e.1.aggregate = aggregate

/-- The numbers of the projections for an aggregate, in the order of their registration. -/
def numbers (p : Projector ω) (aggregate : String) : List Nat := (reading p aggregate).map Prod.snd

variable {p : Projector ω} {m : StreamM ω α} {note : Except StreamFault α → Note}
  {stream aggregate : String} {event : Event} {list : List (Projection ω × Nat)} {l l' : Minutes ω}

theorem selected_minuted : (minuted p).selected aggregate = (reading p aggregate).map fun e =>
    attended e.1 e.2 :=
  List.filter_map

theorem selected_eq : p.selected aggregate = (reading p aggregate).map Prod.fst := by
  have hall : p.projections = p.projections.zipIdx.map Prod.fst := (List.zipIdx_map_fst 0 _).symm
  rw [Projector.selected, hall, List.filter_map]
  rfl

/-! ### Minutes change nothing -/

theorem shadows_noting : (noting note m).Shadows Minutes.outside m := by
  have h :
      (noting note m).Shadows Minutes.outside
        (StreamM.ofFiber m.run >>= fun outcome => liftExcept outcome) := by
    refine StreamM.Shadows.bind
      (StreamM.shadows_ofFiber (Fiber.shadows_zoom Minutes.isPart_outside)) fun outcome => ?_
    exact StreamM.Shadows.aside (fun _ => rfl) (StreamM.shadows_liftExcept outcome)
  rwa [StreamM.ofFiber_run_liftExcept] at h

theorem shadows_offer :
    (Projector.offer event (list.map fun e => attended e.1 e.2)).Shadows Minutes.outside
      (Projector.offer event (list.map Prod.fst)) := by
  induction list with
  | nil => exact StreamM.shadows_pure false
  | cons e rest ih =>
    refine StreamM.Shadows.bind shadows_noting fun handled => ?_
    exact StreamM.Shadows.bind ih fun others => StreamM.shadows_pure _

theorem shadows_project {migrate : Migration} {expected : Nat} {events : List Event} :
    (Projector.project migrate (list.map fun e => attended e.1 e.2) stream expected events).Shadows
      Minutes.outside (Projector.project migrate (list.map Prod.fst) stream expected events) := by
  induction events generalizing expected with
  | nil => exact StreamM.shadows_pure expected
  | cons event rest ih =>
    rw [Projector.project, Projector.project]
    split
    · exact ih
    split
    · exact StreamM.shadows_liftExcept (.error _)
    refine StreamM.Shadows.bind (StreamM.shadows_liftExcept _) fun current => ?_
    refine StreamM.Shadows.bind shadows_offer fun handled => ?_
    split
    · exact StreamM.Shadows.bind (StreamM.shadows_liftExcept _) fun next => ih
    · exact StreamM.shadows_liftExcept (.error _)

theorem shadows_write {batch : List Event} :
    ((minuted p).write stream batch).Shadows Minutes.outside (p.write stream batch) := by
  cases batch with
  | nil => exact StreamM.shadows_pure ()
  | cons first rest =>
    rw [Projector.write, Projector.write, selected_minuted, selected_eq, List.isEmpty_map,
      List.isEmpty_map]
    split
    · exact StreamM.shadows_liftExcept (.error _)
    refine StreamM.Shadows.bind shadows_noting fun checkpoint => ?_
    refine StreamM.Shadows.bind shadows_project fun next => ?_
    split
    · exact shadows_noting
    · exact StreamM.shadows_pure ()

/-- A batch ends as it ends when minutes are taken. -/
theorem ends_write_iff {batch : List Event} {r : Except StreamFault Unit} {w w' : ω} :
    StreamM.Ends (p.write stream batch) w r w' ↔
      ∃ notes, StreamM.Ends ((minuted p).write stream batch) ⟨[], w⟩ r ⟨notes, w'⟩ := by
  have hends : StreamM.Ends (p.write stream batch) w r w' ↔
      ∃ l', StreamM.Ends ((minuted p).write stream batch) ⟨[], w⟩ r l' ∧ l'.outside = w' :=
    shadows_write.ends_iff (t := ⟨[], w⟩)
  rw [hends]
  constructor
  · rintro ⟨l', h, rfl⟩
    exact ⟨l'.notes, h⟩
  · rintro ⟨notes, h⟩
    exact ⟨_, h, rfl⟩

/-! ### What is noted -/

/-- What is noted is what came of a course. -/
theorem noting_iff {r : Except StreamFault α} : StreamM.Ends (noting note m) l r l' ↔
    ∃ outside, StreamM.Ends m l.outside r outside ∧ l' = ⟨l.notes ++ [note r], outside⟩ := by
  simp only [noting, StreamM.ends_bind_iff, StreamM.ends_run_iff, StreamM.ends_change_iff,
    StreamM.ends_liftExcept_iff, StreamM.ends_zoom_iff Minutes.isPart_outside]
  constructor
  · rintro (⟨_, _, ⟨_, ⟨outside, h, rfl⟩, ⟨⟩⟩, ⟨_, _, ⟨_, rfl⟩, rfl, rfl⟩ | ⟨_, ⟨⟨⟩, _⟩, _⟩⟩ | ⟨_,
      ⟨_, _, ⟨⟩⟩, _⟩)
    exact ⟨outside, h, rfl⟩
  · rintro ⟨outside, h, rfl⟩
    exact Or.inl ⟨r, _, ⟨r, ⟨outside, h, rfl⟩, rfl⟩, Or.inl ⟨(), _, ⟨trivial, rfl⟩, rfl, rfl⟩⟩

theorem answered_nil : Answered event [] [] :=
  ⟨rfl, fun _ h => absurd h List.not_mem_nil, fun _ h => absurd h List.not_mem_nil⟩

theorem answered_cons {number : Nat} {numbers : List Nat} {handled : Bool} {calls : List Call}
    (h : Answered event numbers calls) :
    Answered event (number :: numbers) (⟨number, event, .ok handled⟩ :: calls) where
  projections := by rw [List.map_cons, h.projections]
  event := List.forall_mem_cons.2 ⟨rfl, h.event⟩
  answer := List.forall_mem_cons.2 ⟨⟨handled, rfl⟩, h.answer⟩

/-- What comes of an event that is offered to projections of some numbers: all answer in turn, and
the event counts as handled if one of them handled it, or they answer up to one that comes to a
fault, behind which nobody is called. -/
inductive Offered (event : Event) (numbers : List Nat) : List Call → Except StreamFault Bool → Prop
  | answered {calls : List Call} {handled : Bool} (all : Answered event numbers calls)
      (handles : handled = true ↔ ∃ call ∈ calls, call.answer = .ok true) :
      Offered event numbers calls (.ok handled)
  | failed {before after : List Nat} {number : Nat} {calls : List Call} {fault : StreamFault}
      (order : numbers = before ++ number :: after) (accepted : Answered event before calls) :
      Offered event numbers (calls ++ [⟨number, event, .error fault⟩]) (.error fault)

/-- One more projection is called before the others. -/
theorem Offered.cons {numbers : List Nat} {calls : List Call} {r : Except StreamFault Bool}
    (number : Nat) (handled : Bool) (h : Offered event numbers calls r) :
    Offered event (number :: numbers) (⟨number, event, .ok handled⟩ :: calls)
      (r.map (handled || ·)) := by
  cases h with
  | @answered _ others all handles =>
    refine .answered (answered_cons all) ?_
    rw [Bool.or_eq_true_iff, handles, List.exists_mem_cons_iff, Except.ok.injEq]
  | failed order accepted =>
    rw [order, ← List.cons_append]
    exact .failed rfl (answered_cons accepted)

theorem offer_ends {r : Except StreamFault Bool}
    (h : StreamM.Ends (Projector.offer event (list.map fun e => attended e.1 e.2)) l r l') :
    ∃ calls, l'.notes = l.notes ++ calls.map .passed ∧
      Offered event (list.map Prod.snd) calls r := by
  induction list generalizing l r with
  | nil =>
    obtain ⟨rfl, rfl⟩ := StreamM.ends_pure_iff.1 h
    exact ⟨[], (List.append_nil _).symm, .answered answered_nil (by simp)⟩
  | cons e rest ih =>
    rcases StreamM.ends_bind_iff.1 h with ⟨handled, l₁, hfirst, hrest⟩ | ⟨fault, hfirst, rfl⟩
    · obtain ⟨outside, _, rfl⟩ := noting_iff.1 hfirst
      obtain ⟨others, hoffer, rfl⟩ := StreamM.ends_bind_pure_iff.1 hrest
      obtain ⟨calls, hnotes, hoffered⟩ := ih hoffer
      refine ⟨⟨e.2, event, .ok handled⟩ :: calls, ?_, hoffered.cons e.2 handled⟩
      rw [hnotes, List.append_assoc, List.singleton_append, List.map_cons]
    · obtain ⟨outside, _, rfl⟩ := noting_iff.1 hfirst
      exact ⟨[] ++ [⟨e.2, event, .error fault⟩], rfl, .failed (List.nil_append _).symm answered_nil⟩

end Minuted

end TenantAuth
