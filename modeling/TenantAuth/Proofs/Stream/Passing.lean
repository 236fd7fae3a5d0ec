import TenantAuth.Proofs.Stream.Running
import TenantAuth.Stream.Projector

/-!
Passing events on to projections, with a ledger of every call.

The projections may be any, and so may be what decides whether a checkpoint can be saved. A ledger
holds the checkpoints and every call of a projection with its answer. A batch that ends without
fault was passed on up to its end. After a fault the checkpoints are those of before, so that the
batch may come again.
-/

namespace TenantAuth

/-- What stands under a name after something was put there in the place of what was. -/
theorem lookup_put {β : Type} (list : List (String × β)) (name other : String) (value : β) :
    ((name, value) :: list.filter fun e => e.1 ≠ name).lookup other =
      if other = name then some value else list.lookup other := by
  by_cases hother : other = name
  · rw [hother, List.lookup_cons_self, if_pos rfl]
  · rw [List.lookup_cons, beq_false_of_ne hother, if_neg hother]
    change (list.filter fun e => e.1 ≠ name).lookup other = list.lookup other
    induction list with
    | nil => rfl
    | cons entry rest ih =>
      by_cases hentry : entry.1 = name
      · rw [List.filter_cons_of_neg (by simp [hentry]), ih, List.lookup_cons, hentry,
          beq_false_of_ne hother]
      · rw [List.filter_cons_of_pos (by simp [hentry]), List.lookup_cons, List.lookup_cons, ih]

/-! ### Any projector -/

namespace Projector

variable {σ : Type} {migrate : Migration} {selected : List (Projection σ)} {event : Event}
  {events : List Event} {stream : String} {expected : Nat}

theorem nextVersion_ok_iff {version next : Nat} :
    nextVersion stream version = .ok next ↔ next = version + 1 ∧ next < Nat.pow 2 64 := by
  unfold nextVersion
  split
  · rename_i hfits
    rw [Except.ok.injEq, eq_comm]
    exact ⟨fun heq => ⟨heq, heq ▸ hfits⟩, And.left⟩
  · rename_i hover
    exact ⟨nofun, fun ⟨heq, hfits⟩ => absurd (heq ▸ hfits) hover⟩

theorem nextVersion_of_fits {version : Nat} (h : version + 1 < Nat.pow 2 64) :
    nextVersion stream version = .ok (version + 1) := if_pos h

section Moves

variable {R : σ → σ → Prop} [IsTrans σ R] [Std.Refl R]

theorem moves_offer (h : ∀ projection ∈ selected, ∀ event, (projection.project event).Moves R) :
    (offer event selected).Moves R := by
  induction selected with
  | nil => exact StreamM.moves_pure false
  | cons projection others ih =>
    obtain ⟨hfirst, hothers⟩ := List.forall_mem_cons.1 h
    exact (hfirst event).bind fun handled => (ih hothers).bind fun _ => StreamM.moves_pure _

/-- What offering an event never undoes is not undone while events are projected. -/
theorem moves_project (h : ∀ event, (offer event selected).Moves R) :
    (project migrate selected stream expected events).Moves R := by
  induction events generalizing expected with
  | nil => exact StreamM.moves_pure expected
  | cons event rest ih =>
    rw [project]
    split
    · exact ih
    split
    · exact StreamM.moves_throw _
    refine (StreamM.moves_liftExcept _).bind fun current => (h current).bind fun handled => ?_
    split
    · exact (StreamM.moves_liftExcept _).bind fun next => ih
    · exact StreamM.moves_throw _

end Moves

/-- How projecting a batch goes on at its first event. It passes over an event that is covered and
goes on behind one that is handled, as long as versions last. It ends at any other. -/
inductive AtFirst (migrate : Migration) (selected : List (Projection σ)) (stream : String)
    (expected : Nat) (event : Event) (rest : List Event) (s : σ) :
    Except StreamFault Nat → σ → Prop
  | covered {r : Except StreamFault Nat} {s' : σ} (covered : event.version < expected)
      (goesOn : StreamM.Ends (project migrate selected stream expected rest) s r s') :
      AtFirst migrate selected stream expected event rest s r s'
  | ahead (ahead : expected < event.version) :
      AtFirst migrate selected stream expected event rest s
        (.error (.outOfOrder stream expected event.version)) s
  | unmigrated {fault : StreamFault} (next : event.version = expected)
      (migrated : migrate event = .error fault) :
      AtFirst migrate selected stream expected event rest s (.error fault) s
  | failed {current : Event} {fault : StreamFault} {s' : σ} (next : event.version = expected)
      (migrated : migrate event = .ok current)
      (offered : StreamM.Ends (offer current selected) s (.error fault) s') :
      AtFirst migrate selected stream expected event rest s (.error fault) s'
  | unhandled {current : Event} {s' : σ} (next : event.version = expected)
      (migrated : migrate event = .ok current)
      (offered : StreamM.Ends (offer current selected) s (.ok false) s') :
      AtFirst migrate selected stream expected event rest s
        (.error (.unhandled stream current.eventType current.version)) s'
  | spent {current : Event} {fault : StreamFault} {s' : σ} (next : event.version = expected)
      (migrated : migrate event = .ok current)
      (offered : StreamM.Ends (offer current selected) s (.ok true) s')
      (last : nextVersion stream expected = .error fault) :
      AtFirst migrate selected stream expected event rest s (.error fault) s'
  | handled {current : Event} {r : Except StreamFault Nat} {s₁ s' : σ}
      (next : event.version = expected) (migrated : migrate event = .ok current)
      (offered : StreamM.Ends (offer current selected) s (.ok true) s₁)
      (goesOn : StreamM.Ends (project migrate selected stream (expected + 1) rest) s₁ r s') :
      AtFirst migrate selected stream expected event rest s r s'

theorem atFirst_of_project {rest : List Event} {s s' : σ} {r : Except StreamFault Nat}
    (h : StreamM.Ends (project migrate selected stream expected (event :: rest)) s r s') :
    AtFirst migrate selected stream expected event rest s r s' := by
  rw [project] at h
  split at h
  · exact .covered ‹_› h
  rename_i hopen
  split at h
  · obtain ⟨rfl, rfl⟩ := StreamM.ends_throw_iff.1 h
    exact .ahead (by omega)
  rename_i hnext
  have hnext : event.version = expected := Decidable.not_not.1 hnext
  rcases StreamM.ends_bind_iff.1 h with ⟨current, s₁, hmigrate, hoffers⟩ | ⟨fault, hmigrate, rfl⟩
  · obtain ⟨hmigrated, rfl⟩ := StreamM.ends_liftExcept_iff.1 hmigrate
    rcases StreamM.ends_bind_iff.1 hoffers with ⟨handled, s₂, hoffer, hthen⟩ | ⟨_, hoffer, rfl⟩
    · cases handled with
      | false =>
        obtain ⟨rfl, rfl⟩ := StreamM.ends_throw_iff.1 hthen
        exact .unhandled hnext hmigrated.symm hoffer
      | true =>
        rcases StreamM.ends_bind_iff.1 hthen with ⟨_, s₃, hadvance, hrest⟩ | ⟨_, hadvance, rfl⟩
        · obtain ⟨hversion, rfl⟩ := StreamM.ends_liftExcept_iff.1 hadvance
          obtain ⟨rfl, _⟩ := nextVersion_ok_iff.1 hversion.symm
          exact .handled hnext hmigrated.symm hoffer hrest
        · obtain ⟨hlast, rfl⟩ := StreamM.ends_liftExcept_iff.1 hadvance
          exact .spent hnext hmigrated.symm hoffer hlast.symm
    · exact .failed hnext hmigrated.symm hoffer
  · obtain ⟨hmigrated, rfl⟩ := StreamM.ends_liftExcept_iff.1 hmigrate
    exact .unmigrated hnext hmigrated.symm

/-- What comes of a batch that begins with an event: nobody reads its aggregate; the checkpoint
cannot be loaded; projecting comes to a fault; it does not lead behind the checkpoint; or it does,
and a checkpoint is saved there. -/
inductive Outcome (p : Projector σ) (stream : String) (first : Event) (rest : List Event) (s : σ) :
    Except StreamFault Unit → σ → Prop
  | unconfigured (nobody : p.selected first.aggregate = []) :
      Outcome p stream first rest s (.error (.projectionNotConfigured first.aggregate)) s
  | unread {fault : StreamFault} {s' : σ} (someone : p.selected first.aggregate ≠ [])
      (loaded : StreamM.Ends (p.checkpoints.load stream) s (.error fault) s') :
      Outcome p stream first rest s (.error fault) s'
  | stopped {checkpoint : Nat} {fault : StreamFault} {s₁ s' : σ}
      (someone : p.selected first.aggregate ≠ [])
      (loaded : StreamM.Ends (p.checkpoints.load stream) s (.ok checkpoint) s₁)
      (projected : StreamM.Ends (project p.migrate (p.selected first.aggregate) stream checkpoint
        (first :: rest)) s₁ (.error fault) s') :
      Outcome p stream first rest s (.error fault) s'
  | idle {checkpoint next : Nat} {s₁ s' : σ} (someone : p.selected first.aggregate ≠ [])
      (loaded : StreamM.Ends (p.checkpoints.load stream) s (.ok checkpoint) s₁)
      (projected : StreamM.Ends (project p.migrate (p.selected first.aggregate) stream checkpoint
        (first :: rest)) s₁ (.ok next) s')
      (covered : next ≤ checkpoint) : Outcome p stream first rest s (.ok ()) s'
  | saved {checkpoint next : Nat} {r : Except StreamFault Unit} {s₁ s₂ s' : σ}
      (someone : p.selected first.aggregate ≠ [])
      (loaded : StreamM.Ends (p.checkpoints.load stream) s (.ok checkpoint) s₁)
      (projected : StreamM.Ends (project p.migrate (p.selected first.aggregate) stream checkpoint
        (first :: rest)) s₁ (.ok next) s₂)
      (later : checkpoint < next) (saved : StreamM.Ends (p.checkpoints.save stream next) s₂ r s') :
      Outcome p stream first rest s r s'

theorem outcome_of_write {p : Projector σ} {first : Event} {rest : List Event} {s s' : σ}
    {r : Except StreamFault Unit} (h : StreamM.Ends (p.write stream (first :: rest)) s r s') :
    Outcome p stream first rest s r s' := by
  rw [write] at h
  split at h
  · obtain ⟨rfl, rfl⟩ := StreamM.ends_throw_iff.1 h
    exact .unconfigured (List.isEmpty_iff.1 ‹_›)
  rename_i hsome
  have hsome : p.selected first.aggregate ≠ [] := fun hnone => hsome (List.isEmpty_iff.2 hnone)
  rcases StreamM.ends_bind_iff.1 h with ⟨checkpoint, s₁, hload, hprojects⟩ | ⟨_, hload, rfl⟩
  · rcases StreamM.ends_bind_iff.1 hprojects with ⟨next, s₂, hproject, hsaves⟩ | ⟨_, hproject, rfl⟩
    · split at hsaves
      · exact .saved hsome hload hproject ‹_› hsaves
      · rename_i hcovered
        obtain ⟨rfl, rfl⟩ := StreamM.ends_pure_iff.1 hsaves
        exact .idle hsome hload hproject (Nat.le_of_not_lt hcovered)
    · exact .stopped hsome hload hproject
  · exact .unread hsome hload

/-- Checkpoints and projections do not wait for ever. -/
structure Responds (p : Projector σ) : Prop where
  load : ∀ stream s, (p.checkpoints.load stream).Returns s
  save : ∀ stream next s, (p.checkpoints.save stream next).Returns s
  projections : ∀ projection ∈ p.projections, ∀ event s, (projection.project event).Returns s

theorem returns_offer (h : ∀ projection ∈ selected, ∀ event s, (projection.project event).Returns s)
    (s : σ) : (offer event selected).Returns s := by
  induction selected generalizing s with
  | nil => exact ⟨_, _, StreamM.ends_pure_iff.2 ⟨rfl, rfl⟩⟩
  | cons projection others ih =>
    obtain ⟨hfirst, hothers⟩ := List.forall_mem_cons.1 h
    refine StreamM.returns_bind (hfirst event s) fun handled s₁ _ => ?_
    exact StreamM.returns_bind (ih hothers s₁) fun _ _ _ =>
      ⟨_, _, StreamM.ends_pure_iff.2 ⟨rfl, rfl⟩⟩

theorem returns_project
    (h : ∀ projection ∈ selected, ∀ event s, (projection.project event).Returns s) (s : σ) :
    (project migrate selected stream expected events).Returns s := by
  induction events generalizing expected s with
  | nil => exact ⟨_, _, StreamM.ends_pure_iff.2 ⟨rfl, rfl⟩⟩
  | cons event rest ih =>
    rw [project]
    split
    · exact ih s
    split
    · exact ⟨_, _, StreamM.ends_throw_iff.2 ⟨rfl, rfl⟩⟩
    refine StreamM.returns_bind ⟨_, _, StreamM.ends_liftExcept_iff.2 ⟨rfl, rfl⟩⟩
      fun current s₁ _ => ?_
    refine StreamM.returns_bind (returns_offer h s₁) fun handled s₂ _ => ?_
    split
    · refine StreamM.returns_bind ⟨_, _, StreamM.ends_liftExcept_iff.2 ⟨rfl, rfl⟩⟩
        fun next s₃ _ => ?_
      exact ih s₃
    · exact ⟨_, _, StreamM.ends_throw_iff.2 ⟨rfl, rfl⟩⟩

/-- A batch is read to its end, or to a fault, as long as checkpoints and projections do not wait
for ever. -/
theorem Responds.write {p : Projector σ} (h : p.Responds) (stream : String)
    (batch : List Event) (s : σ) : (p.write stream batch).Returns s := by
  cases batch with
  | nil => exact ⟨_, _, StreamM.ends_pure_iff.2 ⟨rfl, rfl⟩⟩
  | cons first rest =>
    have hselected : ∀ projection ∈ p.selected first.aggregate, ∀ event s,
        (projection.project event).Returns s :=
      fun projection hprojection => h.projections projection (List.mem_filter.1 hprojection).1
    rw [Projector.write]
    split
    · exact ⟨_, _, StreamM.ends_throw_iff.2 ⟨rfl, rfl⟩⟩
    refine StreamM.returns_bind (h.load stream s) fun checkpoint s₁ _ => ?_
    refine StreamM.returns_bind (returns_project hselected s₁) fun next s₂ _ => ?_
    split
    · exact h.save stream next s₂
    · exact ⟨_, _, StreamM.ends_pure_iff.2 ⟨rfl, rfl⟩⟩

end Projector

namespace CheckpointTable

variable {table table' : CheckpointTable} {stream other : String} {next : Nat}

theorem load_insert :
    (table.insert stream next).load other = if other = stream then next else table.load other := by
  rw [load, insert, lookup_put]
  split <;> rfl

theorem save_ok (h : table.save stream next = .ok table') : table' = table.insert stream next := by
  unfold save at h
  split at h
  · cases h
  · exact (Except.ok.inj h).symm

end CheckpointTable

namespace Delivery

/-- A call of a projection, which goes by its number: the event it was given, and its answer. -/
structure Call where
  projection : Nat
  event : Event
  answer : Except StreamFault Bool

/-- What deliveries work on: checkpoints, the calls so far, and whatever the projections build. -/
structure Ledger (ω : Type) where
  table : CheckpointTable
  calls : List Call
  outside : ω

/-- Those who read streams: their projections, what is done to events before, and whether a
checkpoint may be saved. -/
structure Readers (ω : Type) where
  projections : List (Projection ω)
  migrate : Migration
  permit : (stream : String) → (next : Nat) → StreamM ω Unit

variable {ω α : Type}

namespace Ledger

/-- A course of action on what the projections build. -/
def beyond (m : StreamM ω α) : StreamM (Ledger ω) α :=
    m.zoom Ledger.outside fun outside l => { l with outside }

/-- The checkpoint of a stream. -/
def checkpoint (l : Ledger ω) (stream : String) : Nat := l.table.load stream

theorem isPart_outside : IsPart (Ledger.outside (ω := ω)) fun outside l => { l with outside } :=
  ⟨fun _ _ => rfl, fun _ _ _ => rfl, fun _ => rfl⟩

theorem isPart_table : IsPart (Ledger.table (ω := ω)) fun table l => { l with table } :=
  ⟨fun _ _ => rfl, fun _ _ _ => rfl, fun _ => rfl⟩

end Ledger

/-- A projection of a number, whose calls are entered into the ledger. -/
def observed (projection : Projection ω) (number : Nat) : Projection (Ledger ω) where
  aggregate := projection.aggregate
  project event := do
    let answer ← StreamM.ofFiber (Ledger.beyond (projection.project event)).run
    StreamM.ofFiber (Fiber.change fun l => { l with calls := l.calls ++ [⟨number, event, answer⟩] })
    liftExcept answer

namespace Readers

variable (readers : Readers ω)

/-- Checkpoints in the ledger, where saving one may be refused. -/
def checkpoints : Checkpoints (Ledger ω) where
  load := (Checkpoints.inTable.zoom Ledger.table fun table l => { l with table }).load
  save stream next := do
    Ledger.beyond (readers.permit stream next)
    (Checkpoints.inTable.zoom Ledger.table fun table l => { l with table }).save stream next

/-- What feeds the projections. -/
def projector : Projector (Ledger ω) where
  checkpoints := readers.checkpoints
  migrate := readers.migrate
  projections := readers.projections.zipIdx.map fun e => observed e.1 e.2

/-- The projections for an aggregate, with their numbers. -/
def reading (aggregate : String) : List (Projection ω × Nat) :=
  readers.projections.zipIdx.filter fun e => e.1.aggregate = aggregate

theorem selected_eq (aggregate : String) :
    readers.projector.selected aggregate = (readers.reading aggregate).map fun e =>
      observed e.1 e.2 :=
  List.filter_map

end Readers

/-! ### One event -/

/-- A course on the ledger only adds calls, and leaves the checkpoints as they are. -/
structure Adds (l l' : Ledger ω) : Prop where
  table : l'.table = l.table
  calls : l.calls <+: l'.calls

instance : Std.Refl (Adds (ω := ω)) := ⟨fun _ => ⟨rfl, List.prefix_refl _⟩⟩

instance : IsTrans (Ledger ω) Adds :=
    ⟨fun _ _ _ h h₁ => ⟨h₁.table.trans h.table, h.calls.trans h₁.calls⟩⟩

/-- Calls that pass an event to projections of some numbers in turn, each of which answers without
fault. -/
structure Answered (event : Event) (numbers : List Nat) (calls : List Call) : Prop where
  projections : calls.map Call.projection = numbers
  event : ∀ call ∈ calls, call.event = event
  answer : ∀ call ∈ calls, ∃ handled, call.answer = .ok handled

variable {readers : Readers ω} {l l' : Ledger ω}

/-- A projection that is observed does what it does anyway, and its call is entered. -/
theorem observed_iff {projection : Projection ω} {number : Nat} {event : Event}
    {r : Except StreamFault Bool} :
    StreamM.Ends ((observed projection number).project event) l r l' ↔
      ∃ outside, StreamM.Ends (projection.project event) l.outside r outside ∧
        l' = { l with outside := outside, calls := l.calls ++ [⟨number, event, r⟩] } := by
  simp only [observed, StreamM.ends_bind_iff, StreamM.ends_run_iff, StreamM.ends_change_iff,
    StreamM.ends_liftExcept_iff, Ledger.beyond, StreamM.ends_zoom_iff Ledger.isPart_outside]
  constructor
  · rintro (⟨_, _, ⟨_, ⟨outside, h, rfl⟩, ⟨⟩⟩, ⟨_, _, ⟨_, rfl⟩, rfl, rfl⟩ | ⟨_, ⟨⟨⟩, _⟩, _⟩⟩ | ⟨_,
      ⟨_, _, ⟨⟩⟩, _⟩)
    exact ⟨outside, h, rfl⟩
  · rintro ⟨outside, h, rfl⟩
    exact Or.inl ⟨r, _, ⟨r, ⟨outside, h, rfl⟩, rfl⟩, Or.inl ⟨(), _, ⟨trivial, rfl⟩, rfl, rfl⟩⟩

/-- Offering an event calls one projection after another; all of them answer, unless one comes to a
fault. -/
theorem offer_ends {event : Event} {list : List (Projection ω × Nat)} {r : Except StreamFault Bool}
    (h : StreamM.Ends (Projector.offer event (list.map fun e => observed e.1 e.2)) l r l') :
    l'.table = l.table ∧ ∃ calls, l'.calls = l.calls ++ calls ∧
      calls.map Call.projection <+: list.map Prod.snd ∧ (∀ call ∈ calls, call.event = event) ∧
      ∀ handled, r = .ok handled → Answered event (list.map Prod.snd) calls ∧
        (handled = true → ∃ call ∈ calls, call.answer = .ok true) := by
  induction list generalizing l r l' with
  | nil =>
    obtain ⟨rfl, rfl⟩ := StreamM.ends_pure_iff.1 h
    refine ⟨rfl, [], (List.append_nil _).symm, List.prefix_refl _, nofun, ?_⟩
    rintro handled ⟨⟩
    exact ⟨⟨rfl, by simp, by simp⟩, by simp⟩
  | cons e rest ih =>
    rcases StreamM.ends_bind_iff.1 h with ⟨handled, l₁, hproject, h⟩ | ⟨fault, hproject, rfl⟩
    · obtain ⟨outside, _, rfl⟩ := observed_iff.1 hproject
      rcases StreamM.ends_bind_iff.1 h with ⟨others, l₂, hoffer, h⟩ | ⟨fault, hoffer, rfl⟩
      · obtain ⟨htable, calls, hcalls, _, hevents, hanswers⟩ := ih hoffer
        obtain ⟨rfl, rfl⟩ := StreamM.ends_pure_iff.1 h
        obtain ⟨⟨hnumbers, _, hanswered⟩, hhandled⟩ := hanswers others rfl
        have hall : (⟨e.2, event, .ok handled⟩ :: calls : List Call).map Call.projection =
            (e :: rest).map Prod.snd := by
          rw [List.map_cons, hnumbers, List.map_cons]
        refine ⟨htable, ⟨e.2, event, .ok handled⟩ :: calls, ?_, hall ▸ List.prefix_refl _,
          List.forall_mem_cons.2 ⟨rfl, hevents⟩, ?_⟩
        · rw [hcalls, List.append_assoc, List.singleton_append]
        rintro _ ⟨⟩
        refine ⟨⟨hall, List.forall_mem_cons.2 ⟨rfl, hevents⟩, ?_⟩, ?_⟩
        · exact List.forall_mem_cons.2 ⟨⟨handled, rfl⟩, hanswered⟩
        · intro hor
          rcases Bool.or_eq_true_iff.1 hor with rfl | hothers
          · exact ⟨_, List.mem_cons_self, rfl⟩
          · obtain ⟨call, hcall, hanswer⟩ := hhandled hothers
            exact ⟨call, List.mem_cons_of_mem _ hcall, hanswer⟩
      · obtain ⟨htable, calls, hcalls, hnumbers, hevents, _⟩ := ih hoffer
        refine ⟨htable, ⟨e.2, event, .ok handled⟩ :: calls, ?_, List.cons_prefix_cons.2
          ⟨rfl, hnumbers⟩, List.forall_mem_cons.2 ⟨rfl, hevents⟩, nofun⟩
        rw [hcalls, List.append_assoc, List.singleton_append]
    · obtain ⟨outside, _, rfl⟩ := observed_iff.1 hproject
      exact ⟨rfl, [⟨e.2, event, .error fault⟩], rfl, List.cons_prefix_cons.2 ⟨rfl, List.nil_prefix⟩,
        List.forall_mem_singleton.2 rfl, nofun⟩

/-- An event was projected: brought up to date, it was passed to all projections for its aggregate
in turn, each answered without fault, and one at least handled it. -/
def Projected (readers : Readers ω) (calls : List Call) (event : Event) : Prop :=
  ∃ current answers, readers.migrate event = .ok current ∧ answers <:+: calls ∧
    Answered current ((readers.reading event.aggregate).map Prod.snd) answers ∧
    ∃ call ∈ answers, call.answer = .ok true

/-- An event that was projected stays so whatever is called later. -/
theorem Projected.mono {calls calls' : List Call} {event : Event}
    (h : Projected readers calls event) (hcalls : calls <+: calls') :
    Projected readers calls' event := by
  obtain ⟨current, answers, hmigrate, hanswers, h⟩ := h
  exact ⟨current, answers, hmigrate, hanswers.trans hcalls.isInfix, h⟩

/-! ### Coming to an end -/

/-- Projections, and what decides about checkpoints, do not wait for ever. -/
structure Responsive (readers : Readers ω) : Prop where
  projections : ∀ projection ∈ readers.projections, ∀ event outside,
    StreamM.Returns (projection.project event) outside
  permit : ∀ stream next outside, StreamM.Returns (readers.permit stream next) outside

end Delivery

end TenantAuth
