import TenantAuth.Proofs.Stream.Minutes

/-!
Batches of any shape.

Events may come in any order, more than once, and with gaps between them. Of a batch those events
are due that go on from the checkpoint without a gap, each version once; what the checkpoint covers
by the time it is reached is passed over. The events that are due are brought up to date and passed
on one after the other, up to the first that cannot be passed on to everyone. The batch is written
if all of them could be, and nothing in it lies ahead of what was expected at its turn. Then the
checkpoint stands behind the last of them, and in all other cases it stays.
-/

namespace TenantAuth.Minuted

open Delivery

variable {ω : Type} {stream : String} {c c' : Nat} {event : Event} {events rest : List Event}

/-! ### Events that are due -/

/-- The events of a batch that go on from a version, each version once, up to a gap. -/
def due (c : Nat) : List Event → List Event
  | [] => []
  | event :: rest =>
    if event.version < c then due c rest
    else if event.version = c then event :: due (c + 1) rest
    else []

/-- No event of a batch lies ahead of the version that is expected at its turn. -/
def FollowsOn (c : Nat) (events : List Event) : Prop :=
  ∀ before event after, events = before ++ event :: after → event.version ≤
    c + (due c before).length

theorem due_covered (h : event.version < c) : due c (event :: rest) = due c rest := if_pos h

theorem due_next (h : event.version = c) : due c (event :: rest) = event :: due (c + 1) rest := by
  rw [due, if_neg (by omega), if_pos h]

theorem due_gap (h : c < event.version) : due c (event :: rest) = [] := by
  rw [due, if_neg (by omega), if_neg (by omega)]

theorem numbered_due (c : Nat) (events : List Event) : Numbered c (due c events) := by
  induction events generalizing c with
  | nil => rfl
  | cons event rest ih =>
    rcases lt_trichotomy event.version c with hcovered | hnext | hgap
    · rw [due_covered hcovered]
      exact ih c
    · rw [due_next hnext]
      exact numbered_cons.2 ⟨hnext, ih (c + 1)⟩
    · rw [due_gap hgap]
      rfl

theorem due_sublist (c : Nat) (events : List Event) : (due c events).Sublist events := by
  induction events generalizing c with
  | nil => exact List.Sublist.refl _
  | cons event rest ih =>
    rw [due]
    split
    · exact (ih c).cons event
    split
    · exact (ih (c + 1)).cons_cons event
    · exact List.nil_sublist _

/-- What is due of some events stays due when more come behind them. -/
theorem prefix_due_append (c : Nat) (events more : List Event) :
    due c events <+: due c (events ++ more) := by
  induction events generalizing c with
  | nil => exact List.nil_prefix
  | cons event rest ih =>
    rw [List.cons_append, due, due]
    split
    · exact ih c
    split
    · exact List.cons_prefix_cons.2 ⟨rfl, ih (c + 1)⟩
    · exact List.prefix_refl _

theorem FollowsOn.le (h : FollowsOn c events) (hevent : event ∈ events) :
    event.version ≤ c + (due c events).length := by
  obtain ⟨before, after, rfl⟩ := List.append_of_mem hevent
  have hprefix := (prefix_due_append c before (event :: after)).length_le
  have hturn := h before event after rfl
  omega

/-- Reading an event leads from an expected version to the next one. -/
structure Expects (c : Nat) (event : Event) (c' : Nat) : Prop where
  le : event.version ≤ c
  due : ∀ more, c + (due c (event :: more)).length = c' + (due c' more).length

theorem expects_covered (h : event.version < c) : Expects c event c :=
    ⟨by omega, fun _ => by rw [due_covered h]⟩

theorem expects_next (h : event.version = c) : Expects c event (c + 1) :=
  ⟨by omega, fun _ => by rw [due_next h, List.length_cons]; omega⟩

theorem Expects.followsOn (h : Expects c event c') (hrest : FollowsOn c' rest) :
    FollowsOn c (event :: rest) := by
  rintro (_ | ⟨_, before⟩) other after hsplit
  · obtain ⟨rfl, _⟩ := List.cons.inj hsplit
    exact h.le
  · obtain ⟨rfl, rfl⟩ := List.cons.inj hsplit
    rw [h.due]
    exact hrest before other after rfl

/-! ### Passing on what is due -/

/-- Calls pass events on: each is brought up to date and passed to projections of some numbers in
turn, before the next. Either all are passed on, or there is a cut: an event could not be brought up
to date, a projection came to a fault, or nobody handled the event. -/
inductive InTurn (migrate : Migration) (numbers : List Nat) (stream : String) :
    List Event → List Call → (cut : Option StreamFault) → Prop
  | done : InTurn migrate numbers stream [] [] none
  | passed {event current : Event} {rest : List Event} {answers calls : List Call}
      {cut : Option StreamFault} (migrated : migrate event = .ok current)
      (accepted : Answered current numbers answers)
      (handled : ∃ call ∈ answers, call.answer = .ok true)
      (more : InTurn migrate numbers stream rest calls cut) :
      InTurn migrate numbers stream (event :: rest) (answers ++ calls) cut
  | unmigrated {event : Event} {rest : List Event} {fault : StreamFault}
      (refused : migrate event = .error fault) :
      InTurn migrate numbers stream (event :: rest) [] (some fault)
  | failed {event current : Event} {rest : List Event} {before after : List Nat} {number : Nat}
      {answers : List Call} {fault : StreamFault} (migrated : migrate event = .ok current)
      (order : numbers = before ++ number :: after) (accepted : Answered current before answers) :
      InTurn migrate numbers stream (event :: rest) (answers ++ [⟨number, current, .error fault⟩])
        (some fault)
  | unhandled {event current : Event} {rest : List Event} {answers : List Call}
      (migrated : migrate event = .ok current) (accepted : Answered current numbers answers)
      (ignored : ∀ call ∈ answers, call.answer ≠ .ok true) :
      InTurn migrate numbers stream (event :: rest) answers
        (some (.unhandled stream current.eventType current.version))

theorem answered_length {numbers : List Nat} {answers : List Call}
    (h : Answered event numbers answers) : answers.length = numbers.length := by
  rw [← h.projections, List.length_map]

/-- Calls that pass all on do not also come to a cut. -/
theorem InTurn.uncut {migrate : Migration} {numbers : List Nat} {calls : List Call}
    {fault : StreamFault} (h : InTurn migrate numbers stream events calls none) :
    ¬ InTurn migrate numbers stream events calls (some fault) := by
  intro hcut
  induction events generalizing calls with
  | nil => cases hcut
  | cons event rest ih =>
    cases h with
    | @passed _ current _ answers more _ migrated accepted handled hmore =>
      generalize hcalls : answers ++ more = calls at hcut
      have hanswers : answers <+: calls := ⟨more, hcalls⟩
      cases hcut with
      | @passed _ current' _ answers' more' _ migrated' accepted' _ hmore' =>
        have hlength : answers.length = answers'.length := by
          rw [answered_length accepted, answered_length accepted']
        obtain ⟨_, rfl⟩ := List.append_inj hcalls hlength
        exact ih hmore hmore'
      | unmigrated refused => cases migrated.symm.trans refused
      | @failed _ current' _ before after number answers' _ migrated' order accepted' =>
        -- the call that comes to a fault would be among those that are answered without
        have hbroken : answers' ++ [⟨number, current', .error fault⟩] <+: answers := by
          refine List.prefix_of_prefix_length_le (List.prefix_refl _) hanswers ?_
          rw [List.length_append, answered_length accepted', answered_length accepted, order,
            List.length_append, List.length_singleton, List.length_cons]
          omega
        obtain ⟨_, ⟨⟩⟩ :=
          accepted.answer _ (hbroken.subset (List.mem_append_right _ List.mem_cons_self))
      | @unhandled _ current' _ answers' migrated' accepted' ignored =>
        obtain ⟨call, hcall, htrue⟩ := handled
        exact ignored call (hanswers.subset hcall) htrue

/-- Where reading a batch stops: at a cut, at its end, or at an event that lies ahead. -/
inductive Stops (stream : String) (c : Nat) (events : List Event) :
    Option StreamFault → Except StreamFault Nat → Prop
  | cut {fault : StreamFault} : Stops stream c events (some fault) (.error fault)
  | whole (follows : FollowsOn c events) :
      Stops stream c events none (.ok (c + (due c events).length))
  | gap {event : Event} (mem : event ∈ events) (ahead : c + (due c events).length < event.version) :
      Stops stream c events none
        (.error (.outOfOrder stream (c + (due c events).length) event.version))

theorem Expects.stops {cut : Option StreamFault} {r : Except StreamFault Nat}
    (h : Expects c event c') (hrest : Stops stream c' rest cut r) :
    Stops stream c (event :: rest) cut r := by
  cases hrest with
  | cut => exact .cut
  | whole follows =>
    rw [← h.due]
    exact .whole (h.followsOn follows)
  | gap mem ahead =>
    rw [← h.due] at ahead ⊢
    exact .gap (List.mem_cons_of_mem _ mem) ahead

/-- Nothing is due of a batch that starts ahead. -/
theorem stops_ahead (h : c < event.version) :
    Stops stream c (event :: rest) none (.error (.outOfOrder stream c event.version)) := by
  have hnothing :
    c + (due c (event :: rest)).length = c := by rw [due_gap h, List.length_nil, Nat.add_zero]
  have hstops : Stops stream c (event :: rest) none _ := .gap List.mem_cons_self (hnothing.symm ▸ h)
  rwa [hnothing] at hstops

/-- Projecting a batch passes on what is due of it. -/
theorem project_ends {migrate : Migration} {list : List (Projection ω × Nat)} {l l' : Minutes ω}
    {r : Except StreamFault Nat} (hversions : ∀ event ∈ events, event.version + 1 < Nat.pow 2 64)
    (h : StreamM.Ends
      (Projector.project migrate (list.map fun e => attended e.1 e.2) stream c events) l r l') :
    ∃ calls cut, l'.notes = l.notes ++ calls.map .passed ∧
      InTurn migrate (list.map Prod.snd) stream (due c events) calls cut ∧
      Stops stream c events cut r := by
  induction events generalizing c l with
  | nil =>
    obtain ⟨rfl, rfl⟩ := StreamM.ends_pure_iff.1 h
    exact ⟨[], none, (List.append_nil _).symm, .done, .whole fun before event after hsplit =>
      absurd hsplit.symm (by simp)⟩
  | cons event rest ih =>
    obtain ⟨hversion, hrest⟩ := List.forall_mem_cons.1 hversions
    cases Projector.atFirst_of_project h with
    | covered hcovered hends =>
      obtain ⟨calls, cut, hnotes, hturn, hstops⟩ := ih hrest hends
      rw [due_covered hcovered]
      exact ⟨calls, cut, hnotes, hturn, (expects_covered hcovered).stops hstops⟩
    | ahead hgap =>
      rw [due_gap hgap]
      exact ⟨[], none, (List.append_nil _).symm, .done, stops_ahead hgap⟩
    | unmigrated hnext hmigrated =>
      rw [due_next hnext]
      exact ⟨[], _, (List.append_nil _).symm, .unmigrated hmigrated, .cut⟩
    | failed hnext hmigrated hoffer =>
      rw [due_next hnext]
      obtain ⟨answers, hanswers, hoffered⟩ := offer_ends hoffer
      cases hoffered with
      | failed order accepted =>
        exact ⟨_, _, hanswers, .failed hmigrated order accepted, .cut⟩
    | unhandled hnext hmigrated hoffer =>
      rw [due_next hnext]
      obtain ⟨answers, hanswers, hoffered⟩ := offer_ends hoffer
      cases hoffered with
      | answered all handles =>
        exact ⟨answers, _, hanswers, .unhandled hmigrated all
          fun call hcall htrue => Bool.false_ne_true (handles.2 ⟨call, hcall, htrue⟩), .cut⟩
    | spent hnext _ _ hlast =>
      rw [Projector.nextVersion_of_fits (hnext ▸ hversion)] at hlast
      cases hlast
    | handled hnext hmigrated hoffer hends =>
      rw [due_next hnext]
      obtain ⟨answers, hanswers, hoffered⟩ := offer_ends hoffer
      cases hoffered with
      | answered all handles =>
        obtain ⟨calls, cut, hnotes, hturn, hstops⟩ := ih hrest hends
        refine ⟨answers ++ calls, cut, ?_, .passed hmigrated all (handles.1 rfl) hturn,
          (expects_next hnext).stops hstops⟩
        rw [hnotes, hanswers, List.append_assoc, List.map_append]

/-! ### Checkpoints -/

/-- The same is seen of two states. -/
def SameView {γ : Type} (view : ω → γ) (w w' : ω) : Prop := view w' = view w

instance {γ : Type} (view : ω → γ) : Std.Refl (SameView view) := ⟨fun _ => rfl⟩

instance {γ : Type} (view : ω → γ) : IsTrans ω (SameView view) := ⟨fun _ _ _ h h' => h'.trans h⟩

/-- Checkpoints can be read off the state: one that is loaded is what stands there for its stream,
one that is saved stands there afterwards, and nothing else changes them, be it a fault or a
projection. -/
structure KeepsCheckpoints (p : Projector ω) (view : ω → String → Nat) : Prop where
  load : ∀ stream w r w', StreamM.Ends (p.checkpoints.load stream) w r w' →
    view w' = view w ∧ ∀ c, r = .ok c → c = view w stream
  save : ∀ stream next w r w', StreamM.Ends (p.checkpoints.save stream next) w r w' →
    (r = .ok () → ∀ other, view w' other = if other = stream then next else view w other) ∧
      ∀ fault, r = .error fault → view w' = view w
  projections : ∀ projection ∈ p.projections,
    ∀ event, (projection.project event).Moves (SameView view)

section InTable

variable {get : ω → CheckpointTable} {set : CheckpointTable → ω → ω} {w w' : ω}

theorem load_inTable (hpart : IsPart get set) {r : Except StreamFault Nat}
    (h : StreamM.Ends ((Checkpoints.inTable.zoom get set).load stream) w r w') :
    r = .ok ((get w).load stream) ∧ w' = w := by
  obtain ⟨table, hlook, rfl⟩ := (StreamM.ends_zoom_iff hpart).1 h
  obtain ⟨rfl, rfl⟩ := StreamM.ends_look_iff.1 hlook
  exact ⟨rfl, hpart.set_get w⟩

/-- A version that is no earlier than the first can always be saved in a table. -/
theorem save_inTable (hpart : IsPart get set) {next : Nat} (hnext : firstVersion ≤ next)
    {r : Except StreamFault Unit}
    (h : StreamM.Ends ((Checkpoints.inTable.zoom get set).save stream next) w r w') :
    r = .ok () := by
  obtain ⟨table, hstep, rfl⟩ := (StreamM.ends_zoom_iff hpart).1 h
  rw [(StreamM.ends_step_iff.1 hstep).1, CheckpointTable.save, if_neg (Nat.not_lt.2 hnext)]

/-- Nobody waits for checkpoints that are kept in a table. -/
theorem returns_inTable (hpart : IsPart get set) (stream : String) (w : ω) :
    ((Checkpoints.inTable.zoom get set).load stream).Returns w ∧
      ∀ next, ((Checkpoints.inTable.zoom get set).save stream next).Returns w :=
  ⟨StreamM.Returns.zoom hpart ⟨_, _, StreamM.ends_look_iff.2 ⟨rfl, rfl⟩⟩,
    fun _ => StreamM.Returns.zoom hpart ⟨_, _, StreamM.ends_step_iff.2 ⟨rfl, rfl⟩⟩⟩

/-- Checkpoints that are kept in a table can be read off it, as long as projections leave it
alone. -/
theorem keepsCheckpoints_inTable {p : Projector ω} (hpart : IsPart get set)
    (hcheckpoints : p.checkpoints = Checkpoints.inTable.zoom get set)
    (hprojections : ∀ projection ∈ p.projections,
      ∀ event, (projection.project event).Moves (SameView get)) :
    KeepsCheckpoints p fun w => (get w).load where
  load stream w r w' h := by
    rw [hcheckpoints] at h
    obtain ⟨rfl, rfl⟩ := load_inTable hpart h
    exact ⟨rfl, fun c hc => (Except.ok.inj hc).symm⟩
  save stream next w r w' h := by
    rw [hcheckpoints] at h
    obtain ⟨table, hstep, rfl⟩ := (StreamM.ends_zoom_iff hpart).1 h
    obtain ⟨rfl, rfl⟩ := StreamM.ends_step_iff.1 hstep
    rw [hpart.get_set]
    cases hsave : (get w).save stream next with
    | ok table =>
      rw [CheckpointTable.save_ok hsave]
      exact ⟨fun _ other => CheckpointTable.load_insert, nofun⟩
    | error fault => exact ⟨nofun, fun _ _ => rfl⟩
  projections projection hprojection event w r w' h :=
    congrArg CheckpointTable.load (hprojections projection hprojection event w r w' h)

end InTable

/-! ### Whole batches -/

/-- What is done with a batch and what comes of it: the checkpoint cannot be loaded; the batch is
read up to a fault; nothing of it is due; or a checkpoint is saved behind the last event that was
due. -/
inductive Course (p : Projector ω) (stream aggregate : String) (batch : List Event) (w : ω) :
    List Note → Except StreamFault Unit → ω → Prop
  | unread {fault : StreamFault} {w' : ω}
      (load : StreamM.Ends (p.checkpoints.load stream) w (.error fault) w') :
      Course p stream aggregate batch w [.loaded stream (.error fault)] (.error fault) w'
  | stopped {c : Nat} {calls : List Call} {cut : Option StreamFault}
      {fault : StreamFault} {w₁ w' : ω}
      (load : StreamM.Ends (p.checkpoints.load stream) w (.ok c) w₁)
      (project : StreamM.Ends (Projector.project p.migrate (p.selected aggregate) stream c batch) w₁
        (.error fault) w')
      (turn : InTurn p.migrate (numbers p aggregate) stream (due c batch) calls cut)
      (stops : Stops stream c batch cut (.error fault)) :
      Course p stream aggregate batch w (.loaded stream (.ok c) :: calls.map .passed)
        (.error fault) w'
  | idle {c : Nat} {calls : List Call} {w₁ w' : ω}
      (load : StreamM.Ends (p.checkpoints.load stream) w (.ok c) w₁)
      (project : StreamM.Ends (Projector.project p.migrate (p.selected aggregate) stream c batch) w₁
        (.ok c) w')
      (turn : InTurn p.migrate (numbers p aggregate) stream (due c batch) calls none)
      (follows : FollowsOn c batch)
      (nothing : due c batch = []) :
      Course p stream aggregate batch w (.loaded stream (.ok c) :: calls.map .passed) (.ok ()) w'
  | saved {c next : Nat} {calls : List Call} {r : Except StreamFault Unit} {w₁ w₂ w' : ω}
      (load : StreamM.Ends (p.checkpoints.load stream) w (.ok c) w₁)
      (project : StreamM.Ends (Projector.project p.migrate (p.selected aggregate) stream c batch) w₁
        (.ok next) w₂)
      (turn : InTurn p.migrate (numbers p aggregate) stream (due c batch) calls none)
      (follows : FollowsOn c batch)
      (behind : next = c + (due c batch).length) (later : c < next)
      (save : StreamM.Ends (p.checkpoints.save stream next) w₂ r w') :
      Course p stream aggregate batch w
        (.loaded stream (.ok c) :: calls.map .passed ++ [.saved stream next r]) r w'

variable {p : Projector ω} {aggregate : String} {batch : List Event} {w w' : ω} {notes : List Note}
  {r : Except StreamFault Unit}

/-- Projecting a batch with minutes is projecting it, and the minutes hold what is passed on. -/
theorem reading_ends {l l' : Minutes ω} {r : Except StreamFault Nat}
    (hversions : ∀ event ∈ batch, event.version + 1 < Nat.pow 2 64)
    (h : StreamM.Ends
      (Projector.project p.migrate ((reading p aggregate).map fun e => attended e.1 e.2) stream c
        batch) l r l') :
    StreamM.Ends (Projector.project p.migrate (p.selected aggregate) stream c batch) l.outside
      r l'.outside ∧ ∃ calls cut, l'.notes = l.notes ++ calls.map .passed ∧
        InTurn p.migrate (numbers p aggregate) stream (due c batch) calls cut ∧
        Stops stream c batch cut r := by
  rw [selected_eq]
  exact ⟨shadows_project.ends_iff.2 ⟨l', h, rfl⟩, project_ends hversions h⟩

/-- A batch takes one of these courses. -/
theorem course_of_write {first : Event} (hselected : p.selected first.aggregate ≠ [])
    (hversions : ∀ event ∈ first :: rest, event.version + 1 < Nat.pow 2 64)
    (h : StreamM.Ends ((minuted p).write stream (first :: rest)) ⟨[], w⟩ r ⟨notes, w'⟩) :
    Course p stream first.aggregate (first :: rest) w notes r w' := by
  cases Projector.outcome_of_write h with
  | unconfigured hnobody =>
    rw [selected_minuted, List.map_eq_nil_iff] at hnobody
    rw [selected_eq, hnobody] at hselected
    exact absurd rfl hselected
  | unread _ hloads =>
    obtain ⟨_, hload, hend⟩ := noting_iff.1 hloads
    obtain ⟨rfl, rfl⟩ := Minutes.mk.inj hend
    exact .unread hload
  | stopped _ hloads hproject =>
    obtain ⟨w₁, hload, rfl⟩ := noting_iff.1 hloads
    rw [selected_minuted] at hproject
    obtain ⟨hplain, calls, cut, hnotes, hturn, hstops⟩ := reading_ends hversions hproject
    rw [show notes = _ from hnotes]
    exact .stopped hload hplain hturn hstops
  | @idle c _ _ _ _ hloads hproject hcovered =>
    obtain ⟨w₁, hload, rfl⟩ := noting_iff.1 hloads
    rw [selected_minuted] at hproject
    obtain ⟨hplain, calls, cut, hnotes, hturn, hstops⟩ := reading_ends hversions hproject
    cases hstops with
    | whole follows =>
      have hnothing : due c (first :: rest) = [] := List.eq_nil_of_length_eq_zero (by omega)
      rw [hnothing] at hplain
      rw [show notes = _ from hnotes]
      exact .idle hload hplain hturn follows hnothing
  | saved _ hloads hproject hlater hsaves =>
    obtain ⟨w₁, hload, rfl⟩ := noting_iff.1 hloads
    rw [selected_minuted] at hproject
    obtain ⟨hplain, calls, cut, hnotes, hturn, hstops⟩ := reading_ends hversions hproject
    cases hstops with
    | whole follows =>
      obtain ⟨_, hsave, hend⟩ := noting_iff.1 hsaves
      obtain ⟨rfl, rfl⟩ := Minutes.mk.inj hend
      rw [hnotes]
      exact .saved hload hplain hturn follows rfl hlater hsave

/-- What came of a batch whose checkpoint could be loaded. -/
structure Written (p : Projector ω) (stream aggregate : String) (batch : List Event) (c : Nat)
    (calls : List Call) (saved : Option (Except StreamFault Unit))
    (r : Except StreamFault Unit) : Prop where
  /-- The events that are due have the versions from the checkpoint on, each once. -/
  numbered : Numbered c (due c batch)
  taken : (due c batch).Sublist batch
  /-- Projections are called with these events in turn, and with nothing else. A cut is what the
  batch comes to. -/
  turn : ∃ cut, InTurn p.migrate (numbers p aggregate) stream (due c batch) calls cut ∧
    ∀ fault, cut = some fault → r = .error fault
  saved_iff : saved.isSome = true ↔ due c batch ≠ [] ∧ FollowsOn c batch ∧
    InTurn p.migrate (numbers p aggregate) stream (due c batch) calls none
  ok_iff : r = .ok () ↔
    FollowsOn c batch ∧ InTurn p.migrate (numbers p aggregate) stream (due c batch) calls none ∧
    ∀ answer, saved = some answer → answer = .ok ()

/-- A batch that stops at a fault either does not follow on, or was not passed on as a whole. -/
theorem Stops.refused {cut : Option StreamFault} {calls : List Call} {fault : StreamFault}
    {migrate : Migration} {numbers : List Nat} (h : Stops stream c batch cut (.error fault))
    (hturn : InTurn migrate numbers stream (due c batch) calls cut) :
    ¬ (FollowsOn c batch ∧ InTurn migrate numbers stream (due c batch) calls none) := by
  rintro ⟨hfollows, hall⟩
  cases h with
  | cut => exact hall.uncut hturn
  | gap mem ahead => exact absurd (hfollows.le mem) (Nat.not_le.2 ahead)

theorem Course.written (h : Course p stream aggregate batch w notes r w') :
    (∃ fault, notes = [.loaded stream (.error fault)] ∧ r = .error fault) ∨
      ∃ c calls saved, notes = .loaded stream (.ok c) :: calls.map .passed ++
          saved.toList.map (.saved stream (c + (due c batch).length)) ∧
        Written p stream aggregate batch c calls saved r := by
  cases h with
  | @unread fault _ load => exact Or.inl ⟨fault, rfl, rfl⟩
  | @stopped c calls cut fault _ _ load project turn stops =>
    have hrefused := stops.refused turn
    refine Or.inr ⟨c, calls, none, (List.append_nil _).symm, ?_⟩
    exact {
      numbered := numbered_due c batch
      taken := due_sublist c batch
      turn := by
        refine ⟨cut, turn, ?_⟩
        rintro _ rfl
        cases stops
        rfl
      saved_iff := ⟨nofun, fun h => absurd h.2 hrefused⟩
      ok_iff := ⟨nofun, fun h => absurd ⟨h.1, h.2.1⟩ hrefused⟩ }
  | @idle c calls _ _ load project turn follows nothing =>
    refine Or.inr ⟨c, calls, none, (List.append_nil _).symm, ?_⟩
    exact {
      numbered := numbered_due c batch
      taken := due_sublist c batch
      turn := ⟨none, turn, nofun⟩
      saved_iff := ⟨nofun, fun h => absurd nothing h.1⟩
      ok_iff := ⟨fun _ => ⟨follows, turn, nofun⟩, fun _ => rfl⟩ }
  | @saved c next calls _ _ _ _ load project turn follows behind later save =>
    subst behind
    have hsome : due c batch ≠ [] := fun hnone => by
      rw [hnone] at later
      exact Nat.lt_irrefl _ later
    refine Or.inr ⟨c, calls, some r, rfl, ?_⟩
    exact {
      numbered := numbered_due c batch
      taken := due_sublist c batch
      turn := ⟨none, turn, nofun⟩
      saved_iff := ⟨fun _ => ⟨hsome, follows, turn⟩, fun _ => rfl⟩
      ok_iff :=
      ⟨fun hok => ⟨follows, turn, fun _ hanswer => Option.some.inj hanswer ▸ hok⟩,
        fun h => h.2.2 r rfl⟩ }

/-- If all goes well the checkpoint moves behind the last event that was due, and it stays in all
other cases. -/
theorem Course.checkpoint {view : ω → String → Nat} (hkeeps : KeepsCheckpoints p view)
    (h : Course p stream aggregate batch w notes r w') :
    (∀ c, notes.head? = some (.loaded stream (.ok c)) → c = view w stream) ∧
      (r = .ok () → ∀ other, view w' other =
        if other = stream then view w stream + (due (view w stream) batch).length
        else view w other) ∧
      ∀ fault, r = .error fault → view w' = view w := by
  have hprojects (c : Nat) :
      (Projector.project p.migrate (p.selected aggregate) stream c batch).Moves (SameView view) :=
    Projector.moves_project fun _ => Projector.moves_offer fun projection hprojection =>
      hkeeps.projections projection (List.mem_filter.1 hprojection).1
  cases h with
  | unread load => exact ⟨nofun, nofun, fun _ _ => (hkeeps.load _ _ _ _ load).1⟩
  | stopped load project turn stops =>
    obtain ⟨hview, hloaded⟩ := hkeeps.load _ _ _ _ load
    refine ⟨?_, nofun, fun _ _ => (hprojects _ _ _ _ project).trans hview⟩
    rintro _ ⟨⟩
    exact hloaded _ rfl
  | @idle c _ _ _ load project turn follows nothing =>
    obtain ⟨hview, hloaded⟩ := hkeeps.load _ _ _ _ load
    obtain rfl := hloaded c rfl
    have hsame : view w' = view w := (hprojects _ _ _ _ project).trans hview
    refine ⟨?_, fun _ other => ?_, nofun⟩
    · rintro _ ⟨⟩
      rfl
    · rw [hsame, nothing, List.length_nil, Nat.add_zero]
      split
      · rename_i hother
        rw [hother]
      · rfl
  | @saved c next _ _ _ _ _ load project turn follows behind later save =>
    obtain ⟨hview, hloaded⟩ := hkeeps.load _ _ _ _ load
    obtain rfl := hloaded c rfl
    have hsame := (hprojects _ _ _ _ project).trans hview
    obtain ⟨hsaved, hrefused⟩ := hkeeps.save _ _ _ _ _ save
    refine ⟨?_, fun hok other => ?_, fun fault hfault => (hrefused fault hfault).trans hsame⟩
    · rintro _ ⟨⟩
      rfl
    · rw [hsaved hok, behind, hsame]

/-- Checkpoints in a table are loaded and saved without fault, whatever the batch. -/
theorem Course.inTable {get : ω → CheckpointTable} {set : CheckpointTable → ω → ω}
    (hpart : IsPart get set) (hcheckpoints : p.checkpoints = Checkpoints.inTable.zoom get set)
    (h : Course p stream aggregate batch w notes r w') :
    notes.head? = some (.loaded stream (.ok ((get w).load stream))) ∧
      ∀ next answer, .saved stream next answer ∈ notes → answer = .ok () := by
  cases h with
  | unread load =>
    rw [hcheckpoints] at load
    cases (load_inTable hpart load).1
  | stopped load project turn stops =>
    rw [hcheckpoints] at load
    obtain ⟨hloaded, _⟩ := load_inTable hpart load
    exact ⟨by rw [← hloaded]; rfl, by simp⟩
  | idle load project turn follows nothing =>
    rw [hcheckpoints] at load
    obtain ⟨hloaded, _⟩ := load_inTable hpart load
    exact ⟨by rw [← hloaded]; rfl, by simp⟩
  | @saved c next _ _ _ _ _ load project turn follows behind later save =>
    rw [hcheckpoints] at load save
    obtain ⟨hloaded, _⟩ := load_inTable hpart load
    refine ⟨by rw [← hloaded]; rfl, fun other answer hmem => ?_⟩
    obtain ⟨-, rfl⟩ : other = next ∧ answer = r := by simpa using hmem
    -- the checkpoint lies behind a version, so it is not zero
    exact save_inTable hpart (Nat.one_le_of_lt later) save

/-! ### Any batch -/

/-- Whatever a batch holds, and whatever projections, migrations and checkpoints come to, what is
due of it is passed on in turn. The batch is written if all of it could be, nothing lay ahead of its
turn, and checkpoints could be loaded and saved. Then the checkpoint of the stream stands behind the
events that were due, and otherwise all checkpoints stay. In a table no checkpoint is ever refused.

A migration may remember earlier events: no event of a batch is brought up to date twice, so its
answers are a function of the event all the same. -/
theorem written_in_turn (p : Projector ω) (stream : String) (first : Event)
    (rest : List Event) (w : ω) (hselected : p.selected first.aggregate ≠ [])
    (hversions : ∀ event ∈ first :: rest, event.version + 1 < Nat.pow 2 64) :
    (p.Responds → (p.write stream (first :: rest)).Returns w) ∧
    ∀ r w', StreamM.Ends (p.write stream (first :: rest)) w r w' → ∃ notes,
      StreamM.Ends ((minuted p).write stream (first :: rest)) ⟨[], w⟩ r ⟨notes, w'⟩ ∧
      ((∃ fault, notes = [.loaded stream (.error fault)] ∧ r = .error fault) ∨
        ∃ c calls saved, notes = .loaded stream (.ok c) :: calls.map .passed ++
            saved.toList.map (.saved stream (c + (due c (first :: rest)).length)) ∧
          Written p stream first.aggregate (first :: rest) c calls saved r) ∧
      (∀ view, KeepsCheckpoints p view →
        (∀ c, notes.head? = some (.loaded stream (.ok c)) → c = view w stream) ∧
          (r = .ok () → ∀ other, view w' other =
            if other = stream then view w stream + (due (view w stream) (first :: rest)).length
            else view w other) ∧
          ∀ fault, r = .error fault → view w' = view w) ∧
      ∀ get set, IsPart get set → p.checkpoints = Checkpoints.inTable.zoom get set →
        notes.head? = some (.loaded stream (.ok ((get w).load stream))) ∧
          ∀ next answer, .saved stream next answer ∈ notes → answer = .ok () := by
  refine ⟨fun hresponds => hresponds.write stream (first :: rest) w, fun r w' hends => ?_⟩
  obtain ⟨notes, hminuted⟩ := ends_write_iff.1 hends
  have hcourse := course_of_write hselected hversions hminuted
  exact ⟨notes, hminuted, hcourse.written, fun view hkeeps => hcourse.checkpoint hkeeps,
    fun get set hpart hcheckpoints => hcourse.inTable hpart hcheckpoints⟩

/-- A projection of orders that handles what is placed, one of parcels, and one of orders that
ignores everything. They count the calls that they do something with. -/
def sampleProjector : Projector (CheckpointTable × Nat) where
  checkpoints := Checkpoints.inTable.zoom Prod.fst fun table w => (table, w.2)
  migrate := .ofRenames [("Sent", "Placed")]
  projections :=
    [⟨"Order", fun event => ExceptT.mk
      (Fiber.step fun w => (.ok (event.eventType = "Placed"), (w.1, w.2 + 1)))⟩,
      ⟨"Parcel", fun _ => ExceptT.mk (Fiber.step fun w => (.ok true, (w.1, w.2 + 1)))⟩,
      ⟨"Order", fun _ => ExceptT.mk (Fiber.step fun w => (.ok false, w))⟩]

/-- An event of an order, under a name of former times. -/
def sampleEvent (version : Nat) : Event :=
  (PendingEvent.ofJson "Sent" .null).store ⟨0⟩ "Order" "orders" version ⟨0, 0⟩

/-- The calls in minutes: the number of the projection, and the version and the type of the
event. -/
def callsOf (notes : List Note) : List (Nat × Nat × String) :=
  notes.filterMap fun
  | .passed call => some (call.projection, call.event.version, call.event.eventType)
  | _ => none

theorem isPart_sampleTable :
    IsPart (Prod.fst (α := CheckpointTable) (β := Nat)) fun table w => (table, w.2) :=
  ⟨fun _ _ => rfl, fun _ _ _ => rfl, fun _ => rfl⟩

theorem responds_sampleProjector : sampleProjector.Responds where
  load stream w := (returns_inTable isPart_sampleTable stream w).1
  save stream next w := (returns_inTable isPart_sampleTable stream w).2 next
  projections := by
    simp only [sampleProjector, List.forall_mem_cons]
    exact ⟨fun _ _ => ⟨_, _, StreamM.ends_step_iff.2 ⟨rfl, rfl⟩⟩,
      fun _ _ => ⟨_, _, StreamM.ends_step_iff.2 ⟨rfl, rfl⟩⟩, fun _ _ =>
      ⟨_, _, StreamM.ends_step_iff.2 ⟨rfl, rfl⟩⟩, nofun⟩

theorem keepsCheckpoints_sampleProjector : KeepsCheckpoints sampleProjector fun w => w.1.load := by
  refine keepsCheckpoints_inTable isPart_sampleTable rfl ?_
  simp only [sampleProjector, List.forall_mem_cons]
  refine ⟨fun _ w r w' h => ?_, fun _ w r w' h => ?_, fun _ w r w' h => ?_, nofun⟩
  · rw [(StreamM.ends_step_iff.1 h).2]
    rfl
  · rw [(StreamM.ends_step_iff.1 h).2]
    rfl
  · rw [(StreamM.ends_step_iff.1 h).2]
    rfl

/-- Of a batch in disorder the two versions that are due are projected, each by both projections of
orders, and the checkpoint moves by two. -/
theorem written_in_turn_sample : ∃ r w' notes,
    StreamM.Ends (sampleProjector.write "orders" ([2, 1, 2, 3, 3, 1].map sampleEvent))
      ([("orders", 2)], 0) r w' ∧ StreamM.Ends
      ((minuted sampleProjector).write "orders" ([2, 1, 2, 3, 3, 1].map sampleEvent))
        ⟨[], ([("orders", 2)], 0)⟩ r ⟨notes, w'⟩ ∧
      r = .ok () ∧ w'.1.load "orders" = 4 ∧
      callsOf notes = [(0, 2, "Placed"), (2, 2, "Placed"), (0, 3, "Placed"), (2, 3, "Placed")] ∧
      ∀ next answer, .saved "orders" next answer ∈ notes → answer = .ok () := by
  obtain ⟨hreturns, hwritten⟩ := written_in_turn sampleProjector "orders" (sampleEvent 2)
    ([1, 2, 3, 3, 1].map sampleEvent) ([("orders", 2)], 0)
    (List.isEmpty_eq_false_iff.1 (by decide +kernel)) (by decide +kernel)
  obtain ⟨r, w', hends⟩ := hreturns responds_sampleProjector
  obtain ⟨notes, hminuted, _, hview, htable⟩ := hwritten r w' hends
  have hcourse :
      (Fiber.run ((minuted sampleProjector).write "orders" ([2, 1, 2, 3, 3, 1].map sampleEvent)).run
        ⟨[], ([("orders", 2)], 0)⟩).map (fun q => (q.1.toOption, callsOf q.2.notes)) = some
        (some (), [(0, 2, "Placed"), (2, 2, "Placed"), (0, 3, "Placed"), (2, 3, "Placed")]) := by
    decide +kernel
  have hrun :
      Fiber.run ((minuted sampleProjector).write "orders" ([2, 1, 2, 3, 3, 1].map sampleEvent)).run
        ⟨[], ([("orders", 2)], 0)⟩ = some (r, ⟨notes, w'⟩) := hminuted
  rw [hrun] at hcourse
  obtain ⟨hdone, hcalls⟩ := Prod.mk.inj (Option.some.inj hcourse)
  have hok : r = .ok () := by
    cases r with
    | ok _ => rfl
    | error fault => cases hdone
  have hmoved := (hview _ keepsCheckpoints_sampleProjector).2.1 hok "orders"
  rw [if_pos rfl] at hmoved
  exact ⟨r, w', notes, hends, hminuted, hok, hmoved.trans (by decide +kernel), hcalls,
    (htable _ _ isPart_sampleTable rfl).2⟩

end TenantAuth.Minuted
