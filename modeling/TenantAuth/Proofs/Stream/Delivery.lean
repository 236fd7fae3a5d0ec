import TenantAuth.Proofs.Stream.Passing

/-!
Delivering a batch of events of one stream.

A batch without gaps that starts no later than at the checkpoint ends with the checkpoint behind its
last event, and every event that the checkpoint did not cover was projected. One that starts later
is refused, one that is covered changes nothing, and whatever comes to a fault leaves the
checkpoints where they were.
-/

namespace TenantAuth.Delivery

/-- Events that are numbered without gaps, from a version on. -/
def Numbered (first : Nat) (events : List Event) : Prop :=
  events.map Event.version = List.range' first events.length

theorem numbered_cons {first : Nat} {event : Event} {rest : List Event} :
    Numbered first (event :: rest) ↔ event.version = first ∧ Numbered (first + 1) rest := by
  rw [Numbered, List.map_cons, List.length_cons, List.range'_succ, List.cons.injEq, Numbered]

theorem numbered_append {first : Nat} {events more : List Event} :
    Numbered first (events ++ more) ↔
      Numbered first events ∧ Numbered (first + events.length) more := by
  induction events generalizing first with
  | nil => simp [Numbered]
  | cons event rest ih =>
    rw [List.cons_append, numbered_cons, numbered_cons, ih, List.length_cons, and_assoc,
      show first + 1 + rest.length = first + (rest.length + 1) by omega]

/-- A version of events that are numbered lies among them. -/
theorem Numbered.bounds {first : Nat} {events : List Event} {event : Event}
    (h : Numbered first events) (hevent : event ∈ events) :
    first ≤ event.version ∧ event.version < first + events.length := by
  have hversion : event.version ∈ List.range' first events.length := h ▸ List.mem_map_of_mem hevent
  rw [List.mem_range'] at hversion
  omega

/-- Of events that start no later than at a checkpoint, those before it come first. -/
theorem Numbered.split {first checkpoint : Nat} {events : List Event} (h : Numbered first events)
    (hfirst : first ≤ checkpoint) :
    ∃ known fresh, events = known ++ fresh ∧ (∀ event ∈ known, event.version < checkpoint) ∧
      Numbered checkpoint fresh := by
  have hsplit := List.take_append_drop (checkpoint - first) events
  have hlength :
    (events.take (checkpoint - first)).length = min (checkpoint - first) events.length :=
      List.length_take
  rw [← hsplit] at h
  obtain ⟨hknown, hfresh⟩ := numbered_append.1 h
  refine ⟨_, _, hsplit.symm, fun event hevent => ?_, ?_⟩
  · have hbounds := (hknown.bounds hevent).2
    omega
  · by_cases hshort : checkpoint - first ≤ events.length
    · rwa [hlength, Nat.min_eq_left hshort, Nat.add_sub_cancel' hfirst] at hfresh
    · rw [List.drop_eq_nil_of_le (by omega)]
      rfl

/-- Every version from the first to the last is there. -/
theorem Numbered.exists_version {first version : Nat} {events : List Event}
    (h : Numbered first events) (hfirst : first ≤ version)
    (hlast : version < first + events.length) :
    ∃ event ∈ events, event.version = version := by
  have hmem : version ∈ events.map Event.version := by
    rw [h, List.mem_range'_1]
    exact ⟨hfirst, hlast⟩
  exact List.mem_map.1 hmem

variable {ω : Type} {readers : Readers ω} {l l' : Ledger ω} {aggregate stream : String}
  {first expected next : Nat} {events : List Event}

/-! ### The events of a batch in turn -/

theorem moves_observed {projection : Projection ω} {number : Nat} {event : Event} :
    ((observed projection number).project event).Moves Adds := by
  intro l r l' h
  obtain ⟨outside, _, rfl⟩ := observed_iff.1 h
  exact ⟨rfl, List.prefix_append _ _⟩

/-- Events that follow the checkpoint are projected in turn; nothing is saved on the way. -/
theorem project_adds {r : Except StreamFault Nat}
    (h : StreamM.Ends
      (Projector.project readers.migrate (readers.projector.selected aggregate) stream expected
        events) l r l') :
    Adds l l' := by
  refine Projector.moves_project
    (fun event => Projector.moves_offer fun projection hprojection => ?_) _ _ _ h
  rw [readers.selected_eq] at hprojection
  obtain ⟨e, _, rfl⟩ := List.mem_map.1 hprojection
  exact fun event => moves_observed

/-- When a batch without gaps ends without fault, the version after it comes next, and every event
that was not covered is projected. -/
theorem project_ok (hnumbered : Numbered first events) (hfirst : first ≤ expected)
    (haggregate : ∀ event ∈ events, event.aggregate = aggregate)
    (h : StreamM.Ends
      (Projector.project readers.migrate (readers.projector.selected aggregate) stream expected
        events) l (.ok next)
      l') :
    next = max expected (first + events.length) ∧
      ∀ event ∈ events, expected ≤ event.version → Projected readers l'.calls event := by
  induction events generalizing first expected l with
  | nil =>
    obtain ⟨hnext, rfl⟩ := StreamM.ends_pure_iff.1 h
    obtain rfl := Except.ok.inj hnext
    exact ⟨(Nat.max_eq_left hfirst).symm, fun event hevent => absurd hevent List.not_mem_nil⟩
  | cons event rest ih =>
    obtain ⟨hversion, hrest⟩ := numbered_cons.1 hnumbered
    obtain ⟨hevent, haggregates⟩ := List.forall_mem_cons.1 haggregate
    rw [List.length_cons]
    cases Projector.atFirst_of_project h with
    | covered hcovered hends =>
      obtain ⟨hnext, hprojected⟩ := ih hrest (by omega) haggregates hends
      refine ⟨?_, List.forall_mem_cons.2 ⟨fun hle => by omega, hprojected⟩⟩
      rw [hnext]
      congr 1
      omega
    | @handled current _ l₂ _ hstands hmigrated hoffer hends =>
      obtain rfl : expected = first := by omega
      rw [readers.selected_eq] at hoffer
      obtain ⟨_, calls, hcalls, _, _, hanswers⟩ := offer_ends hoffer
      obtain ⟨hanswered, hhandled⟩ := hanswers true rfl
      have hthis : Projected readers l₂.calls event :=
        ⟨current, calls, hmigrated, hcalls ▸ (List.suffix_append _ _).isInfix,
          hevent ▸ hanswered, hhandled rfl⟩
      obtain ⟨hnext, hprojected⟩ := ih hrest (Nat.le_refl _) haggregates hends
      refine ⟨by rw [hnext]; omega,
        List.forall_mem_cons.2 ⟨fun _ => hthis.mono (project_adds hends).calls, ?_⟩⟩
      intro other hother _
      exact hprojected other hother (hrest.bounds hother).1

/-- A batch that starts after the checkpoint is refused, and no projection is called. -/
theorem project_gap {event : Event} {selected : List (Projection (Ledger ω))}
    (hgap : expected < event.version) :
    StreamM.Ends (Projector.project readers.migrate selected stream expected (event :: events)) l
      (.error (.outOfOrder stream expected event.version)) l := by
  rw [Projector.project, if_neg (by omega), if_pos (by omega)]
  exact StreamM.ends_throw_iff.2 ⟨rfl, rfl⟩

/-- Events in front of the checkpoint are skipped. -/
theorem project_known {σ : Type} {migrate : Migration} {selected : List (Projection σ)}
    {known fresh : List Event} (hknown : ∀ event ∈ known, event.version < expected) :
    Projector.project migrate selected stream expected (known ++ fresh) =
      Projector.project migrate selected stream expected fresh := by
  induction known with
  | nil => rfl
  | cons event rest ih =>
    obtain ⟨hevent, hrest⟩ := List.forall_mem_cons.1 hknown
    rw [List.cons_append, Projector.project, if_pos hevent]
    exact ih hrest

/-- A batch that the checkpoint covers calls no projection. -/
theorem project_covered {selected : List (Projection (Ledger ω))}
    (hcovered : ∀ event ∈ events, event.version < expected) :
    StreamM.Ends (Projector.project readers.migrate selected stream expected events) l
      (.ok expected) l := by
  rw [← List.append_nil events, project_known hcovered]
  exact StreamM.ends_pure_iff.2 ⟨rfl, rfl⟩

/-! ### Checkpoints -/

theorem load_iff {r : Except StreamFault Nat} :
    StreamM.Ends (readers.projector.checkpoints.load stream) l r l' ↔
      r = .ok (l.checkpoint stream) ∧ l' = l := by
  refine (StreamM.ends_zoom_iff Ledger.isPart_table).trans ⟨?_, ?_⟩
  · rintro ⟨table, h, rfl⟩
    obtain ⟨rfl, rfl⟩ := StreamM.ends_look_iff.1 h
    exact ⟨rfl, rfl⟩
  · rintro ⟨rfl, rfl⟩
    exact ⟨l'.table, StreamM.ends_look_iff.2 ⟨rfl, rfl⟩, rfl⟩

/-- Saving a checkpoint stores it, or comes to a fault and stores nothing. -/
theorem save_ends {r : Except StreamFault Unit}
    (h : StreamM.Ends (readers.projector.checkpoints.save stream next) l r l') :
    l'.calls = l.calls ∧
      ((r = .ok () ∧ l'.table = l.table.insert stream next) ∨
        (∃ fault, r = .error fault) ∧ l'.table = l.table) := by
  rcases StreamM.ends_bind_iff.1 h with ⟨_, l₁, hpermit, hstore⟩ | ⟨fault, hpermit, rfl⟩
  · obtain ⟨outside, _, rfl⟩ := (StreamM.ends_zoom_iff Ledger.isPart_outside).1 hpermit
    obtain ⟨table, hsaved, rfl⟩ := (StreamM.ends_zoom_iff Ledger.isPart_table).1 hstore
    obtain ⟨rfl, rfl⟩ := StreamM.ends_step_iff.1 hsaved
    refine ⟨rfl, ?_⟩
    cases hsave : l.table.save stream next with
    | ok table => exact Or.inl ⟨rfl, CheckpointTable.save_ok hsave⟩
    | error fault => exact Or.inr ⟨⟨fault, rfl⟩, rfl⟩
  · obtain ⟨outside, _, rfl⟩ := (StreamM.ends_zoom_iff Ledger.isPart_outside).1 hpermit
    exact ⟨rfl, Or.inr ⟨⟨fault, rfl⟩, rfl⟩⟩

/-! ### Whole batches -/

/-- Whatever comes of a batch, calls are only added, and at most the checkpoint of its stream moves,
forward and without fault. -/
theorem write_ends {r : Except StreamFault Unit}
    (h : StreamM.Ends (readers.projector.write stream events) l r l') :
    l.calls <+: l'.calls ∧ (l'.table = l.table ∨
      r = .ok () ∧ ∃ next, l.checkpoint stream < next ∧ l'.table = l.table.insert stream next) := by
  cases events with
  | nil =>
    rw [(StreamM.ends_pure_iff.1 h).2]
    exact ⟨List.prefix_refl _, Or.inl rfl⟩
  | cons event rest =>
    cases Projector.outcome_of_write h with
    | unconfigured => exact ⟨List.prefix_refl _, Or.inl rfl⟩
    | unread _ hload => cases (load_iff.1 hload).1
    | stopped _ hload hproject =>
      obtain ⟨_, rfl⟩ := load_iff.1 hload
      have hadds := project_adds hproject
      exact ⟨hadds.calls, Or.inl hadds.table⟩
    | idle _ hload hproject =>
      obtain ⟨_, rfl⟩ := load_iff.1 hload
      have hadds := project_adds hproject
      exact ⟨hadds.calls, Or.inl hadds.table⟩
    | @saved _ next _ _ _ _ _ hload hproject hlater hsave =>
      obtain ⟨hcheckpoint, rfl⟩ := load_iff.1 hload
      obtain rfl := Except.ok.inj hcheckpoint
      have hadds := project_adds hproject
      obtain ⟨hcalls, hstored | hrefused⟩ := save_ends hsave
      · rw [hadds.table] at hstored
        exact ⟨hcalls ▸ hadds.calls, Or.inr ⟨hstored.1, next, hlater, hstored.2⟩⟩
      · exact ⟨hcalls ▸ hadds.calls, Or.inl (hrefused.2.trans hadds.table)⟩

/-- What a batch does to the checkpoint of a stream does not bring it back. -/
theorem checkpoint_le_of_write {r : Except StreamFault Unit} (other : String)
    (h : StreamM.Ends (readers.projector.write stream events) l r l') :
    l.checkpoint other ≤ l'.checkpoint other := by
  rcases (write_ends h).2 with htable | ⟨_, next, hnext, htable⟩
  · exact Nat.le_of_eq (congrArg (fun table => CheckpointTable.load table other) htable.symm)
  · rw [Ledger.checkpoint, Ledger.checkpoint, htable, CheckpointTable.load_insert]
    split
    · rename_i hother
      rw [hother]
      exact Nat.le_of_lt hnext
    · exact Nat.le_refl _

/-- A batch without gaps that ends without fault started no later than at the checkpoint, which then
stands behind its last event; each event that was not covered before is projected. -/
theorem write_ok (hnumbered : Numbered first events) (hevents : events ≠ [])
    (haggregate : ∀ event ∈ events, event.aggregate = aggregate)
    (h : StreamM.Ends (readers.projector.write stream events) l (.ok ()) l') :
    readers.reading aggregate ≠ [] ∧ first ≤ l.checkpoint stream ∧
      (∀ other, l'.checkpoint other =
        if other = stream then max (l.checkpoint stream) (first + events.length)
        else l.checkpoint other) ∧
      ∀ event ∈ events, l.checkpoint stream ≤ event.version → Projected readers l'.calls event := by
  cases events with
  | nil => exact absurd rfl hevents
  | cons event rest =>
    have hhead := haggregate event List.mem_cons_self
    have hreading (hsome : readers.projector.selected event.aggregate ≠ []) :
        readers.reading aggregate ≠ [] := by
      intro hnone
      rw [hhead, readers.selected_eq, hnone] at hsome
      exact hsome rfl
    have hread {next : Nat} {l₂ : Ledger ω}
        (hproject : StreamM.Ends
          (Projector.project readers.migrate (readers.projector.selected event.aggregate) stream
            (l.checkpoint stream) (event :: rest)) l (.ok next) l₂) :
        first ≤ l.checkpoint stream ∧
          next = max (l.checkpoint stream) (first + (event :: rest).length) ∧
          ∀ other ∈ event :: rest, l.checkpoint stream ≤ other.version →
            Projected readers l₂.calls other := by
      have hfirst : first ≤ l.checkpoint stream := by
        refine Nat.le_of_not_lt fun hgap => ?_
        rw [← (numbered_cons.1 hnumbered).1] at hgap
        cases (hproject.unique (project_gap hgap)).1
      rw [hhead] at hproject
      exact ⟨hfirst, project_ok hnumbered hfirst haggregate hproject⟩
    cases Projector.outcome_of_write h with
    | idle hsome hload hproject hcovered =>
      obtain ⟨hcheckpoint, rfl⟩ := load_iff.1 hload
      obtain rfl := Except.ok.inj hcheckpoint
      obtain ⟨hfirst, hnext, hprojected⟩ := hread hproject
      refine ⟨hreading hsome, hfirst, fun other => ?_, hprojected⟩
      rw [Ledger.checkpoint, (project_adds hproject).table]
      split
      · rename_i hother
        rw [← hnext, hother]
        exact Nat.le_antisymm (hnext ▸ Nat.le_max_left _ _) hcovered
      · rfl
    | saved hsome hload hproject _ hsave =>
      obtain ⟨hcheckpoint, rfl⟩ := load_iff.1 hload
      obtain rfl := Except.ok.inj hcheckpoint
      obtain ⟨hfirst, hnext, hprojected⟩ := hread hproject
      obtain ⟨hcalls, ⟨_, htable⟩ | ⟨⟨_, ⟨⟩⟩, _⟩⟩ := save_ends hsave
      refine ⟨hreading hsome, hfirst, fun other => ?_, hcalls ▸ hprojected⟩
      rw [Ledger.checkpoint, htable, (project_adds hproject).table, CheckpointTable.load_insert,
        hnext]
      rfl

/-- A batch that starts after the checkpoint is refused without a call. -/
theorem write_gap {event : Event} (hreading : readers.reading event.aggregate ≠ [])
    (hgap : l.checkpoint stream < event.version) :
    StreamM.Ends (readers.projector.write stream (event :: events)) l
      (.error (.outOfOrder stream (l.checkpoint stream) event.version)) l := by
  have hselected : (readers.projector.selected event.aggregate).isEmpty = false := by
    rw [readers.selected_eq, List.isEmpty_map, List.isEmpty_eq_false_iff]
    exact hreading
  rw [Projector.write, hselected]
  exact StreamM.ends_bind_iff.2 (Or.inl ⟨_, l, load_iff.2 ⟨rfl, rfl⟩,
    StreamM.ends_bind_iff.2 (Or.inr ⟨_, project_gap hgap, rfl⟩)⟩)

/-- A batch that the checkpoint covers changes nothing. -/
theorem write_covered (hreading : readers.reading aggregate ≠ [])
    (haggregate : ∀ event ∈ events, event.aggregate = aggregate)
    (hcovered : ∀ event ∈ events, event.version < l.checkpoint stream) :
    StreamM.Ends (readers.projector.write stream events) l (.ok ()) l := by
  cases events with
  | nil => exact StreamM.ends_pure_iff.2 ⟨rfl, rfl⟩
  | cons event rest =>
    have hselected : (readers.projector.selected event.aggregate).isEmpty = false := by
      rw [haggregate event List.mem_cons_self, readers.selected_eq, List.isEmpty_map,
        List.isEmpty_eq_false_iff]
      exact hreading
    rw [Projector.write, hselected]
    refine StreamM.ends_bind_iff.2 (Or.inl ⟨_, l, load_iff.2 ⟨rfl, rfl⟩,
      StreamM.ends_bind_iff.2 (Or.inl ⟨_, l, project_covered hcovered, ?_⟩)⟩)
    rw [if_neg (Nat.lt_irrefl _)]
    exact StreamM.ends_pure_iff.2 ⟨rfl, rfl⟩

/-! ### Coming to an end -/

theorem Responsive.responds (h : Responsive readers) : readers.projector.Responds where
  load stream l := ⟨_, l, load_iff.2 ⟨rfl, rfl⟩⟩
  save stream next l := by
    refine StreamM.returns_bind ((h.permit stream next l.outside).zoom Ledger.isPart_outside)
      fun _ l₁ _ => ?_
    exact StreamM.Returns.zoom Ledger.isPart_table ⟨_, _, StreamM.ends_step_iff.2 ⟨rfl, rfl⟩⟩
  projections projection hprojection event l := by
    obtain ⟨e, he, rfl⟩ := List.mem_map.1 hprojection
    obtain ⟨r, outside, hproject⟩ :=
      h.projections e.1 (List.fst_mem_of_mem_zipIdx he) event l.outside
    exact ⟨r, _, observed_iff.2 ⟨outside, hproject, rfl⟩⟩

/-- A batch is read to its end, or to a fault, as long as projections and checkpoints do not wait
for ever. -/
theorem Responsive.write (h : Responsive readers) (l : Ledger ω) :
    StreamM.Returns (readers.projector.write stream events) l :=
  h.responds.write stream events l

end TenantAuth.Delivery
