import TenantAuth.Proofs.Stream.Following

/-!
Reading batches that come from anywhere.

There is one checkpoint for all streams of a name. A batch of a stream that starts no later than its
checkpoint is read without fault, but what was read before under that name is skipped, even where it
was another stream's. So of all batches together, those events are passed to projections that are
the first of their stream name and version.
-/

namespace TenantAuth.Delivery

/-- Of some events that come after others, those that are the first of their stream name and
version. -/
def firsts (seen : List Event) : List Event → List Event
  | [] => []
  | event :: rest =>
    if ∃ other ∈ seen, other.stream = event.stream ∧ other.version = event.version then
      firsts (seen ++ [event]) rest
    else event :: firsts (seen ++ [event]) rest

variable {ω : Type} {readers : Readers ω} {inv : ω → Prop} {first start : Nat} {l : Ledger ω}
  {stream aggregate : String} {seen events known fresh batch : List Event}

/-! ### First events -/

theorem firsts_append : firsts seen (events ++ fresh) =
    firsts seen events ++ firsts (seen ++ events) fresh := by
  induction events generalizing seen with
  | nil => rw [List.nil_append, List.append_nil, firsts, List.nil_append]
  | cons event rest ih =>
    rw [List.cons_append, firsts, firsts, ih, List.append_assoc, List.singleton_append]
    split
    · rfl
    · rw [List.cons_append]

theorem firsts_sublist : (firsts seen events).Sublist events := by
  induction events generalizing seen with
  | nil => exact List.Sublist.refl _
  | cons event rest ih =>
    rw [firsts]
    split
    · exact ih.cons event
    · exact ih.cons_cons event

/-- Nothing is new if all was seen. -/
theorem firsts_eq_nil
    (h : ∀ event ∈ events,
      ∃ other ∈ seen, other.stream = event.stream ∧ other.version = event.version) :
    firsts seen events = [] := by
  induction events generalizing seen with
  | nil => rfl
  | cons event rest ih =>
    obtain ⟨hevent, hrest⟩ := List.forall_mem_cons.1 h
    rw [firsts, if_pos hevent]
    refine ih fun other hother => ?_
    obtain ⟨earlier, hearlier, hsame⟩ := hrest other hother
    exact ⟨earlier, List.mem_append_left _ hearlier, hsame⟩

/-- All of a stream is new if its versions go on from what was seen. -/
theorem filter_firsts
    (hnumbered : Numbered first (events.filter fun event => event.stream = stream))
    (hseen : ∀ other ∈ seen, other.stream = stream → other.version < first) :
    (firsts seen events).filter (fun event => event.stream = stream) =
      events.filter fun event => event.stream = stream := by
  induction events generalizing seen first with
  | nil => rfl
  | cons event rest ih =>
    rw [firsts]
    by_cases hevent : event.stream = stream
    · rw [List.filter_cons_of_pos (by simpa using hevent)] at hnumbered ⊢
      obtain ⟨hversion, hrest⟩ := numbered_cons.1 hnumbered
      have hnew : ¬ ∃ other ∈ seen,
          other.stream = event.stream ∧ other.version = event.version := by
        rintro ⟨other, hother, hsame, hsameVersion⟩
        have hlt := hseen other hother (hsame.trans hevent)
        omega
      rw [if_neg hnew, List.filter_cons_of_pos (by simpa using hevent), ih hrest]
      intro other hother hsame
      rcases List.mem_append.1 hother with hold | hlast
      · exact Nat.lt_succ_of_lt (hseen other hold hsame)
      · rw [List.mem_singleton.1 hlast, hversion]
        exact Nat.lt_succ_self first
    · rw [List.filter_cons_of_neg (by simpa using hevent)] at hnumbered ⊢
      have hlater : ∀ other ∈ seen ++ [event], other.stream = stream → other.version < first := by
        intro other hother hsame
        rcases List.mem_append.1 hother with hold | hlast
        · exact hseen other hold hsame
        · exact absurd (List.mem_singleton.1 hlast ▸ hsame) hevent
      have hrest := ih hnumbered hlater
      split
      · exact hrest
      · rw [List.filter_cons_of_neg (by simpa using hevent), hrest]

theorem firsts_eq_self (hnumbered : Numbered first fresh)
    (hstream : ∀ event ∈ fresh, event.stream = stream)
    (hseen : ∀ other ∈ seen, other.stream = stream → other.version < first) :
    firsts seen fresh = fresh := by
  have hall : fresh.filter (fun event => event.stream = stream) = fresh :=
    List.filter_eq_self.2 fun event h => decide_eq_true (hstream event h)
  have hfirsts : (firsts seen fresh).filter (fun event => event.stream = stream) =
      firsts seen fresh :=
    List.filter_eq_self.2 fun event h => decide_eq_true (hstream event (firsts_sublist.subset h))
  rw [← hfirsts, filter_firsts (hall.symm ▸ hnumbered) hseen, hall]

/-! ### Reading on -/

/-- Reading on a stream whose checkpoint nobody else moves. -/
structure Reads (readers : Readers ω) (inv : ω → Prop) (stream : String) (fresh : List Event)
    (l l' : Ledger ω) : Prop where
  inv : inv l'.outside
  checkpoint : l'.checkpoint stream = l.checkpoint stream + fresh.length
  others : ∀ other, other ≠ stream → l'.checkpoint other = l.checkpoint other
  called : ∃ calls,
    l'.calls = l.calls ++ calls ∧ List.Forall₂ readers.Enters (readers.passes fresh) calls

/-- A course that reads on a stream, and never has to wait, comes to its end when it is carried out
alone. -/
theorem reads_of_keeps {readers : Readers ω} {m : StreamM (Ledger ω) Unit} {l : Ledger ω}
    (hinv : inv l.outside)
    (h : m.Keeps (readers.following inv False stream) (fun r progress => r = .ok () ∧
      progress = ⟨l.checkpoint stream + fresh.length, [] ++ readers.passes fresh⟩)
      ⟨l.checkpoint stream, []⟩) :
    ∃ l', StreamM.Ends m l (.ok ()) l' ∧ Reads readers inv stream fresh l l' := by
  obtain ⟨_, l', progress, hrun,
      ⟨hinv', hcheckpoint, hothers, passes, calls, hpassed, hcalls, henters, _⟩, rfl, rfl⟩ :=
    Fiber.Keeps.run h ⟨hinv, rfl⟩ (fun _ _ hrelies => following_same hrelies.1 hrelies rfl rfl)
      (fun h h₁ => following_trans h h₁) (fun h => ⟨h.1, h.2.1⟩) fun _ _ h => h
  have hpasses : readers.passes fresh = passes := hpassed
  exact ⟨l', hrun, hinv', hcheckpoint, hothers, calls, hcalls, hpasses ▸ henters⟩

/-! ### What was read of batches from anywhere -/

/-- Some events were read, each if it was the first of its stream name and version. -/
structure ReadOnce (readers : Readers ω) (inv : ω → Prop) (events : List Event) (l : Ledger ω) :
    Prop where
  inv : inv l.outside
  first : ∀ stream, firstVersion ≤ l.checkpoint stream
  /-- The checkpoint of a name stands behind the last version of that name, and no version is
  missing before it. -/
  covered : ∀ stream version, (firstVersion ≤ version ∧ version < l.checkpoint stream) ↔
    ∃ event ∈ events, event.stream = stream ∧ event.version = version
  short : ∀ stream, l.checkpoint stream ≤ events.length + firstVersion
  /-- The calls of projections pass these events on, every one to all projections for its aggregate
  in turn. -/
  called : List.Forall₂ readers.Enters (readers.passes (firsts [] events)) l.calls

/-- Nothing was read yet. -/
theorem readOnce_nil {outside : ω} (hinv : inv outside) :
    ReadOnce readers inv [] ⟨[], [], outside⟩ where
  inv := hinv
  first _ := Nat.le_refl _
  covered stream version := by
    constructor
    · rintro ⟨hle, hlt⟩
      exact absurd hlt (Nat.not_lt.2 hle)
    · rintro ⟨_, h, _⟩
      exact absurd h List.not_mem_nil
  short _ := Nat.le_refl _
  called := .nil

/-- A batch is read on from the checkpoint of its stream. -/
theorem ReadOnce.reads {l' : Ledger ω} (h : ReadOnce readers inv events l)
    (hstream : ∀ event ∈ known ++ fresh, event.stream = stream)
    (hfirst : ∀ event ∈ known, firstVersion ≤ event.version)
    (hknown : ∀ event ∈ known, event.version < l.checkpoint stream)
    (hfresh : Numbered (l.checkpoint stream) fresh) (hreads : Reads readers inv stream fresh l l') :
    ReadOnce readers inv (events ++ (known ++ fresh)) l' where
  inv := hreads.inv
  first other := by
    by_cases hother : other = stream
    · rw [hother, hreads.checkpoint]
      exact Nat.le_add_right_of_le (h.first stream)
    · rw [hreads.others other hother]
      exact h.first other
  covered other version := by
    by_cases hother : other = stream
    · subst hother
      rw [hreads.checkpoint]
      constructor
      · rintro ⟨hle, hlt⟩
        by_cases hold : version < l.checkpoint other
        · obtain ⟨event, hevent, hsame⟩ := (h.covered other version).1 ⟨hle, hold⟩
          exact ⟨event, List.mem_append_left _ hevent, hsame⟩
        · obtain ⟨event, hevent, hversion⟩ := hfresh.exists_version (Nat.not_lt.1 hold) hlt
          have hmem : event ∈ known ++ fresh := List.mem_append_right _ hevent
          exact ⟨event, List.mem_append_right _ hmem, hstream event hmem, hversion⟩
      · rintro ⟨event, hevent, hsame, rfl⟩
        have hcheckpoint := h.first other
        rcases List.mem_append.1 hevent with hold | hnew
        · have hbounds := (h.covered other event.version).2 ⟨event, hold, hsame, rfl⟩
          omega
        · rcases List.mem_append.1 hnew with hskipped | hread
          · have hversion := hknown event hskipped
            exact ⟨hfirst event hskipped, by omega⟩
          · have hbounds := hfresh.bounds hread
            omega
    · rw [hreads.others other hother, h.covered other version]
      constructor
      · rintro ⟨event, hevent, hsame⟩
        exact ⟨event, List.mem_append_left _ hevent, hsame⟩
      · rintro ⟨event, hevent, hsame, hversion⟩
        rcases List.mem_append.1 hevent with hold | hnew
        · exact ⟨event, hold, hsame, hversion⟩
        · exact absurd (hsame.symm.trans (hstream event hnew)) hother
  short other := by
    have hshort := h.short other
    rw [List.length_append, List.length_append]
    by_cases hother : other = stream
    · subst hother
      rw [hreads.checkpoint]
      omega
    · rw [hreads.others other hother]
      omega
  called := by
    obtain ⟨calls, hcalls, henters⟩ := hreads.called
    have hskipped : firsts events known = [] := by
      refine firsts_eq_nil fun event hevent => ?_
      obtain ⟨earlier, hearlier, hsame⟩ :=
        (h.covered stream event.version).1 ⟨hfirst event hevent, hknown event hevent⟩
      exact ⟨earlier, hearlier, hsame.1.trans (hstream event (List.mem_append_left _ hevent)).symm,
        hsame.2⟩
    -- of the stream, only versions before the checkpoint were seen, from which the rest goes on
    have hread : firsts (events ++ known) fresh = fresh := by
      refine firsts_eq_self hfresh (fun event h => hstream event (List.mem_append_right _ h)) ?_
      intro other hother hsame
      rcases List.mem_append.1 hother with hold | hskipped
      · exact ((h.covered stream other.version).2 ⟨other, hold, hsame, rfl⟩).2
      · exact hknown other hskipped
    rw [hcalls, firsts_append, List.nil_append, firsts_append, hskipped, List.nil_append, hread,
      passes_append]
    exact List.rel_append h.called henters

/-- A batch of a stream that starts no later than at the checkpoint of its name is read without
fault. -/
theorem ReadOnce.write (h : ReadOnce readers inv events l) (hbatch : batch ≠ [])
    (hnumbered : Numbered start batch) (hfirst : firstVersion ≤ start)
    (hstart : start ≤ l.checkpoint stream)
    (hfits : events.length + batch.length + firstVersion < Nat.pow 2 64)
    (haggregate : ∀ event ∈ batch, event.aggregate = aggregate)
    (hstream : ∀ event ∈ batch, event.stream = stream)
    (hhandles : ∀ event ∈ batch, readers.Handles inv False event)
    (hpermit : ∀ next, (readers.permit stream next).Always inv False (· = .ok ())) :
    ∃ l', StreamM.Ends (readers.projector.write stream batch) l (.ok ()) l' ∧
      ReadOnce readers inv (events ++ batch) l' := by
  have hbounds : ∀ event ∈ batch, firstVersion ≤ event.version :=
    fun event hevent => hfirst.trans (hnumbered.bounds hevent).1
  obtain ⟨known, fresh, rfl, hknown, hfresh⟩ := hnumbered.split hstart
  have hshort := h.short stream
  have hlength : (known ++ fresh).length = known.length + fresh.length := List.length_append
  have hwrite :
      (readers.projector.write stream (known ++ fresh)).Keeps (readers.following inv False stream) _
        ⟨l.checkpoint stream, []⟩ :=
    keeps_write hbatch hknown hfresh (h.first stream)
      (show l.checkpoint stream + fresh.length < Nat.pow 2 64 by omega) haggregate hstream
      hhandles hpermit
  obtain ⟨l', hends, hreads⟩ := reads_of_keeps h.inv hwrite
  exact ⟨l', hends,
    h.reads hstream (fun event hevent => hbounds event (List.mem_append_left _ hevent)) hknown
    hfresh hreads⟩

end TenantAuth.Delivery
