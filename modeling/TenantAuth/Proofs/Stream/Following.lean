import TenantAuth.Proofs.Stream.Delivery
import TenantAuth.Proofs.Stream.Discipline

/-!
Reading a stream on while others read other streams.

Whoever delivers a batch of a stream works on the ledger together with all who deliver other
streams, and what the projections build may change between any two of its actions. If nobody else
delivers the same stream, its checkpoint stays where it was when the batch came. So each event that
the checkpoint does not cover is passed to every projection for its aggregate once and in turn, as
if there were nobody else.
-/

namespace TenantAuth

variable {ω α : Type}

/-- A course comes to nothing but outcomes of a kind, if it comes to its end, as long as all who
change the state between its actions keep to a condition, as it does itself. It may have to wait, or
never has to. -/
def StreamM.Always {σ α : Type} (inv : σ → Prop) (waits : Prop) (okay : Except StreamFault α → Prop)
    (m : StreamM σ α) : Prop :=
  m.Keeps ⟨fun _ => inv, fun _ _ _ => inv, fun _ _ => waits⟩ (fun r _ => okay r) ()

theorem StreamM.always_bind_iff {σ α β : Type} {inv : σ → Prop} {waits : Prop}
    {okay : Except StreamFault β → Prop} {m : StreamM σ α} {k : α → StreamM σ β} :
    (m >>= k).Always inv waits okay ↔ m.Always inv waits fun r =>
      match r with
      | .ok a => (k a).Always inv waits okay
      | .error fault => okay (.error fault) := StreamM.keeps_bind_iff

namespace Delivery

/-- An event that is passed to a projection, which goes by its number. -/
structure Pass where
  projection : Nat
  event : Event

/-- The events that were passed to a projection. -/
def passedTo (number : Nat) (passes : List Pass) : List Event :=
  (passes.filter fun pass => pass.projection = number).map Pass.event

/-- How far a stream was read: the version that is to be projected next, and the passes so far. -/
structure Progress where
  checkpoint : Nat
  passed : List Pass

/-- How far a stream was read after more passes. -/
def Progress.pass (progress : Progress) (passes : List Pass) : Progress :=
  { progress with passed := progress.passed ++ passes }

theorem Progress.pass_pass (progress : Progress) (passes more : List Pass) :
    (progress.pass passes).pass more = progress.pass (passes ++ more) := by
  rw [pass, pass, pass, List.append_assoc]

theorem Progress.pass_nil (progress : Progress) : progress.pass [] = progress := by
  rw [pass, List.append_nil]

namespace Readers

variable (readers : Readers ω) (inv : ω → Prop) (waits : Prop)

/-- A call passes an event on: brought up to date, it comes to the projection, which answers without
fault. -/
structure Enters (pass : Pass) (call : Call) : Prop where
  projection : call.projection = pass.projection
  event : readers.migrate pass.event = .ok call.event
  answer : ∃ handled, call.answer = .ok handled

/-- Events passed on one after the other, each to all projections for its aggregate in turn. -/
def passes (events : List Event) : List Pass :=
  events.flatMap fun event => (readers.reading event.aggregate).map fun e => ⟨e.2, event⟩

/-- An event can be brought up to date, and when it is offered to the projections for its aggregate
in turn, each answers without fault and one handles it, whatever others do in the meantime. -/
def Handles (event : Event) : Prop :=
  ∃ current, readers.migrate event = .ok current ∧
    (Projector.offer current ((readers.reading event.aggregate).map Prod.fst)).Always inv waits
    (· = .ok true)

/-- What those who read different streams agree on: to leave the checkpoints of other streams alone,
and to pass on events of their own stream only. -/
def following (stream : String) : Discipline (Ledger ω) Progress where
  relies progress l := inv l.outside ∧ l.checkpoint stream = progress.checkpoint
  acts progress l progress' l' := inv l'.outside ∧ l'.checkpoint stream = progress'.checkpoint ∧
    (∀ other, other ≠ stream → l'.checkpoint other = l.checkpoint other) ∧
    ∃ passes calls, progress'.passed = progress.passed ++ passes ∧ l'.calls = l.calls ++ calls ∧
      List.Forall₂ readers.Enters passes calls ∧ ∀ pass ∈ passes, pass.event.stream = stream
  waits _ _ := waits

end Readers

variable {readers : Readers ω} {inv : ω → Prop} {waits : Prop} {stream aggregate : String}
  {progress : Progress} {event current : Event} {number expected next : Nat}
  {events known fresh : List Event}

/-! ### Passes -/

theorem passes_append (readers : Readers ω) (events more : List Event) :
    readers.passes (events ++ more) = readers.passes events ++ readers.passes more :=
      List.flatMap_append

/-- One event is passed to each projection for its aggregate once. -/
theorem pass_once {e : Projection ω × Nat} (he : e ∈ readers.reading aggregate) :
    ((readers.reading aggregate).map fun e => (⟨e.2, event⟩ : Pass)).filter
      (fun pass => pass.projection = e.2) = [⟨e.2, event⟩] := by
  have hnodup : ((readers.reading aggregate).map Prod.snd).Nodup := by
    have hsublist :
        ((readers.reading aggregate).map Prod.snd).Sublist
          (readers.projections.zipIdx.map Prod.snd) :=
      List.filter_sublist.map Prod.snd
    rw [List.zipIdx_map_snd] at hsublist
    exact hsublist.nodup List.nodup_range'
  have hcount : ((readers.reading aggregate).map Prod.snd).count e.2 = 1 :=
    List.count_eq_one_of_mem hnodup (List.mem_map_of_mem he)
  have hpasses : ((readers.reading aggregate).map fun e => (⟨e.2, event⟩ : Pass)) =
      ((readers.reading aggregate).map Prod.snd).map fun number => ⟨number, event⟩ := by
    rw [List.map_map]
    rfl
  rw [hpasses, List.filter_map]
  change (((readers.reading aggregate).map Prod.snd).filter fun number => decide
    (number = e.2)).map _ = _
  rw [List.filter_eq, hcount]
  rfl

/-- Each projection for the aggregate of an event is passed it once, and no other projection is
passed it. -/
theorem passedTo_passes {e : Projection ω × Nat} (he : e ∈ readers.projections.zipIdx) :
    passedTo e.2 (readers.passes events) = events.filter fun event => event.aggregate =
      e.1.aggregate := by
  unfold passedTo
  induction events with
  | nil => rfl
  | cons event rest ih =>
    have hfirst : readers.passes (event :: rest) =
        ((readers.reading event.aggregate).map fun e => ⟨e.2, event⟩) ++ readers.passes rest := rfl
    rw [hfirst, List.filter_append, List.map_append, ih]
    by_cases haggregate : event.aggregate = e.1.aggregate
    · have hreading : e ∈ readers.reading event.aggregate :=
        List.mem_filter.2 ⟨he, decide_eq_true haggregate.symm⟩
      rw [pass_once hreading, List.filter_cons_of_pos (by simpa using haggregate)]
      rfl
    · have hnone : ((readers.reading event.aggregate).map fun e => (⟨e.2, event⟩ : Pass)).filter
          (fun pass => pass.projection = e.2) = [] := by
        refine List.filter_eq_nil_iff.2 fun pass hpass hsame => haggregate ?_
        obtain ⟨other, hother, rfl⟩ := List.mem_map.1 hpass
        obtain ⟨hmem, hreads⟩ := List.mem_filter.1 hother
        have hget := List.mem_zipIdx_iff_getElem?.1 hmem
        rw [show other.2 = e.2 from of_decide_eq_true hsame,
          List.mem_zipIdx_iff_getElem?.1 he] at hget
        rw [Option.some.inj hget]
        exact (of_decide_eq_true hreads).symm
      rw [hnone, List.filter_cons_of_neg (by simpa using haggregate)]
      rfl

/-- So each projection for an aggregate is passed exactly the events, in their order. -/
theorem passes_to {e : Projection ω × Nat} (he : e ∈ readers.reading aggregate)
    (haggregate : ∀ event ∈ events, event.aggregate = aggregate) :
    passedTo e.2 (readers.passes events) = events := by
  obtain ⟨hmem, hreads⟩ := List.mem_filter.1 he
  rw [passedTo_passes hmem, List.filter_eq_self]
  exact fun event hevent => decide_eq_true
    ((haggregate event hevent).trans (of_decide_eq_true hreads).symm)

/-! ### Actions on the ledger -/

/-- An action that touches neither checkpoints nor calls. -/
theorem following_same {l l' : Ledger ω} (houtside : inv l'.outside)
    (hrelies : (readers.following inv waits stream).relies progress l) (htable : l'.table = l.table)
    (hcalls : l'.calls = l.calls) :
    (readers.following inv waits stream).acts progress l progress l' := by
  have hcheckpoint : ∀ other, l'.checkpoint other = l.checkpoint other := by
    intro other
    rw [Ledger.checkpoint, htable]
    rfl
  refine ⟨houtside, (hcheckpoint stream).trans hrelies.2, fun other _ => hcheckpoint other, [], [],
    ?_, ?_, .nil, fun _ h => absurd h List.not_mem_nil⟩
  · rw [List.append_nil]
  · rw [List.append_nil, hcalls]

/-- One action after another that keeps to what readers agree on is as one of them. -/
theorem following_trans {progress₁ progress₂ : Progress} {l l₁ l₂ : Ledger ω}
    (h : (readers.following inv waits stream).acts progress l progress₁ l₁)
    (h₁ : (readers.following inv waits stream).acts progress₁ l₁ progress₂ l₂) :
    (readers.following inv waits stream).acts progress l progress₂ l₂ := by
  obtain ⟨_, _, hothers, passes, calls, hpassed, hcalls, henters, hstream⟩ := h
  obtain ⟨hinv, hcheckpoint, hothers₁, passes₁, calls₁, hpassed₁, hcalls₁, henters₁, hstream₁⟩ := h₁
  refine ⟨hinv, hcheckpoint, fun other hother => (hothers₁ other hother).trans
    (hothers other hother), passes ++ passes₁, calls ++ calls₁, ?_, ?_,
    List.rel_append henters henters₁, fun pass hpass => ?_⟩
  · rw [hpassed₁, hpassed, List.append_assoc]
  · rw [hcalls₁, hcalls, List.append_assoc]
  · exact (List.mem_append.1 hpass).elim (hstream pass) (hstream₁ pass)

/-- What is done beyond the ledger leaves the ledger as it is. -/
theorem keeps_beyond {m : StreamM ω α} {okay : Except StreamFault α → Prop}
    (h : m.Always inv waits okay) : (Ledger.beyond m).Keeps (readers.following inv waits stream)
    (fun r progress' => progress' = progress ∧ okay r)
      progress := by
  refine StreamM.Keeps.zoom (fun _ : Unit => progress)
    ⟨fun _ l h => h.1, fun _ l _ outside hrelies h => ?_, fun _ _ _ h => h⟩
    (h.imp fun r _ hokay => ⟨rfl, hokay⟩)
  exact following_same h hrelies rfl rfl

/-- A projection is called, and the call is entered. -/
theorem keeps_observed {projection : Projection ω} {okay : Except StreamFault Bool → Prop}
    (hmigrate : readers.migrate event = .ok current) (hstream : event.stream = stream)
    (hok : ∀ r, okay r → ∃ handled, r = .ok handled)
    (h : (projection.project current).Always inv waits okay) :
    ((observed projection number).project current).Keeps (readers.following inv waits stream)
      (fun r progress' => progress' = progress.pass [⟨number, event⟩] ∧ okay r) progress := by
  refine StreamM.Keeps.bind (StreamM.keeps_ofFiber_iff.2 ((keeps_beyond h).imp ?_))
  rintro answer progress ⟨rfl, hokay⟩
  refine ⟨answer, rfl, StreamM.Keeps.bind (StreamM.keeps_change_iff.2 fun l hrelies => ?_)⟩
  have henters : readers.Enters ⟨number, event⟩ ⟨number, current, answer⟩ :=
    ⟨rfl, hmigrate, hok answer hokay⟩
  refine ⟨progress.pass [⟨number, event⟩], ⟨hrelies.1, hrelies.2, fun _ _ => rfl, _, _, rfl, rfl,
    .cons henters .nil, ?_⟩, (), rfl, StreamM.keeps_liftExcept_iff.2 ⟨rfl, hokay⟩⟩
  exact List.forall_mem_singleton.2 hstream

/-- An event is offered to projections in turn, which are all called once. -/
theorem keeps_offer {list : List (Projection ω × Nat)} {okay : Except StreamFault Bool → Prop}
    (hmigrate : readers.migrate event = .ok current) (hstream : event.stream = stream)
    (hok : ∀ r, okay r → ∃ handled, r = .ok handled)
    (h : (Projector.offer current (list.map Prod.fst)).Always inv waits okay) :
    (Projector.offer current (list.map fun e => observed e.1 e.2)).Keeps
      (readers.following inv waits stream)
      (fun r progress' => progress' = progress.pass (list.map fun e => ⟨e.2, event⟩) ∧ okay r)
      progress := by
  -- whatever the first answers, what comes of all answers is known of what comes of the others
  induction list generalizing progress okay with
  | nil => exact ⟨progress.pass_nil.symm, h⟩
  | cons e rest ih =>
    have hfirst := StreamM.always_bind_iff.1 h
    refine StreamM.Keeps.bind ((keeps_observed hmigrate hstream ?_ hfirst).imp ?_)
    · rintro (fault | handled) hr
      · obtain ⟨_, ⟨⟩⟩ := hok _ hr
      · exact ⟨handled, rfl⟩
    rintro (fault | handled) _ ⟨rfl, hrest⟩
    · obtain ⟨_, ⟨⟩⟩ := hok _ hrest
    refine ⟨handled, rfl, StreamM.Keeps.bind ((ih ?_ (StreamM.always_bind_iff.1 hrest)).imp ?_)⟩
    · rintro (fault | others) hr
      · obtain ⟨_, ⟨⟩⟩ := hok _ hr
      · exact ⟨others, rfl⟩
    rintro (fault | others) _ ⟨rfl, hothers⟩
    · obtain ⟨_, ⟨⟩⟩ := hok _ hothers
    exact ⟨others, rfl, Progress.pass_pass _ _ _, hothers⟩

/-! ### The events of a batch in turn -/

/-- Events from the checkpoint on are passed to all projections in turn. -/
theorem keeps_project (hnumbered : Numbered expected fresh)
    (hfits : expected + fresh.length < Nat.pow 2 64)
    (haggregate : ∀ event ∈ fresh, event.aggregate = aggregate)
    (hstream : ∀ event ∈ fresh, event.stream = stream)
    (hhandles : ∀ event ∈ fresh, readers.Handles inv waits event) :
    (Projector.project readers.migrate (readers.projector.selected aggregate) stream
      expected fresh).Keeps (readers.following inv waits stream)
      (fun r progress' => r = .ok (expected + fresh.length) ∧
        progress' = progress.pass (readers.passes fresh))
      progress := by
  induction fresh generalizing expected progress with
  | nil => exact ⟨rfl, progress.pass_nil.symm⟩
  | cons event rest ih =>
    obtain ⟨hversion, hrest⟩ := numbered_cons.1 hnumbered
    obtain ⟨haggregate, haggregates⟩ := List.forall_mem_cons.1 haggregate
    obtain ⟨hstream, hstreams⟩ := List.forall_mem_cons.1 hstream
    obtain ⟨⟨current, hmigrate, hoffered⟩, hhandled⟩ := List.forall_mem_cons.1 hhandles
    rw [List.length_cons] at hfits ⊢
    rw [Projector.project, if_neg (by omega), if_neg (by omega)]
    refine StreamM.Keeps.bind (StreamM.keeps_liftExcept_iff.2 ⟨current, hmigrate, ?_⟩)
    rw [readers.selected_eq, ← haggregate]
    refine StreamM.Keeps.bind
      ((keeps_offer hmigrate hstream (fun r hr => ⟨true, hr⟩) hoffered).imp ?_)
    rintro _ _ ⟨rfl, rfl⟩
    refine ⟨true, rfl, ?_⟩
    rw [if_pos rfl]
    have hnext : Projector.nextVersion stream expected = .ok (expected + 1) :=
      Projector.nextVersion_of_fits (by omega)
    refine StreamM.Keeps.bind (StreamM.keeps_liftExcept_iff.2 ⟨expected + 1, hnext, ?_⟩)
    rw [haggregate, ← readers.selected_eq]
    refine (ih hrest (by omega) haggregates hstreams hhandled).imp ?_
    rintro _ _ ⟨rfl, rfl⟩
    refine ⟨?_, ?_⟩
    · rw [Nat.add_right_comm]
      rfl
    · rw [Progress.pass_pass, ← haggregate]
      rfl

/-! ### Checkpoints -/

theorem keeps_load :
    (readers.projector.checkpoints.load stream).Keeps (readers.following inv waits stream)
      (fun r progress' => r = .ok progress.checkpoint ∧ progress' = progress) progress := by
  intro l hrelies
  refine ⟨nofun, fun _ => ⟨progress, following_same hrelies.1 hrelies rfl rfl, ?_⟩⟩
  exact ⟨congrArg Except.ok hrelies.2, rfl⟩

/-- A checkpoint is saved as long as nobody refuses. -/
theorem keeps_save (hpermit : (readers.permit stream next).Always inv waits (· = .ok ()))
    (hnext : firstVersion ≤ next) :
    (readers.projector.checkpoints.save stream next).Keeps (readers.following inv waits stream)
      (fun r progress' => r = .ok () ∧ progress' = { progress with checkpoint := next })
      progress := by
  refine StreamM.Keeps.bind ((keeps_beyond hpermit).imp ?_)
  rintro _ progress ⟨rfl, rfl⟩
  refine ⟨(), rfl, ?_⟩
  intro l hrelies
  have hsave : l.table.save stream next = .ok (l.table.insert stream next) := by
    rw [CheckpointTable.save, if_neg (Nat.not_lt.2 hnext)]
  have hcheckpoint : ∀ other, CheckpointTable.load (l.table.insert stream next) other =
      if other = stream then next else l.checkpoint other :=
      fun other => CheckpointTable.load_insert
  refine ⟨nofun, fun _ =>
    ⟨{ progress with checkpoint := next },
      ⟨hrelies.1, ?_, fun other hother => ?_, [], [], (List.append_nil _).symm,
        (List.append_nil _).symm, .nil, nofun⟩, ?_⟩⟩
  · simp only [hsave]
    exact (hcheckpoint stream).trans (if_pos rfl)
  · simp only [hsave]
    exact (hcheckpoint other).trans (if_neg hother)
  · simp only [hsave]
    exact ⟨rfl, rfl⟩

/-! ### Whole batches -/

/-- Where an event can be handled, somebody reads it. -/
theorem Readers.Handles.reading_ne_nil (h : readers.Handles inv waits event) :
    readers.reading event.aggregate ≠ [] := by
  intro hnone
  obtain ⟨current, _, hoffered⟩ := h
  rw [hnone] at hoffered
  cases StreamM.keeps_pure_iff.1 hoffered

/-- A batch that starts no later than at the checkpoint is read on from there to its end, and the
checkpoint moves behind it. -/
theorem keeps_write (hbatch : known ++ fresh ≠ [])
    (hknown : ∀ event ∈ known, event.version < progress.checkpoint)
    (hnumbered : Numbered progress.checkpoint fresh) (hfirst : firstVersion ≤ progress.checkpoint)
    (hfits : progress.checkpoint + fresh.length < Nat.pow 2 64)
    (haggregate : ∀ event ∈ known ++ fresh, event.aggregate = aggregate)
    (hstream : ∀ event ∈ known ++ fresh, event.stream = stream)
    (hhandles : ∀ event ∈ known ++ fresh, readers.Handles inv waits event)
    (hpermit : ∀ next, (readers.permit stream next).Always inv waits (· = .ok ())) :
    (readers.projector.write stream (known ++ fresh)).Keeps (readers.following inv waits stream)
      (fun r progress' => r = .ok () ∧
        progress' = ⟨progress.checkpoint + fresh.length, progress.passed ++ readers.passes fresh⟩)
        progress := by
  have hfresh : ∀ event ∈ fresh, event ∈ known ++ fresh := fun _ h => List.mem_append_right _ h
  have hproject :
      (Projector.project readers.migrate (readers.projector.selected aggregate) stream
        progress.checkpoint (known ++ fresh)).Keeps (readers.following inv waits stream)
      (fun r progress' => r = .ok (progress.checkpoint + fresh.length) ∧
        progress' = progress.pass (readers.passes fresh)) progress := by
    rw [project_known hknown]
    exact keeps_project hnumbered hfits (fun event h => haggregate event (hfresh event h))
      (fun event h => hstream event (hfresh event h)) fun event h => hhandles event (hfresh event h)
  obtain ⟨event, rest, hcons⟩ := List.exists_cons_of_ne_nil hbatch
  have hhead : event ∈ known ++ fresh := hcons ▸ List.mem_cons_self
  have hselected : (readers.projector.selected event.aggregate).isEmpty = false := by
    rw [readers.selected_eq, List.isEmpty_map, List.isEmpty_eq_false_iff]
    exact (hhandles event hhead).reading_ne_nil
  rw [hcons] at hproject ⊢
  rw [Projector.write, hselected, haggregate event hhead]
  refine StreamM.Keeps.bind (keeps_load.imp ?_)
  rintro _ _ ⟨rfl, rfl⟩
  refine ⟨_, rfl, StreamM.Keeps.bind (hproject.imp ?_)⟩
  rintro _ _ ⟨rfl, rfl⟩
  refine ⟨_, rfl, ?_⟩
  split
  · refine (keeps_save (hpermit _) (Nat.le_add_right_of_le hfirst)).imp ?_
    rintro _ _ ⟨rfl, rfl⟩
    exact ⟨rfl, rfl⟩
  · obtain rfl : fresh = [] := List.eq_nil_of_length_eq_zero (by omega)
    exact ⟨rfl, rfl⟩

end Delivery

end TenantAuth
