import TenantAuth.Proofs.Stream.Course

/-!
No event is lost on its way from a store to the projections.

Projections may ignore an event or come to a fault at any call, and so may the saving of a
checkpoint. All the same, events in front of the checkpoint of their stream were projected, the
checkpoint never goes back, and once a delivery of a whole stream ends without fault, the checkpoint
stands behind its last event.
-/

namespace TenantAuth.Delivery

variable {ω : Type} {c : Setting ω} {state later : State ω} {stream : String}
  {events : List PendingEvent}

/-! ### Streams and their checkpoints -/

/-- Streams are numbered without gaps, and each belongs to one aggregate. Checkpoints lie within
them, or behind their last events, and what lies before them was projected. -/
structure Sound (c : Setting ω) (stored : String → List Event) (ledger : Ledger ω) : Prop where
  numbered : ∀ stream, Numbered firstVersion (stored stream)
  aggregate : ∀ stream, ∀ event ∈ stored stream, event.aggregate = c.aggregateOf stream
  first : ∀ stream, firstVersion ≤ ledger.checkpoint stream
  last : ∀ stream, ledger.checkpoint stream ≤ (stored stream).length + 1
  projected : ∀ stream, ∀ event ∈ stored stream, event.version < ledger.checkpoint stream →
    Projected c.toReaders ledger.calls event

section Sound

variable {stored : String → List Event} {ledger ledger' : Ledger ω} {earlier batch : List Event}

/-- Storing a batch behind the events of a stream leaves it open for projection. -/
theorem Sound.append (h : Sound c stored ledger)
    (hnumbered : Numbered (firstVersion + (stored stream).length) batch)
    (haggregate : ∀ event ∈ batch, event.aggregate = c.aggregateOf stream) :
    Sound c (fun other => if other = stream then stored stream ++ batch else stored other)
      ledger := by
  refine ⟨fun other => ?_, fun other => ?_, h.first, fun other => ?_, fun other => ?_⟩
  all_goals by_cases hother : other = stream
  all_goals simp only [hother, if_true, if_false]
  · exact numbered_append.2 ⟨h.numbered stream, hnumbered⟩
  · exact h.numbered other
  · intro event hevent
    rcases List.mem_append.1 hevent with hold | hnew
    · exact h.aggregate stream event hold
    · exact haggregate event hnew
  · exact h.aggregate other
  · rw [List.length_append]
    have hlast := h.last stream
    omega
  · exact h.last other
  · intro event hevent hversion
    rcases List.mem_append.1 hevent with hold | hnew
    · exact h.projected stream event hold hversion
    · -- a new event is not in front of the checkpoint
      have hbounds := (hnumbered.bounds hnew).1
      have hlast := h.last stream
      rw [firstVersion] at hbounds
      omega
  · exact h.projected other

/-- Calls that are added to a ledger do not harm. -/
theorem Sound.adds (h : Sound c stored ledger) (htable : ledger'.table = ledger.table)
    (hcalls : ledger.calls <+: ledger'.calls) : Sound c stored ledger' := by
  have hcheckpoint : ∀ other, ledger'.checkpoint other = ledger.checkpoint other := by
    intro other
    rw [Ledger.checkpoint, htable]
    rfl
  refine ⟨h.numbered, h.aggregate, fun other => ?_, fun other => ?_,
    fun other event hevent hversion => ?_⟩
  · rw [hcheckpoint]
    exact h.first other
  · rw [hcheckpoint]
    exact h.last other
  · rw [hcheckpoint] at hversion
    exact (h.projected other event hevent hversion).mono hcalls

/-- The last events of a stream are read to their end without fault, and then the checkpoint stands
behind them; or else the checkpoints stay where they are. -/
theorem Sound.read {outcome : Except StreamFault Unit} (h : Sound c stored ledger)
    (hstored : stored stream = earlier ++ batch) (hbatch : batch ≠ [])
    (hends : StreamM.Ends (c.projector.write stream batch) ledger outcome ledger') :
    Sound c stored ledger' ∧ (outcome = .ok () →
      ledger'.checkpoint stream = (stored stream).length + 1 ∧
      c.reading (c.aggregateOf stream) ≠ []) := by
  obtain ⟨hcalls, hmoved⟩ := write_ends hends
  cases outcome with
  | error fault =>
    rcases hmoved with htable | ⟨hok, _⟩
    · exact ⟨h.adds htable hcalls, nofun⟩
    · cases hok
  | ok =>
    have hnumbered : Numbered (firstVersion + earlier.length) batch :=
      (numbered_append.1 (hstored ▸ h.numbered stream)).2
    have hlength : (stored stream).length = earlier.length + batch.length := by
      rw [hstored, List.length_append]
    have haggregate : ∀ event ∈ batch, event.aggregate = c.aggregateOf stream := by
      intro event hevent
      exact h.aggregate stream event (hstored ▸ List.mem_append_right _ hevent)
    obtain ⟨hreading, hfirst, hcheckpoints, hprojected⟩ :=
      write_ok hnumbered hbatch haggregate hends
    have hlast := h.last stream
    have hcheckpoint : ledger'.checkpoint stream = (stored stream).length + 1 := by
      rw [hcheckpoints, if_pos rfl, firstVersion]
      omega
    refine ⟨⟨h.numbered, h.aggregate, fun other => ?_, fun other => ?_,
      fun other event hevent hversion => ?_⟩, fun _ => ⟨hcheckpoint, hreading⟩⟩
    · exact Nat.le_trans (h.first other) (checkpoint_le_of_write other hends)
    · by_cases hother : other = stream
      · exact hother ▸ Nat.le_of_eq hcheckpoint
      · rw [hcheckpoints, if_neg hother]
        exact h.last other
    · by_cases hother : other = stream
      · subst hother
        by_cases hold : event.version < ledger.checkpoint other
        · exact (h.projected other event hevent hold).mono hcalls
        · -- what was not covered before is in the batch, as the batch starts no later than at the
          -- checkpoint
          rw [hstored] at hevent
          rcases List.mem_append.1 hevent with hearlier | hnew
          · have hbounds := ((numbered_append.1 (hstored ▸ h.numbered other)).1.bounds hearlier).2
            omega
          · exact hprojected event hnew (Nat.le_of_not_lt hold)
      · rw [hcheckpoints, if_neg hother] at hversion
        exact (h.projected other event hevent hversion).mono hcalls

end Sound

/-! ### Courses of commands -/

theorem sound_begin (outside : ω) :
    Sound c (c.begin outside).stored (c.begin outside).hub.outside :=
  ⟨fun _ => rfl, fun _ _ h => absurd h List.not_mem_nil, fun _ => Nat.le_refl _,
    fun _ => Nat.le_refl _, fun _ _ h => absurd h List.not_mem_nil⟩

theorem Sound.appended (h : Sound c state.stored state.hub.outside) (hwired : Wired c state) :
    Sound c (c.appended stream events state).stored state.hub.outside := by
  have hnumbered :
      Numbered (firstVersion + (state.stored stream).length) (c.batch stream events state) :=
    EventStore.numbered_batch
  have hstored := h.append hnumbered fun _ hevent => EventStore.aggregate_of_mem_batch hevent
  have heq : (c.appended stream events state).stored = fun other =>
      if other = stream then state.stored stream ++ c.batch stream events state
      else state.stored other :=
    funext fun other => hwired.stored_appended other
  rw [heq]
  exact hstored

/-- Telling the relay of the last events of a stream. -/
theorem Sound.told {earlier batch : List Event} {outcome : Except StreamFault Unit}
    {ledger : Ledger ω} (h : Sound c state.stored state.hub.outside)
    (hstored : state.stored stream = earlier ++ batch) (hbatch : batch ≠ [])
    (htold : Told c state stream batch outcome ledger) :
    Sound c state.stored ledger ∧ (state.relay.isStarted = true → outcome = .ok () →
      ledger.checkpoint stream = (state.stored stream).length + 1 ∧
      c.reading (c.aggregateOf stream) ≠ []) := by
  rcases htold with ⟨_, hends⟩ | ⟨hstopped, rfl, rfl⟩
  · obtain ⟨hsound, hok⟩ := h.read hstored hbatch hends
    exact ⟨hsound, fun _ => hok⟩
  · refine ⟨h, fun hstarted => ?_⟩
    cases hstopped.symm.trans hstarted

theorem Setting.batch_ne_nil (hevents : events ≠ []) : c.batch stream events state ≠ [] := by
  intro hnil
  exact hevents (EventStore.pending_batch.symm.trans (congrArg (List.map Event.pending) hnil))

theorem Sound.perform {command : Command} {r : Except StreamFault (List Event)}
    (h : Sound c state.stored state.hub.outside) (hwired : Wired c state)
    (hdone : c.perform state command = some (r, later)) :
    Sound c later.stored later.hub.outside := by
  cases command with
  | append stream events =>
    by_cases hevents : events = []
    · subst hevents
      obtain ⟨rfl, rfl⟩ := Prod.mk.inj (Option.some.inj (perform_append_nil.symm.trans hdone))
      exact h
    · obtain ⟨outcome, ledger, htold, rfl, rfl⟩ := (hwired.append_iff hevents).1 hdone
      have hstored : (c.appended stream events state).stored stream =
          state.stored stream ++ c.batch stream events state := by
        rw [hwired.stored_appended, if_pos rfl]
      exact ((h.appended hwired).told hstored (Setting.batch_ne_nil hevents) htold).1
  | redeliver stream =>
    obtain ⟨outcome, ledger, rfl, rfl, ⟨_, rfl, rfl⟩ | ⟨hsome, htold⟩⟩ :=
      hwired.redeliver_iff.1 hdone
    · exact h
    · exact (h.told (List.nil_append _).symm hsome htold).1
  | start =>
    obtain ⟨rfl, rfl⟩ := Prod.mk.inj (Option.some.inj hdone)
    obtain ⟨_, hstored, houtside⟩ := hwired.start
    rw [hstored]
    exact houtside ▸ h
  | stop =>
    obtain ⟨rfl, rfl⟩ := Prod.mk.inj (Option.some.inj hdone)
    obtain ⟨_, hstored, houtside⟩ := hwired.stop
    rw [hstored]
    exact houtside ▸ h

/-- A course of commands keeps streams and checkpoints sound. -/
theorem Sound.course {commands : List Command} (h : Sound c state.stored state.hub.outside)
    (hwired : Wired c state) (hdone : c.course commands state = some later) :
    Sound c later.stored later.hub.outside := by
  induction commands generalizing state with
  | nil =>
    obtain rfl := Option.some.inj hdone
    exact h
  | cons command rest ih =>
    obtain ⟨⟨r, next⟩, hfirst, hrest⟩ := Option.bind_eq_some_iff.1 hdone
    obtain ⟨hnext, _⟩ := hwired.perform hfirst
    exact ih (h.perform hwired hfirst) hnext hrest

/-! ### Nothing is lost -/

/-- What holds of a store, its relay and its projections whatever was done and whatever failed. -/
structure Lossless (c : Setting ω) (state : State ω) : Prop where
  /-- Checkpoints lie within their streams or behind their last events. -/
  within : ∀ stream, 1 ≤ state.checkpoint stream ∧ state.checkpoint stream ≤
    (state.stored stream).length + 1
  /-- What lies before a checkpoint was projected. -/
  projected : ∀ stream, ∀ event ∈ state.stored stream, event.version < state.checkpoint stream →
    Projected c.toReaders state.hub.outside.calls event
  /-- No checkpoint ever goes back, and no event is ever taken out of its stream. -/
  onward : ∀ more later, c.course more state = some later → ∀ stream,
    state.checkpoint stream ≤ later.checkpoint stream ∧ state.stored stream <+: later.stored stream
  /-- Whatever comes to a fault leaves all checkpoints where they are. -/
  faulty : ∀ command fault later, c.perform state command = some (.error fault, later) →
    ∀ stream, later.checkpoint stream = state.checkpoint stream
  /-- A stream that is delivered again without fault while the relay is subscribed is projected to
  its end; to deliver it once more does nothing at all. -/
  complete : ∀ stream answer later, state.hub.subscriber? 0 = some c.handler →
    c.perform state (.redeliver stream) = some (.ok answer, later) →
    later.checkpoint stream = (later.stored stream).length + 1 ∧
      c.perform later (.redeliver stream) = some (.ok [], later)
  /-- A batch is stored whatever comes of telling the relay, and is projected to its end if there is
  no fault. -/
  kept : ∀ stream events answer later, events ≠ [] →
    c.perform state (.append stream events) = some (answer, later) →
    ∃ batch, batch.map Event.pending = events ∧ later.stored stream = state.stored stream ++ batch ∧
      ∀ answered, answer = .ok answered → answered = batch ∧
        (state.hub.subscriber? 0 = some c.handler →
          later.checkpoint stream = (later.stored stream).length + 1)
  /-- A batch is refused without a call as long as events before it wait to be projected. -/
  waiting : ∀ stream events, events ≠ [] → state.hub.subscriber? 0 = some c.handler →
    state.checkpoint stream ≤ (state.stored stream).length → c.reading (c.aggregateOf stream) ≠ [] →
    ∃ later, c.perform state (.append stream events) =
        some (.error (.outOfOrder stream (state.checkpoint stream)
          ((state.stored stream).length + 1)), later) ∧
      later.hub.outside = state.hub.outside
  /-- No command waits for ever, unless projections or the saving of checkpoints do. -/
  responsive : Responsive c.toReaders → ∀ command, (c.perform state command).isSome = true

theorem Wired.isStarted_of_subscribed (h : Wired c state)
    (hsubscribed : state.hub.subscriber? 0 = some c.handler) : state.relay.isStarted = true := by
  rw [h.subscriber?_eq] at hsubscribed
  cases hstarted : state.relay.isStarted with
  | true => rfl
  | false =>
    rw [hstarted] at hsubscribed
    cases hsubscribed

theorem complete_of_redeliver {answer : List Event} (hwired : Wired c state)
    (hsound : Sound c state.stored state.hub.outside) (hstarted : state.relay.isStarted = true)
    (hdone : c.perform state (.redeliver stream) = some (.ok answer, later)) :
    later.checkpoint stream = (later.stored stream).length + 1 ∧
      c.perform later (.redeliver stream) = some (.ok [], later) := by
  obtain ⟨outcome, ledger, hanswer, rfl, hcase⟩ := hwired.redeliver_iff.1 hdone
  obtain rfl : outcome = .ok () := by
    cases outcome with
    | ok => rfl
    | error fault => cases hanswer
  rw [(hwired.leave ledger).redeliver_iff]
  rcases hcase with ⟨hnone, _, rfl⟩ | ⟨hsome, htold⟩
  · have hlast := hsound.last stream
    have hfirst := hsound.first stream
    rw [hnone] at hlast
    refine ⟨?_, .ok (), state.hub.outside, rfl, rfl, Or.inl ⟨hnone, rfl, rfl⟩⟩
    change state.hub.outside.checkpoint stream = (state.stored stream).length + 1
    rw [hnone]
    exact Nat.le_antisymm hlast hfirst
  · obtain ⟨hlater, hok⟩ := hsound.told (List.nil_append _).symm hsome htold
    obtain ⟨hcheckpoint, hreading⟩ := hok hstarted rfl
    refine ⟨hcheckpoint, .ok (), ledger, rfl, rfl, Or.inr ⟨hsome, Or.inl ⟨hstarted, ?_⟩⟩⟩
    refine write_covered hreading (hsound.aggregate stream) fun event hevent => ?_
    have hbounds := ((hsound.numbered stream).bounds hevent).2
    rw [firstVersion] at hbounds
    change event.version < ledger.checkpoint stream
    omega

theorem kept_of_append {answer : Except StreamFault (List Event)} (hwired : Wired c state)
    (hsound : Sound c state.stored state.hub.outside) (hevents : events ≠ [])
    (hdone : c.perform state (.append stream events) = some (answer, later)) :
    ∃ batch, batch.map Event.pending = events ∧ later.stored stream = state.stored stream ++ batch ∧
      ∀ answered, answer = .ok answered → answered = batch ∧
        (state.hub.subscriber? 0 = some c.handler →
          later.checkpoint stream = (later.stored stream).length + 1) := by
  obtain ⟨outcome, ledger, htold, rfl, rfl⟩ := (hwired.append_iff hevents).1 hdone
  have hstored : (c.appended stream events state).stored stream =
      state.stored stream ++ c.batch stream events state := by
    rw [hwired.stored_appended, if_pos rfl]
  refine ⟨c.batch stream events state, EventStore.pending_batch, hstored,
    fun answered hanswered => ?_⟩
  obtain rfl : outcome = .ok () := by
    cases outcome with
    | ok => rfl
    | error fault => cases hanswered
  refine ⟨(Except.ok.inj hanswered).symm, fun hsubscribed => ?_⟩
  obtain ⟨_, hok⟩ := (hsound.appended hwired).told hstored (Setting.batch_ne_nil hevents) htold
  exact (hok (hwired.isStarted_of_subscribed hsubscribed) rfl).1

theorem refused_of_waiting (hwired : Wired c state) (hevents : events ≠ [])
    (hstarted : state.relay.isStarted = true)
    (hwaits : state.checkpoint stream ≤ (state.stored stream).length)
    (hreading : c.reading (c.aggregateOf stream) ≠ []) :
    ∃ later, c.perform state (.append stream events) =
        some (.error (.outOfOrder stream (state.checkpoint stream)
          ((state.stored stream).length + 1)), later) ∧
      later.hub.outside = state.hub.outside := by
  refine ⟨(c.appended stream events state).leave state.hub.outside, ?_, rfl⟩
  refine (hwired.append_iff hevents).2
    ⟨.error _, state.hub.outside, Or.inl ⟨hstarted, ?_⟩, rfl, rfl⟩
  have hnumbered :
      Numbered (firstVersion + (state.stored stream).length) (c.batch stream events state) :=
    EventStore.numbered_batch
  have haggregate : ∀ event ∈ c.batch stream events state, event.aggregate = c.aggregateOf stream :=
    fun event hevent => EventStore.aggregate_of_mem_batch hevent
  cases hbatch : c.batch stream events state with
  | nil => exact absurd hbatch (Setting.batch_ne_nil hevents)
  | cons event rest =>
    rw [hbatch] at hnumbered haggregate
    have hversion : event.version = (state.stored stream).length + 1 := by
      rw [(numbered_cons.1 hnumbered).1, firstVersion, Nat.add_comm]
    rw [← hversion]
    refine write_gap ?_ (hversion ▸ Nat.lt_succ_of_le hwaits)
    rw [haggregate event List.mem_cons_self]
    exact hreading

/-- Whatever course commands take, and whatever fails on the way, no event is lost. -/
theorem no_event_lost (c : Setting ω) (outside : ω) (commands : List Command) (state : State ω)
    (hdone : c.course commands (c.begin outside) = some state) : Lossless c state := by
  obtain ⟨hwired, _⟩ := (wired_begin outside).course hdone
  have hsound := (sound_begin outside).course (wired_begin outside) hdone
  refine ⟨fun stream => ⟨hsound.first stream, hsound.last stream⟩, hsound.projected, ?_, ?_,
    ?_, ?_, ?_, ?_⟩
  · intro more later hmore stream
    exact ⟨((hwired.course hmore).2 stream).2, ((hwired.course hmore).2 stream).1⟩
  · intro command fault later hperformed
    exact (hwired.perform hperformed).2.faulty fault rfl
  · intro stream answer later hsubscribed hperformed
    exact complete_of_redeliver hwired hsound
      (hwired.isStarted_of_subscribed hsubscribed) hperformed
  · intro stream events answer later hevents hperformed
    exact kept_of_append hwired hsound hevents hperformed
  · intro stream events hevents hsubscribed hwaits hreading
    exact refused_of_waiting hwired hevents (hwired.isStarted_of_subscribed hsubscribed)
      hwaits hreading
  · exact fun hresponsive command => hwired.isSome_perform hresponsive command

/-- Two projections of orders, of which one comes to a fault at the third call and the other handles
nothing. The first checkpoint is not saved. -/
def Setting.sample : Setting Nat where
  projections :=
    [⟨"Order", fun _ => ExceptT.mk (Fiber.step fun calls =>
        (if calls = 2 then .error (.projectionFailed "totals" "busy") else .ok true, calls + 1))⟩,
      ⟨"Order", fun _ => ExceptT.mk (Fiber.step fun calls => (.ok false, calls + 1))⟩]
  migrate := Migration.ofRenames [("Placed", "Ordered")]
  permit stream _ := ExceptT.mk (Fiber.step fun calls =>
    (if calls = 7 then .error (.checkpoint stream "busy") else .ok (), calls + 1))
  stamps := ⟨fun _ => ⟨0⟩, fun _ => ⟨0, 0⟩⟩
  handler := ⟨0⟩
  aggregateOf _ := "Order"

/-- An order is placed and paid for, and sent after its events came through. -/
def sampleCommands : List Command :=
  [.start, .append "order" [.ofJson "Placed" .null, .ofJson "Paid" .null], .redeliver "order",
    .redeliver "order", .append "order" [.ofJson "Sent" .null], .stop]

theorem no_event_lost_sample :
    ∃ state, Setting.sample.course sampleCommands (Setting.sample.begin 0) = some state ∧
    state.checkpoint "order" = 4 ∧ Lossless Setting.sample state :=
  ⟨_, rfl, by decide +kernel, no_event_lost Setting.sample 0 sampleCommands _ rfl⟩

end TenantAuth.Delivery
