import TenantAuth.Proofs.Stream.Course

/-!
Which projections a batch goes to.

A batch goes to the projections for the aggregate of its first event, all of it: events of other
aggregates in it are passed to these projections as well, and to no others. What is appended at once
has one aggregate, so it comes to the projections for its own. But a stream may hold batches of
several aggregates. When it is delivered again, all that was not projected before goes to the
projections for the aggregate of the first event in the stream.
-/

namespace TenantAuth.Delivery

variable {ω : Type}

/-! ### One batch -/

/-- Events are passed on from the expected version, each to all projections for an aggregate in
turn. Either all were passed on that are not covered, or it ended with a fault before. -/
inductive PassedOn (readers : Readers ω) (aggregate : String) :
    (expected : Nat) → List Event → List Call → (whole : Bool) → Prop
  | done {expected : Nat} : PassedOn readers aggregate expected [] [] true
  | covered {expected : Nat} {event : Event} {rest : List Event} {calls : List Call} {whole : Bool}
      (before : event.version < expected)
      (more : PassedOn readers aggregate expected rest calls whole) :
      PassedOn readers aggregate expected (event :: rest) calls whole
  | passed {event current : Event} {rest : List Event} {answers calls : List Call} {whole : Bool}
      (migrated : readers.migrate event = .ok current)
      (answered : Answered current ((readers.reading aggregate).map Prod.snd) answers)
      (more : PassedOn readers aggregate (event.version + 1) rest calls whole) :
      PassedOn readers aggregate event.version (event :: rest) (answers ++ calls) whole
  | failed {expected : Nat} {event : Event} {rest : List Event} {answers : List Call}
      (later : expected ≤ event.version)
      (migrated : ∀ call ∈ answers, readers.migrate event = .ok call.event)
      (inTurn : answers.map Call.projection <+: (readers.reading aggregate).map Prod.snd) :
      PassedOn readers aggregate expected (event :: rest) answers false

/-- A batch goes to the projections for the aggregate of its first event. -/
inductive Routed (readers : Readers ω) (checkpoint : Nat) :
    List Event → List Call → (whole : Bool) → Prop
  | nothing : Routed readers checkpoint [] [] true
  | batch {first : Event} {rest : List Event} {calls : List Call} {whole : Bool}
      (passed : PassedOn readers first.aggregate checkpoint (first :: rest) calls whole) :
      Routed readers checkpoint (first :: rest) calls whole

section Batch

variable {readers : Readers ω} {l l' : Ledger ω} {aggregate stream : String} {expected : Nat}
  {events : List Event}

/-- A fault before the first call. -/
theorem passedOn_refused {event : Event} {rest : List Event} (later : expected ≤ event.version) :
    PassedOn readers aggregate expected (event :: rest) [] false :=
  .failed later nofun List.nil_prefix

/-- Without a call there are only events that are covered, up to a fault. -/
theorem passedOn_nil (readers : Readers ω) (aggregate : String) (expected : Nat)
    (events : List Event) : ∃ whole, PassedOn readers aggregate expected events [] whole := by
  induction events with
  | nil => exact ⟨true, .done⟩
  | cons event rest ih =>
    obtain ⟨whole, hrest⟩ := ih
    by_cases hcovered : event.version < expected
    · exact ⟨whole, .covered hcovered hrest⟩
    · exact ⟨false, passedOn_refused (Nat.le_of_not_lt hcovered)⟩

/-- The calls of an event that is offered pass it on. If no projection comes to a fault, all of them
are called. -/
theorem passedOn_of_offer {event current : Event} {r : Except StreamFault Bool}
    (hcurrent : readers.migrate event = .ok current)
    (h : StreamM.Ends (Projector.offer current (readers.projector.selected aggregate)) l r l') :
    ∃ answers, l'.calls = l.calls ++ answers ∧
      (∀ rest, PassedOn readers aggregate event.version (event :: rest) answers false) ∧
      ∀ handled,
        r = .ok handled → Answered current ((readers.reading aggregate).map Prod.snd) answers := by
  rw [readers.selected_eq] at h
  obtain ⟨_, answers, hcalls, hturn, hevents, hanswered⟩ := offer_ends h
  refine ⟨answers, hcalls, fun rest => .failed (Nat.le_refl _) (fun call hcall => ?_) hturn,
    fun handled hr => (hanswered handled hr).1⟩
  rw [hcurrent, hevents call hcall]

/-- Projecting passes events on, all of them unless there is a fault. -/
theorem passedOn_of_project {r : Except StreamFault Nat}
    (h : StreamM.Ends
      (Projector.project readers.migrate (readers.projector.selected aggregate) stream expected
        events) l r l') :
    ∃ calls whole, l'.calls = l.calls ++ calls ∧ PassedOn readers aggregate expected events
      calls whole ∧ ∀ next, r = .ok next → whole = true := by
  induction events generalizing expected l with
  | nil =>
    obtain ⟨_, rfl⟩ := StreamM.ends_pure_iff.1 h
    exact ⟨[], true, (List.append_nil _).symm, .done, fun _ _ => rfl⟩
  | cons event rest ih =>
    cases Projector.atFirst_of_project h with
    | covered hcovered hends =>
      obtain ⟨calls, whole, hcalls, hpassed, hwhole⟩ := ih hends
      exact ⟨calls, whole, hcalls, .covered hcovered hpassed, hwhole⟩
    | ahead hgap =>
      exact ⟨[], false, (List.append_nil _).symm, passedOn_refused (Nat.le_of_lt hgap), nofun⟩
    | unmigrated hnext _ =>
      exact ⟨[], false, (List.append_nil _).symm, passedOn_refused (Nat.le_of_eq hnext.symm), nofun⟩
    | failed hnext hmigrated hoffer =>
      obtain ⟨answers, hanswers, hfailed, _⟩ := passedOn_of_offer hmigrated hoffer
      exact ⟨answers, false, hanswers, hnext ▸ hfailed rest, nofun⟩
    | unhandled hnext hmigrated hoffer =>
      obtain ⟨answers, hanswers, hfailed, _⟩ := passedOn_of_offer hmigrated hoffer
      exact ⟨answers, false, hanswers, hnext ▸ hfailed rest, nofun⟩
    | spent hnext hmigrated hoffer _ =>
      obtain ⟨answers, hanswers, hfailed, _⟩ := passedOn_of_offer hmigrated hoffer
      exact ⟨answers, false, hanswers, hnext ▸ hfailed rest, nofun⟩
    | handled hnext hmigrated hoffer hends =>
      subst hnext
      obtain ⟨answers, hanswers, _, hanswered⟩ := passedOn_of_offer hmigrated hoffer
      obtain ⟨calls, whole, hcalls, hpassed, hwhole⟩ := ih hends
      refine ⟨answers ++ calls, whole, ?_, .passed hmigrated (hanswered true rfl) hpassed, hwhole⟩
      rw [hcalls, hanswers, List.append_assoc]

/-- Whatever comes of a batch, what was passed on of it went to the projections for the aggregate of
its first event. -/
theorem routed_of_write {r : Except StreamFault Unit}
    (h : StreamM.Ends (readers.projector.write stream events) l r l') :
    ∃ calls whole, l'.calls = l.calls ++ calls ∧ Routed readers (l.checkpoint stream) events
      calls whole ∧ (r = .ok () → whole = true) := by
  cases events with
  | nil =>
    obtain ⟨_, rfl⟩ := StreamM.ends_pure_iff.1 h
    exact ⟨[], true, (List.append_nil _).symm, .nothing, fun _ => rfl⟩
  | cons first rest =>
    cases Projector.outcome_of_write h with
    | unconfigured =>
      obtain ⟨whole, hpassed⟩ :=
        passedOn_nil readers first.aggregate (l.checkpoint stream) (first :: rest)
      exact ⟨[], whole, (List.append_nil _).symm, .batch hpassed, nofun⟩
    | unread _ hload => cases (load_iff.1 hload).1
    | stopped _ hload hproject =>
      obtain ⟨hcheckpoint, rfl⟩ := load_iff.1 hload
      obtain rfl := Except.ok.inj hcheckpoint
      obtain ⟨calls, whole, hcalls, hpassed, _⟩ := passedOn_of_project hproject
      exact ⟨calls, whole, hcalls, .batch hpassed, nofun⟩
    | idle _ hload hproject =>
      obtain ⟨hcheckpoint, rfl⟩ := load_iff.1 hload
      obtain rfl := Except.ok.inj hcheckpoint
      obtain ⟨calls, whole, hcalls, hpassed, hwhole⟩ := passedOn_of_project hproject
      exact ⟨calls, whole, hcalls, .batch hpassed, fun _ => hwhole _ rfl⟩
    | saved _ hload hproject _ hsave =>
      obtain ⟨hcheckpoint, rfl⟩ := load_iff.1 hload
      obtain rfl := Except.ok.inj hcheckpoint
      obtain ⟨calls, whole, hcalls, hpassed, hwhole⟩ := passedOn_of_project hproject
      exact ⟨calls, whole, (save_ends hsave).1.trans hcalls, .batch hpassed,
        fun _ => hwhole _ rfl⟩

end Batch

/-! ### Streams of several aggregates -/

/-- What happens to a store and its relay: a batch is appended for an aggregate, a stream is
delivered again, the relay is given some events directly, or it is started or stopped. -/
inductive Occasion
  | append (aggregate stream : String) (events : List PendingEvent)
  | redeliver (stream : String)
  | deliver (stream : String) (events : List Event)
  | start
  | stop

namespace Setting

variable (c : Setting ω)

/-- The setting in which all streams belong to one aggregate. -/
def under (aggregate : String) : Setting ω := { c with aggregateOf := fun _ => aggregate }

/-- Let something happen; none if it waits for ever. -/
def meet (state : State ω) : Occasion → Option (Except StreamFault (List Event) × State ω)
  | .append aggregate stream events => (c.under aggregate).perform state (.append stream events)
  | .redeliver stream => c.perform state (.redeliver stream)
  | .deliver stream events =>
    (Fiber.run (Relay.handle c.projector stream events).run state.hub.outside).map fun p =>
      (p.1.map fun _ => [], state.leave p.2)
  | .start => c.perform state .start
  | .stop => c.perform state .stop

/-- The stream and the batch that the relay is told of, if it is told of any. -/
def told (state : State ω) : Occasion → Option (String × List Event)
  | .append aggregate stream events =>
    if state.relay.isStarted then some (stream, (c.under aggregate).batch stream events state)
    else none
  | .redeliver stream => if state.relay.isStarted then some (stream, state.stored stream) else none
  | .deliver stream events => some (stream, events)
  | .start => none
  | .stop => none

end Setting

/-- Something that happened: the states before and after it, and what was answered. -/
structure Moment (ω : Type) where
  occasion : Occasion
  before : State ω
  answer : Except StreamFault (List Event)
  after : State ω

/-- The calls of projections that something led to. -/
def Moment.calls (moment : Moment ω) : List Call :=
  moment.after.hub.outside.calls.drop moment.before.hub.outside.calls.length

/-- Let one thing happen after another, whatever they come to; none if one of them waits for
ever. -/
def Setting.history (c : Setting ω) : List Occasion → State ω → Option (List (Moment ω) × State ω)
  | [], state => some ([], state)
  | occasion :: rest, state => (c.meet state occasion).bind fun p =>
    (history c rest p.2).map fun q => (⟨occasion, state, p.1, p.2⟩ :: q.1, q.2)

/-- What the relay is told of, if of anything, is routed by its first event. -/
def Hears (readers : Readers ω) (l : Ledger ω) (calls : List Call) (whole : Bool) :
    Option (String × List Event) → Prop
  | none => calls = [] ∧ whole = true
  | some (stream, batch) => Routed readers (l.checkpoint stream) batch calls whole

/-- How the calls came about that something led to, when streams hold what they do at last. -/
structure Moment.Accounted (c : Setting ω) (last : State ω) (moment : Moment ω) : Prop where
  grown : ∀ stream, moment.before.stored stream <+: last.stored stream
  /-- What the relay is told of is routed by its first event, all of it unless there is a fault. -/
  heard : ∃ whole, Hears c.toReaders moment.before.hub.outside moment.calls whole
    (c.told moment.before moment.occasion) ∧ ∀ batch, moment.answer = .ok batch → whole = true
  /-- What is appended goes to the projections for its own aggregate. -/
  appended : ∀ aggregate stream events, moment.occasion = .append aggregate stream events →
    ∃ whole, PassedOn c.toReaders aggregate (moment.before.checkpoint stream)
      ((c.under aggregate).batch stream events moment.before) moment.calls whole
  /-- What is delivered again goes to the projections for the aggregate of the first event in its
  stream. -/
  redelivered :
    ∀ stream, moment.occasion = .redeliver stream → ∀ first ∈ (last.stored stream).head?, ∃ whole,
      PassedOn c.toReaders first.aggregate (moment.before.checkpoint stream)
      (moment.before.stored stream) moment.calls whole

variable {c : Setting ω} {state later last : State ω} {moment : Moment ω} {stream : String}

theorem Wired.under (h : Wired c state) (aggregate : String) : Wired (c.under aggregate) state :=
  ⟨h.handler, h.stores, h.one, h.alive, h.subscriber, h.free⟩

theorem Wired.of_under {aggregate : String} (h : Wired (c.under aggregate) state) : Wired c state :=
  ⟨h.handler, h.stores, h.one, h.alive, h.subscriber, h.free⟩

/-- A batch without events leads to no call, whether the relay is told of it or not. -/
theorem hears_nil (readers : Readers ω) (l : Ledger ω) (stream : String) (isStarted : Bool) :
    Hears readers l [] true (if isStarted then some (stream, []) else none) := by
  cases isStarted with
  | true => exact .nothing
  | false => exact ⟨rfl, rfl⟩

theorem ok_of_map {outcome : Except StreamFault Unit} {f : Unit → List Event} {answer : List Event}
    (h : outcome.map f = .ok answer) : outcome = .ok () := by
  cases outcome with
  | ok => rfl
  | error fault => cases h

/-- A relay that is started routes a batch by its first event. -/
theorem Told.hears {batch : List Event} {outcome : Except StreamFault Unit} {ledger : Ledger ω}
    {f : Unit → List Event} (h : Told c state stream batch outcome ledger) :
    ∃ calls whole, ledger.calls = state.hub.outside.calls ++ calls ∧
      Hears c.toReaders state.hub.outside calls whole
        (if state.relay.isStarted then some (stream, batch) else none) ∧
      ∀ answer, outcome.map f = .ok answer → whole = true := by
  rcases h with ⟨hstarted, hends⟩ | ⟨hstopped, rfl, rfl⟩
  · obtain ⟨calls, whole, hcalls, hrouted, hwhole⟩ := routed_of_write hends
    rw [if_pos hstarted]
    exact ⟨calls, whole, hcalls, hrouted, fun answer hanswer => hwhole (ok_of_map hanswer)⟩
  · rw [hstopped]
    exact ⟨[], true, (List.append_nil _).symm, ⟨rfl, rfl⟩, fun _ _ => rfl⟩

/-- What comes of anything that happens: streams only grow, and the calls that are added are those
for what the relay is told of. -/
structure Meets (c : Setting ω) (state : State ω) (occasion : Occasion)
    (r : Except StreamFault (List Event)) (later : State ω) : Prop where
  wired : Wired c later
  grown : ∀ stream, state.stored stream <+: later.stored stream
  added : ∃ calls whole, later.hub.outside.calls = state.hub.outside.calls ++ calls ∧
    Hears c.toReaders state.hub.outside calls whole (c.told state occasion) ∧ ∀ answer,
    r = .ok answer → whole = true

theorem meets_turned {occasion : Occasion} {turn : Relay × Hub (Ledger ω)}
    (htold : c.told state occasion = none)
    (hturn : Wired c (.turned turn) ∧ (State.turned turn).stored = state.stored ∧
      turn.2.outside = state.hub.outside) : Meets c state occasion (.ok []) (.turned turn) where
  wired := hturn.1
  grown stream := congrFun hturn.2.1 stream ▸ List.prefix_refl _
  added := by
    rw [htold]
    exact ⟨[], true, (congrArg Ledger.calls hturn.2.2).trans (List.append_nil _).symm, ⟨rfl, rfl⟩,
      fun _ _ => rfl⟩

theorem Wired.meet {occasion : Occasion} {r : Except StreamFault (List Event)} (h : Wired c state)
    (hdone : c.meet state occasion = some (r, later)) : Meets c state occasion r later := by
  cases occasion with
  | append aggregate stream events =>
    have happend : (c.under aggregate).perform state (.append stream events) = some (r, later) :=
      hdone
    obtain ⟨hwired, hfollows⟩ := (h.under aggregate).perform happend
    refine ⟨hwired.of_under, hfollows.stored, ?_⟩
    by_cases hevents : events = []
    · subst hevents
      obtain ⟨rfl, rfl⟩ := Prod.mk.inj (Option.some.inj (perform_append_nil.symm.trans happend))
      exact ⟨[], true, (List.append_nil _).symm, hears_nil _ _ stream _, fun _ _ => rfl⟩
    · obtain ⟨outcome, ledger, htold, rfl, rfl⟩ :=
        ((h.under aggregate).append_iff hevents).1 happend
      exact htold.hears
  | redeliver stream =>
    have hagain : c.perform state (.redeliver stream) = some (r, later) := hdone
    obtain ⟨hwired, hfollows⟩ := h.perform hagain
    refine ⟨hwired, hfollows.stored, ?_⟩
    obtain ⟨outcome, ledger, rfl, rfl, ⟨hnone, rfl, rfl⟩ | ⟨_, htold⟩⟩ := h.redeliver_iff.1 hagain
    · refine ⟨[], true, (List.append_nil _).symm, ?_, fun _ _ => rfl⟩
      rw [Setting.told, hnone]
      exact hears_nil _ _ stream _
    · exact htold.hears
  | deliver stream events =>
    obtain ⟨⟨outcome, ledger⟩, hends, hp⟩ := Option.map_eq_some_iff.1 hdone
    obtain ⟨rfl, rfl⟩ := Prod.mk.inj hp
    obtain ⟨calls, whole, hcalls, hrouted, hwhole⟩ := routed_of_write hends
    exact ⟨h.leave ledger, fun _ => List.prefix_refl _, calls, whole, hcalls, hrouted,
      fun answer hanswer => hwhole (ok_of_map hanswer)⟩
  | start =>
    obtain ⟨rfl, rfl⟩ := Prod.mk.inj (Option.some.inj hdone)
    exact meets_turned rfl h.start
  | stop =>
    obtain ⟨rfl, rfl⟩ := Prod.mk.inj (Option.some.inj hdone)
    exact meets_turned rfl h.stop

/-- A batch of events goes to the projections for an aggregate if its first event is of that
aggregate. -/
theorem Hears.passedOn {readers : Readers ω} {l : Ledger ω} {calls : List Call}
    {whole isStarted : Bool} {aggregate : String} {batch : List Event}
    (h : Hears readers l calls whole (if isStarted then some (stream, batch) else none))
    (hfirst : ∀ first ∈ batch.head?, first.aggregate = aggregate) :
    ∃ whole, PassedOn readers aggregate (l.checkpoint stream) batch calls whole := by
  cases isStarted with
  | true =>
    rcases h with _ | hpassed
    · exact ⟨true, .done⟩
    · rw [hfirst _ rfl] at hpassed
      exact ⟨whole, hpassed⟩
  | false =>
    obtain ⟨rfl, _⟩ := h
    exact passedOn_nil readers aggregate (l.checkpoint stream) batch

theorem Wired.accounted {occasion : Occasion} {r : Except StreamFault (List Event)}
    (h : Wired c state) (hdone : c.meet state occasion = some (r, later))
    (hlast : ∀ stream, later.stored stream <+: last.stored stream) :
    Moment.Accounted c last ⟨occasion, state, r, later⟩ := by
  obtain ⟨_, hgrown, calls, whole, hcalls, hhears, hwhole⟩ := h.meet hdone
  have hmoment : Moment.calls ⟨occasion, state, r, later⟩ = calls := by
    rw [Moment.calls, hcalls, List.drop_left]
  refine
    { grown := fun stream => (hgrown stream).trans (hlast stream)
      heard := ⟨whole, hmoment.symm ▸ hhears, hwhole⟩
      appended := ?appended
      redelivered := ?redelivered }
  case appended =>
    rintro aggregate stream events rfl
    rw [hmoment]
    exact hhears.passedOn fun first hfirst => EventStore.aggregate_of_mem_batch
      (List.mem_of_mem_head? hfirst)
  case redelivered =>
    rintro stream rfl first hfirst
    rw [hmoment]
    refine hhears.passedOn fun other hother => ?_
    obtain ⟨more, hmore⟩ := (hgrown stream).trans (hlast stream)
    rw [← hmore, List.head?_append, hother] at hfirst
    exact congrArg Event.aggregate (Option.some.inj hfirst)

/-! ### Whole histories -/

theorem Wired.history {occasions : List Occasion} {moments : List (Moment ω)} (h : Wired c state)
    (hdone : c.history occasions state = some (moments, last)) :
    (∀ stream, state.stored stream <+: last.stored stream) ∧
      moments.map Moment.occasion = occasions ∧ last.hub.outside.calls = state.hub.outside.calls ++
      moments.flatMap Moment.calls ∧
      ∀ moment ∈ moments, moment.Accounted c last := by
  induction occasions generalizing state moments with
  | nil =>
    obtain ⟨rfl, rfl⟩ := Prod.mk.inj (Option.some.inj hdone)
    exact ⟨fun _ => List.prefix_refl _, rfl, (List.append_nil _).symm, nofun⟩
  | cons occasion rest ih =>
    obtain ⟨⟨r, next⟩, hmeet, hrest⟩ := Option.bind_eq_some_iff.1 hdone
    obtain ⟨⟨later, last⟩, hlater, hp⟩ := Option.map_eq_some_iff.1 hrest
    obtain ⟨rfl, rfl⟩ := Prod.mk.inj hp
    obtain ⟨hwired, hgrown, calls, _, hcalls, _⟩ := h.meet hmeet
    obtain ⟨hstored, hoccasions, hadded, haccounted⟩ := ih hwired hlater
    refine ⟨fun stream => (hgrown stream).trans (hstored stream),
      congrArg (occasion :: ·) hoccasions, ?_, List.forall_mem_cons.2
      ⟨h.accounted hmeet hstored, haccounted⟩⟩
    rw [hadded, List.flatMap_cons, Moment.calls, hcalls, List.drop_left, List.append_assoc]

/-- A history comes to its end, unless a projection or the saving of a checkpoint waits for ever. -/
theorem Wired.isSome_history (h : Wired c state) (hresponsive : Responsive c.toReaders)
    (occasions : List Occasion) : (c.history occasions state).isSome = true := by
  induction occasions generalizing state with
  | nil => rfl
  | cons occasion rest ih =>
    have hmeet : (c.meet state occasion).isSome = true := by
      cases occasion with
      | append aggregate stream events =>
        exact (h.under aggregate).isSome_perform hresponsive (.append stream events)
      | redeliver stream => exact h.isSome_perform hresponsive (.redeliver stream)
      | deliver stream events =>
        obtain ⟨outcome, ledger, hends⟩ := hresponsive.write state.hub.outside
        exact Option.isSome_iff_exists.2 ⟨_, Option.map_eq_some_iff.2 ⟨_, hends, rfl⟩⟩
      | start => rfl
      | stop => rfl
    obtain ⟨⟨r, next⟩, hnext⟩ := Option.isSome_iff_exists.1 hmeet
    obtain ⟨_, hrest⟩ := Option.isSome_iff_exists.1 (ih (h.meet hnext).wired)
    exact Option.isSome_iff_exists.2
      ⟨_, Option.bind_eq_some_iff.2 ⟨_, hnext, Option.map_eq_some_iff.2 ⟨_, hrest, rfl⟩⟩⟩

/-- Whatever happens to a store whose streams hold events of any aggregates, each batch that the
relay is told of goes to the projections for the aggregate of its first event: what is appended, to
those for its own; what is delivered again, to those for the first event of its stream. -/
theorem routed_by_first_event (c : Setting ω) (occasions : List Occasion) (outside : ω) :
    (Responsive c.toReaders → (c.history occasions (c.begin outside)).isSome = true) ∧
      ∀ moments last, c.history occasions (c.begin outside) = some (moments, last) →
        moments.map Moment.occasion = occasions ∧
          last.hub.outside.calls = moments.flatMap Moment.calls ∧ ∀ moment ∈ moments,
          moment.Accounted c last := by
  refine ⟨fun hresponsive => (wired_begin outside).isSome_history hresponsive occasions,
    fun moments last hdone => ?_⟩
  obtain ⟨_, hoccasions, hcalls, haccounted⟩ := (wired_begin outside).history hdone
  exact ⟨hoccasions, hcalls, haccounted⟩

/-- A projection of orders and one of parcels, which refuses the second call that is made of any
projection. -/
def Setting.mixed : Setting Nat where
  projections :=
    [⟨"Order", fun _ => ExceptT.mk (Fiber.step fun calls => (.ok true, calls + 1))⟩,
      ⟨"Parcel", fun _ => ExceptT.mk (Fiber.step fun calls =>
        (if calls = 1 then .error (.projectionFailed "parcels" "refused") else .ok true,
          calls + 1))⟩]
  migrate := .identity
  permit _ _ := return ()
  stamps := ⟨fun _ => ⟨0⟩, fun _ => ⟨0, 0⟩⟩
  handler := ⟨0⟩
  aggregateOf _ := "Order"

/-- An order and a parcel come into one stream, which is delivered again after the parcel was
refused. -/
def sampleOccasions : List Occasion :=
  [.start, .append "Order" "shipment" [.ofJson "Placed" .null], .append "Parcel" "shipment"
    [.ofJson "Sent" .null], .redeliver "shipment"]

/-- The parcel was passed to the projection of parcels when it was appended, and to that of orders
when it was delivered again. -/
theorem routed_by_first_event_mixed : ∃ moments last,
    Setting.mixed.history sampleOccasions (Setting.mixed.begin 0) = some (moments, last) ∧
      (∀ moment ∈ moments, moment.Accounted Setting.mixed last) ∧
      last.hub.outside.calls.map (fun call => (call.projection, call.event.aggregate)) =
        [(0, "Order"), (1, "Parcel"), (0, "Parcel")] ∧
      last.checkpoint "shipment" = 3 := by
  have hresponsive : Responsive Setting.mixed.toReaders := by
    refine ⟨?_, fun _ _ _ => ⟨_, _, StreamM.ends_pure_iff.2 ⟨rfl, rfl⟩⟩⟩
    simp only [Setting.mixed, List.forall_mem_cons]
    exact ⟨fun _ _ => ⟨_, _, StreamM.ends_step_iff.2 ⟨rfl, rfl⟩⟩,
      fun _ _ => ⟨_, _, StreamM.ends_step_iff.2 ⟨rfl, rfl⟩⟩, nofun⟩
  obtain ⟨hends, haccounted⟩ := routed_by_first_event Setting.mixed sampleOccasions 0
  obtain ⟨⟨moments, last⟩, hdone⟩ := Option.isSome_iff_exists.1 (hends hresponsive)
  have hcourse : (Setting.mixed.history sampleOccasions (Setting.mixed.begin 0)).map (fun p =>
      (p.2.hub.outside.calls.map fun call => (call.projection, call.event.aggregate),
        p.2.checkpoint "shipment")) = some ([(0, "Order"), (1, "Parcel"), (0, "Parcel")], 3) := by
    decide +kernel
  rw [hdone] at hcourse
  obtain ⟨hcalls, hcheckpoint⟩ := Prod.mk.inj (Option.some.inj hcourse)
  exact ⟨moments, last, hdone, (haccounted moments last hdone).2.2, hcalls, hcheckpoint⟩

end TenantAuth.Delivery
