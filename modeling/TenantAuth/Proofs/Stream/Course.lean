import TenantAuth.Proofs.Stream.Storing

/-!
A relay over one store, in use.

The relay is started and stopped, and events are appended and delivered again, one after the other
in any order. Appending stores its batch and tells the relay of it, delivering again tells the relay
of the whole stream; a relay that is started reads what it is told, and one that is stopped is told
nothing.
-/

namespace TenantAuth.Delivery

variable {ω : Type}

/-- A relay over one store with those who read it, and the aggregate that each stream belongs to. -/
structure Setting (ω : Type) extends Readers ω where
  stamps : EventStore.Stamps
  handler : HandlerId
  aggregateOf : (stream : String) → String

/-- The relay, the store, and the ledger of what was projected. -/
structure State (ω : Type) where
  relay : Relay
  hub : Hub (Ledger ω)

/-- What is done to a store and its relay. -/
inductive Command
  | append (stream : String) (events : List PendingEvent)
  | redeliver (stream : String)
  | start
  | stop

namespace State

/-- The events of a stream. -/
def stored (state : State ω) (stream : String) : List Event := (state.hub.store 0).read stream

/-- The version of a stream that is to be projected next. -/
def checkpoint (state : State ω) (stream : String) : Nat := state.hub.outside.checkpoint stream

/-- The state when projecting left another ledger behind. -/
def leave (ledger : Ledger ω) (state : State ω) : State ω := ⟨state.relay, state.hub.leave ledger⟩

/-- The state after the relay was started or stopped. -/
def turned (turn : Relay × Hub (Ledger ω)) : State ω := ⟨turn.1, turn.2⟩

end State

namespace Setting

variable (c : Setting ω)

/-- Whatever is subscribed is the relay. -/
def handlers : Handlers (Ledger ω) := fun _ => Relay.handle c.projector

/-- An empty store, with nothing projected and the relay not started. -/
def begin (outside : ω) : State ω :=
  ⟨⟨c.handler, [0], false⟩, ⟨[EventStore.empty], [c.handler], ⟨[], [], outside⟩⟩⟩

/-- The state with a batch appended. -/
def appended (stream : String) (events : List PendingEvent) (state : State ω) : State ω :=
  ⟨state.relay, state.hub.modifyStore 0
    (EventStore.appended c.stamps (c.aggregateOf stream) stream events)⟩

/-- The batch that appending events stores. -/
def batch (stream : String) (events : List PendingEvent) (state : State ω) : List Event :=
  (state.hub.store 0).batch c.stamps (c.aggregateOf stream) stream events

/-- Carry out a command; none if it waits for ever. Only appending has something to answer. -/
def perform (state : State ω) : Command → Option (Except StreamFault (List Event) × State ω)
  | .append stream events =>
    (Fiber.run (Hub.append c.handlers c.stamps 0 (c.aggregateOf stream) stream events).run
      state.hub).map fun p =>
      (p.1, ⟨state.relay, p.2⟩)
  | .redeliver stream =>
    (Fiber.run (Hub.redeliver c.handlers 0 stream).run state.hub).map fun p =>
      (p.1.map fun _ => [], ⟨state.relay, p.2⟩)
  | .start => some (.ok [], .turned (state.relay.start state.hub))
  | .stop => some (.ok [], .turned (state.relay.stop state.hub))

/-- Carry out commands one after the other, whatever they come to. -/
def course : List Command → State ω → Option (State ω)
  | [], state => some state
  | command :: rest, state => (c.perform state command).bind fun p => course rest p.2

end Setting

variable {c : Setting ω} {state later : State ω} {stream : String} {events : List PendingEvent}

/-! ### How store and relay are connected -/

/-- The relay is over the one store, which has it as its subscriber while it is started; nobody
holds a stream. -/
structure Wired (c : Setting ω) (state : State ω) : Prop where
  handler : state.relay.handler = c.handler
  stores : state.relay.stores = [0]
  one : state.hub.stores.length = 1
  alive : state.hub.alive = [c.handler]
  subscriber :
    (state.hub.store 0).subscriber = if state.relay.isStarted then some c.handler else none
  free : (state.hub.store 0).held = []

theorem wired_begin (outside : ω) : Wired c (c.begin outside) := ⟨rfl, rfl, rfl, rfl, rfl, rfl⟩

theorem Wired.leave (h : Wired c state) (ledger : Ledger ω) : Wired c (state.leave ledger) :=
  ⟨h.handler, h.stores, h.one, h.alive, h.subscriber, h.free⟩

/-- A change of the store that concerns the streams only. -/
theorem Wired.modify {f : EventStore → EventStore} (h : Wired c state)
    (hsubscriber : ∀ store, (f store).subscriber = store.subscriber)
    (hheld : ∀ store, (f store).held = store.held) :
    Wired c ⟨state.relay, state.hub.modifyStore 0 f⟩ := by
  have hstore : (state.hub.modifyStore 0 f).store 0 = f (state.hub.store 0) :=
    Hub.store_modifyStore (by rw [h.one]; exact Nat.one_pos)
  refine ⟨h.handler, h.stores, ?_, h.alive, ?_, ?_⟩
  · rw [Hub.modifyStore, List.length_modify]
    exact h.one
  · rw [hstore, hsubscriber]
    exact h.subscriber
  · rw [hstore, hheld]
    exact h.free

theorem Wired.appended (h : Wired c state) : Wired c (c.appended stream events state) :=
  h.modify (fun _ => rfl) fun _ => rfl

/-- A relay that is started reads a batch, and one that is stopped is not told of it. -/
def Told (c : Setting ω) (state : State ω) (stream : String) (batch : List Event)
    (outcome : Except StreamFault Unit) (ledger : Ledger ω) : Prop :=
  (state.relay.isStarted = true ∧ StreamM.Ends (c.projector.write stream batch) state.hub.outside
    outcome ledger) ∨ state.relay.isStarted = false ∧ outcome = .ok () ∧ ledger = state.hub.outside

/-- The relay is the subscriber while it is started. -/
theorem Wired.subscriber?_eq (h : Wired c state) :
    state.hub.subscriber? 0 = if state.relay.isStarted then some c.handler else none := by
  rw [Hub.subscriber?, h.subscriber, h.alive]
  cases state.relay.isStarted <;> simp

theorem Wired.tells_iff {batch : List Event} {outcome : Except StreamFault Unit} {ledger : Ledger ω}
    (h : Wired c state) :
    Hub.Tells c.handlers state.hub 0 stream batch outcome ledger ↔
      Told c state stream batch outcome ledger := by
  rw [Hub.Tells, h.subscriber?_eq, Told]
  cases state.relay.isStarted with
  | true => simp [Setting.handlers, Relay.handle]
  | false => simp

theorem Wired.isFree (h : Wired c state) : (state.hub.store 0).isFree stream = true := by
  rw [EventStore.isFree, h.free]
  rfl

/-- Appending stores the batch and tells the relay of it. -/
theorem Wired.append_iff {r : Except StreamFault (List Event)} (h : Wired c state)
    (hevents : events ≠ []) : c.perform state (.append stream events) = some (r, later) ↔
      ∃ outcome ledger, Told c state stream (c.batch stream events state) outcome ledger ∧
      r = outcome.map (fun _ => c.batch stream events state) ∧
      later = (c.appended stream events state).leave ledger := by
  have hzero : 0 < state.hub.stores.length := by rw [h.one]; exact Nat.one_pos
  rw [Setting.perform, Option.map_eq_some_iff]
  constructor
  · rintro ⟨⟨r, hub⟩, hends, hp⟩
    obtain ⟨rfl, rfl⟩ := Prod.mk.inj hp
    obtain ⟨_, outcome, ledger, htells, rfl, rfl⟩ := (Hub.append_iff hzero hevents).1 hends
    exact ⟨outcome, ledger, h.tells_iff.1 htells, rfl, rfl⟩
  · rintro ⟨outcome, ledger, htold, rfl, rfl⟩
    exact ⟨_, (Hub.append_iff hzero hevents).2
      ⟨h.isFree, outcome, ledger, h.tells_iff.2 htold, rfl, rfl⟩, rfl⟩

/-- Delivering a stream again tells the relay of all of it. -/
theorem Wired.redeliver_iff {r : Except StreamFault (List Event)} (h : Wired c state) :
    c.perform state (.redeliver stream) = some (r, later) ↔ ∃ outcome ledger,
      r = outcome.map (fun _ => []) ∧ later = state.leave ledger ∧
        ((state.stored stream = [] ∧ outcome = .ok () ∧ ledger = state.hub.outside) ∨
          state.stored stream ≠ [] ∧ Told c state stream (state.stored stream) outcome ledger) := by
  have hzero : 0 < state.hub.stores.length := by rw [h.one]; exact Nat.one_pos
  rw [Setting.perform, Option.map_eq_some_iff]
  constructor
  · rintro ⟨⟨outcome, hub⟩, hends, hp⟩
    obtain ⟨rfl, rfl⟩ := Prod.mk.inj hp
    obtain ⟨_, ledger, rfl, hcase⟩ := (Hub.redeliver_iff hzero).1 hends
    exact ⟨outcome, ledger, rfl, rfl, hcase.imp id fun ⟨hne, htells⟩ => ⟨hne, h.tells_iff.1 htells⟩⟩
  · rintro ⟨outcome, ledger, rfl, rfl, hcase⟩
    exact ⟨_, (Hub.redeliver_iff hzero).2 ⟨h.isFree, ledger, rfl,
      hcase.imp id fun ⟨hne, htold⟩ => ⟨hne, h.tells_iff.2 htold⟩⟩, rfl⟩

/-! ### What any command does -/

/-- Streams only grow, no checkpoint goes back, and none moves when there is a fault. -/
structure Follows (state : State ω) (r : Except StreamFault (List Event))
    (later : State ω) : Prop where
  stored : ∀ stream, state.stored stream <+: later.stored stream
  checkpoint : ∀ stream, state.checkpoint stream ≤ later.checkpoint stream
  faulty : ∀ fault, r = .error fault → ∀ stream, later.checkpoint stream = state.checkpoint stream

theorem follows_of_same {r : Except StreamFault (List Event)}
    (hstored : later.stored = state.stored) (houtside : later.hub.outside = state.hub.outside) :
    Follows state r later := by
  have hcheckpoint : later.checkpoint = state.checkpoint := by
    funext stream
    rw [State.checkpoint, houtside]
    rfl
  refine ⟨fun stream => ?_, fun stream => ?_, fun _ _ stream => congrFun hcheckpoint stream⟩
  · exact congrFun hstored.symm stream ▸ List.prefix_refl _
  · exact Nat.le_of_eq (congrFun hcheckpoint.symm stream)

theorem Wired.stored_appended (h : Wired c state) (other : String) :
    (c.appended stream events state).stored other =
      if other = stream then state.stored stream ++ c.batch stream events state
      else state.stored other := by
  rw [State.stored, Setting.appended, Hub.store_modifyStore (by rw [h.one]; exact Nat.one_pos)]
  exact EventStore.read_appended

/-- Telling the relay moves checkpoints forward, if at all, and none when there is a fault. -/
theorem Told.follows {batch : List Event} {outcome : Except StreamFault Unit} {ledger : Ledger ω}
    {f : Unit → List Event} (h : Told c state stream batch outcome ledger) :
    Follows state (outcome.map f) (state.leave ledger) := by
  rcases h with ⟨_, hends⟩ | ⟨_, rfl, rfl⟩
  · refine ⟨fun _ => List.prefix_refl _, fun other => checkpoint_le_of_write other hends,
      fun fault hfault other => ?_⟩
    rcases (write_ends hends).2 with htable | ⟨rfl, _⟩
    · exact congrArg (fun table => CheckpointTable.load table other) htable
    · cases hfault
  · exact follows_of_same rfl rfl

/-- Apart from the store, the ledger, and whether the relay is started, nothing can differ. -/
theorem Wired.eq (h : Wired c state) : ∃ store, state =
    ⟨⟨c.handler, [0], state.relay.isStarted⟩, ⟨[store], [c.handler], state.hub.outside⟩⟩ := by
  obtain ⟨store, hstore⟩ := List.length_eq_one_iff.1 h.one
  obtain ⟨⟨handler, numbers, isStarted⟩, ⟨stores, alive, outside⟩⟩ := state
  obtain rfl : handler = c.handler := h.handler
  obtain rfl : numbers = [0] := h.stores
  obtain rfl : alive = [c.handler] := h.alive
  obtain rfl : stores = [store] := hstore
  exact ⟨store, rfl⟩

/-- Starting subscribes the relay and changes nothing else. -/
theorem Wired.start (h : Wired c state) : Wired c (.turned (state.relay.start state.hub)) ∧
    (State.turned (state.relay.start state.hub)).stored = state.stored ∧
    (state.relay.start state.hub).2.outside = state.hub.outside := by
  rw [Relay.start]
  split
  · exact ⟨h, rfl, rfl⟩
  · have hfree := h.free
    obtain ⟨store, hstate⟩ := h.eq
    rw [hstate] at hfree ⊢
    exact ⟨⟨rfl, rfl, rfl, rfl, rfl, hfree⟩, rfl, rfl⟩

/-- Stopping leaves the store without subscriber and changes nothing else. -/
theorem Wired.stop (h : Wired c state) : Wired c (.turned (state.relay.stop state.hub)) ∧
    (State.turned (state.relay.stop state.hub)).stored = state.stored ∧
    (state.relay.stop state.hub).2.outside = state.hub.outside := by
  rw [Relay.stop]
  split
  · have hfree := h.free
    obtain ⟨store, hstate⟩ := h.eq
    rw [hstate] at hfree ⊢
    exact ⟨⟨rfl, rfl, rfl, rfl, rfl, hfree⟩, rfl, rfl⟩
  · exact ⟨h, rfl, rfl⟩

/-- Appending nothing does nothing. -/
theorem perform_append_nil : c.perform state (.append stream []) = some (.ok [], state) := rfl

theorem Wired.perform {command : Command} {r : Except StreamFault (List Event)} (h : Wired c state)
    (hdone : c.perform state command = some (r, later)) :
    Wired c later ∧ Follows state r later := by
  cases command with
  | append stream events =>
    by_cases hevents : events = []
    · subst hevents
      obtain ⟨rfl, rfl⟩ := Prod.mk.inj (Option.some.inj (perform_append_nil.symm.trans hdone))
      exact ⟨h, follows_of_same rfl rfl⟩
    · obtain ⟨outcome, ledger, htold, rfl, rfl⟩ := (h.append_iff hevents).1 hdone
      have hfollows : Follows state (outcome.map fun _ => c.batch stream events state)
          (state.leave ledger) :=
        htold.follows
      refine ⟨h.appended.leave ledger, fun other => ?_, hfollows.checkpoint, hfollows.faulty⟩
      change state.stored other <+: (c.appended stream events state).stored other
      rw [h.stored_appended]
      split
      · rename_i hother
        rw [hother]
        exact List.prefix_append _ _
      · exact List.prefix_refl _
  | redeliver stream =>
    obtain ⟨outcome, ledger, rfl, rfl, ⟨_, rfl, rfl⟩ | ⟨_, htold⟩⟩ := h.redeliver_iff.1 hdone
    · exact ⟨h.leave _, follows_of_same rfl rfl⟩
    · exact ⟨h.leave _, htold.follows⟩
  | start =>
    obtain ⟨rfl, rfl⟩ := Prod.mk.inj (Option.some.inj hdone)
    exact ⟨h.start.1, follows_of_same h.start.2.1 h.start.2.2⟩
  | stop =>
    obtain ⟨rfl, rfl⟩ := Prod.mk.inj (Option.some.inj hdone)
    exact ⟨h.stop.1, follows_of_same h.stop.2.1 h.stop.2.2⟩

/-- A course of commands keeps the connection; streams only grow, and no checkpoint goes back. -/
theorem Wired.course {commands : List Command} (h : Wired c state)
    (hdone : c.course commands state = some later) :
    Wired c later ∧ ∀ stream, state.stored stream <+: later.stored stream ∧
      state.checkpoint stream ≤ later.checkpoint stream := by
  induction commands generalizing state with
  | nil =>
    obtain rfl := Option.some.inj hdone
    exact ⟨h, fun stream => ⟨List.prefix_refl _, Nat.le_refl _⟩⟩
  | cons command rest ih =>
    obtain ⟨⟨r, next⟩, hfirst, hrest⟩ := Option.bind_eq_some_iff.1 hdone
    obtain ⟨hwired, hfollows⟩ := h.perform hfirst
    obtain ⟨hlater, hgrows⟩ := ih hwired hrest
    exact ⟨hlater, fun stream => ⟨(hfollows.stored stream).trans (hgrows stream).1,
      Nat.le_trans (hfollows.checkpoint stream) (hgrows stream).2⟩⟩

/-- No command waits for ever, unless a projection or the saving of a checkpoint does. -/
theorem Wired.isSome_perform (h : Wired c state) (hresponsive : Responsive c.toReaders)
    (command : Command) : (c.perform state command).isSome = true := by
  have htold : ∀ stream batch, ∃ outcome ledger, Told c state stream batch outcome ledger := by
    intro stream batch
    cases hstarted : state.relay.isStarted with
    | true =>
      obtain ⟨outcome, ledger, hends⟩ := hresponsive.write state.hub.outside
      exact ⟨outcome, ledger, Or.inl ⟨hstarted, hends⟩⟩
    | false => exact ⟨_, _, Or.inr ⟨hstarted, rfl, rfl⟩⟩
  rw [Option.isSome_iff_exists]
  cases command with
  | append stream events =>
    by_cases hevents : events = []
    · exact ⟨_, hevents ▸ perform_append_nil⟩
    · obtain ⟨outcome, ledger, h₁⟩ := htold stream (c.batch stream events state)
      exact ⟨(_, _), (h.append_iff hevents).2 ⟨outcome, ledger, h₁, rfl, rfl⟩⟩
  | redeliver stream =>
    by_cases hnone : state.stored stream = []
    · exact ⟨(_, _), h.redeliver_iff.2 ⟨_, _, rfl, rfl, Or.inl ⟨hnone, rfl, rfl⟩⟩⟩
    · obtain ⟨outcome, ledger, h₁⟩ := htold stream (state.stored stream)
      exact ⟨(_, _), h.redeliver_iff.2 ⟨outcome, ledger, rfl, rfl, Or.inr ⟨hnone, h₁⟩⟩⟩
  | start => exact ⟨_, rfl⟩
  | stop => exact ⟨_, rfl⟩

end TenantAuth.Delivery
