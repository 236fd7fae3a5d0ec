import TenantAuth.Proofs.Stream.Delivery
import TenantAuth.Stream.Relay

/-!
Appending to a stream of a store and delivering it again, from the outside.

A batch that is appended stands at the end of its stream, numbered on from there, whatever the
subscriber comes to. Both operations hold the stream while they tell the subscriber, and let go of
it in any case, so that all they leave behind is the batch and what the subscriber did.
-/

namespace TenantAuth

/-- What was appended to become an event. -/
def Event.pending (event : Event) : PendingEvent := ⟨event.eventType, event.data, event.metadata⟩

namespace EventStore

variable {stamps : Stamps} {moment : Instant} {aggregate stream other : String}
  {version number : Nat} {events : List PendingEvent} {store : EventStore}

theorem read_replace {stored : List Event} :
    (store.replace stream stored).read other = if other =
      stream then stored else store.read other := by
  unfold read replace
  rw [lookup_put]
  split <;> rfl

theorem pending_place :
    (place stamps moment aggregate stream version number events).map Event.pending = events := by
  induction events generalizing version number with
  | nil => rfl
  | cons event rest ih => rw [place, List.map_cons, ih]; rfl

theorem numbered_place :
    Delivery.Numbered version (place stamps moment aggregate stream version number events) := by
  induction events generalizing version number with
  | nil => rfl
  | cons event rest ih => exact Delivery.numbered_cons.2 ⟨rfl, ih⟩

theorem placed_of_mem_place {event : Event}
    (h : event ∈ place stamps moment aggregate stream version number events) :
    event.aggregate = aggregate ∧ event.stream = stream := by
  induction events generalizing version number with
  | nil => exact absurd h List.not_mem_nil
  | cons first rest ih =>
    rcases List.mem_cons.1 h with rfl | h
    · exact ⟨rfl, rfl⟩
    · exact ih h

/-- The batch that appending events stores. -/
def batch (stamps : Stamps) (aggregate stream : String) (events : List PendingEvent)
    (store : EventStore) :
    List Event := (store.append stamps aggregate stream events).1

theorem pending_batch : (store.batch stamps aggregate stream events).map Event.pending = events :=
    pending_place

theorem length_batch : (store.batch stamps aggregate stream events).length = events.length := by
  rw [← List.length_map Event.pending, pending_batch]

theorem numbered_batch : Delivery.Numbered (firstVersion + (store.read stream).length)
    (store.batch stamps aggregate stream events) := by
  rw [Nat.add_comm]
  exact numbered_place

theorem aggregate_of_mem_batch {event : Event}
    (h : event ∈ store.batch stamps aggregate stream events) : event.aggregate = aggregate :=
    (placed_of_mem_place h).1

theorem stream_of_mem_batch {event : Event}
    (h : event ∈ store.batch stamps aggregate stream events) : event.stream = stream :=
    (placed_of_mem_place h).2

/-- The store with a batch appended. -/
def appended (stamps : Stamps) (aggregate stream : String) (events : List PendingEvent)
    (store : EventStore) :
    EventStore := (store.append stamps aggregate stream events).2

theorem read_appended : (store.appended stamps aggregate stream events).read other =
    if other = stream then store.read stream ++ store.batch stamps aggregate stream events
    else store.read other :=
  read_replace

/-- Appending leaves what is stored in its place. -/
theorem prefix_read_appended :
    store.read other <+: (store.appended stamps aggregate stream events).read other := by
  rw [read_appended]
  split
  · rename_i hother
    rw [hother]
    exact List.prefix_append _ _
  · exact List.prefix_refl _

theorem release_hold : (store.hold stream).release stream = store := by
  unfold hold release
  rw [List.erase_cons_head]

theorem release_appended_hold :
    ((store.hold stream).appended stamps aggregate stream events).release stream =
    store.appended stamps aggregate stream events := by
  change release stream (hold stream (store.appended stamps aggregate stream events)) = _
  exact release_hold

end EventStore

namespace Hub

variable {κ α : Type} {hub hub' : Hub κ} {i : Nat} {stream aggregate : String}
  {handlers : Handlers κ}

/-- The hub when something else was left behind by handlers. -/
def leave (outside : κ) (hub : Hub κ) : Hub κ := { hub with outside }

theorem isPart_outside : IsPart (Hub.outside (κ := κ)) fun outside hub => { hub with outside } :=
  ⟨fun _ _ => rfl, fun _ _ _ => rfl, fun _ => rfl⟩

theorem store_modifyStore {f : EventStore → EventStore} (hi : i < hub.stores.length) :
    (hub.modifyStore i f).store i = f (hub.store i) := by
  rw [store, modifyStore, store, List.getElem?_modify, List.getElem?_eq_getElem hi]
  simp

theorem store_modifyStore_of_ne {f : EventStore → EventStore} {j : Nat} (hji : j ≠ i) :
    (hub.modifyStore i f).store j = hub.store j :=
  congrArg (Option.getD · EventStore.empty) (List.getElem?_modify_ne _ _ (Ne.symm hji))

/-- Whatever a change leaves alone in one store is the same in all stores as before. -/
theorem modifyStore_same {β : Type} {f : EventStore → EventStore} {g : EventStore → β}
    (hi : i < hub.stores.length) (h : g (f (hub.store i)) = g (hub.store i)) (j : Nat) :
    g ((hub.modifyStore i f).store j) = g (hub.store j) := by
  by_cases hji : j = i
  · rw [hji, store_modifyStore hi, h]
  · rw [store_modifyStore_of_ne hji]

theorem modifyStore_modifyStore {f g : EventStore → EventStore} :
    (hub.modifyStore i f).modifyStore i g = hub.modifyStore i (g ∘ f) := by
  rw [modifyStore, modifyStore, List.modify_modify_eq]
  rfl

theorem modifyStore_leave {f : EventStore → EventStore} {outside : κ} :
    (hub.leave outside).modifyStore i f = (hub.modifyStore i f).leave outside := rfl

theorem modifyStore_congr {f g : EventStore → EventStore} (hi : i < hub.stores.length)
    (h : f (hub.store i) = g (hub.store i)) : hub.modifyStore i f = hub.modifyStore i g := by
  rw [store, List.getElem?_eq_getElem hi, Option.getD_some] at h
  refine congrArg (fun stores => { hub with stores }) (List.ext_getElem? fun j => ?_)
  rw [List.getElem?_modify, List.getElem?_modify]
  by_cases hij : i = j
  · subst hij
    simp [List.getElem?_eq_getElem hi, h]
  · simp [hij]

/-! ### Subscribers -/

/-- The hub with one subscriber for several stores, or with none. -/
def assign (subscriber : Option HandlerId) (numbers : List Nat) (hub : Hub κ) : Hub κ :=
  numbers.foldl (fun hub i => hub.modifyStore i fun store => { store with subscriber }) hub

section Assign

variable (subscriber : Option HandlerId) (numbers : List Nat) (hub : Hub κ)

theorem length_assign : (hub.assign subscriber numbers).stores.length = hub.stores.length := by
  induction numbers generalizing hub with
  | nil => rfl
  | cons j rest ih => exact (ih _).trans (List.length_modify ..)

theorem alive_assign : (hub.assign subscriber numbers).alive = hub.alive := by
  induction numbers generalizing hub with
  | nil => rfl
  | cons j rest ih => exact ih _

theorem outside_assign : (hub.assign subscriber numbers).outside = hub.outside := by
  induction numbers generalizing hub with
  | nil => rfl
  | cons j rest ih => exact ih _

/-- The stores get their subscriber, and all else stays as it is. -/
theorem store_assign {i : Nat} (hi : i < hub.stores.length) :
    (hub.assign subscriber numbers).store i =
    if i ∈ numbers then { hub.store i with subscriber } else hub.store i := by
  induction numbers generalizing hub with
  | nil => rfl
  | cons j rest ih =>
    refine (ih _ (Nat.lt_of_lt_of_eq hi (List.length_modify ..).symm)).trans ?_
    by_cases hij : i = j
    · subst hij
      rw [store_modifyStore hi, if_pos List.mem_cons_self]
      split <;> rfl
    · rw [store_modifyStore_of_ne hij]
      simp only [List.mem_cons, hij, false_or]

end Assign

/-- Telling the subscriber of events comes to an outcome and leaves a world behind. Without
subscriber, nothing happens. -/
def Tells (handlers : Handlers κ) (hub : Hub κ) (i : Nat) (stream : String) (events : List Event)
    (r : Except StreamFault Unit) (outside : κ) : Prop :=
  match hub.subscriber? i with
  | some handler => StreamM.Ends (handlers handler stream events) hub.outside r outside
  | none => r = .ok () ∧ outside = hub.outside

theorem notify_iff {events : List Event} {r : Except StreamFault Unit} :
    StreamM.Ends (notify handlers i stream events) hub r hub' ↔
      ∃ outside, Tells handlers hub i stream events r outside ∧ hub' = hub.leave outside := by
  have hlook : StreamM.Ends (notify handlers i stream events) hub r hub' ↔
      StreamM.Ends (match hub.subscriber? i with
        | some handler => handled (handlers handler stream events)
        | none => pure ()) hub r hub' := by
    refine StreamM.ends_bind_iff.trans
      ⟨?_, fun h => Or.inl ⟨_, hub, StreamM.ends_look_iff.2 ⟨rfl, rfl⟩, h⟩⟩
    rintro (⟨_, _, hlooked, h⟩ | ⟨_, hlooked, _⟩)
    · obtain ⟨hsubscriber, rfl⟩ := StreamM.ends_look_iff.1 hlooked
      rwa [Except.ok.inj hsubscriber] at h
    · cases (StreamM.ends_look_iff.1 hlooked).1
  rw [hlook]
  unfold Tells
  cases hub.subscriber? i with
  | some handler => exact StreamM.ends_zoom_iff isPart_outside
  | none =>
    refine StreamM.ends_pure_iff.trans ⟨?_, ?_⟩
    · rintro ⟨rfl, rfl⟩
      exact ⟨_, ⟨rfl, rfl⟩, rfl⟩
    · rintro ⟨_, ⟨rfl, rfl⟩, rfl⟩
      exact ⟨rfl, rfl⟩

/-- What is done while holding a stream starts when the stream is free, and the stream is let go of
at its end. -/
theorem holding_iff {m : StreamM (Hub κ) α} {r : Except StreamFault α} :
    StreamM.Ends (holding i stream m) hub r hub' ↔ (hub.store i).isFree stream = true ∧
      ∃ hub₁, StreamM.Ends m (hub.modifyStore i (EventStore.hold stream)) r hub₁ ∧
        hub' = hub₁.modifyStore i (EventStore.release stream) := by
  simp only [holding, StreamM.ends_bind_iff, StreamM.ends_run_iff, StreamM.ends_await_iff,
    StreamM.ends_change_iff, StreamM.ends_liftExcept_iff]
  constructor
  · rintro (⟨_, _, ⟨hfree, _, rfl⟩,
      ⟨_, hub₁, ⟨_, h, ⟨⟩⟩, ⟨_, _, ⟨_, rfl⟩, rfl, rfl⟩ | ⟨_, ⟨⟨⟩, _⟩, _⟩⟩ | ⟨_, ⟨_, _, ⟨⟩⟩,
        _⟩⟩ | ⟨_, ⟨_, ⟨⟩, _⟩, _⟩)
    exact ⟨hfree, hub₁, h, rfl⟩
  · rintro ⟨hfree, hub₁, h, rfl⟩
    exact Or.inl ⟨(), _, ⟨hfree, trivial, rfl⟩,
      Or.inl ⟨r, hub₁, ⟨r, h, rfl⟩, Or.inl ⟨(), _, ⟨trivial, rfl⟩, rfl, rfl⟩⟩⟩

variable {stamps : EventStore.Stamps} {events : List PendingEvent}

/-- Whom a store tells, and what they work on, does not depend on what it holds. -/
theorem tells_congr {hub₁ : Hub κ} {batch : List Event} {r : Except StreamFault Unit} {outside : κ}
    (hsubscriber : hub₁.subscriber? i = hub.subscriber? i) (houtside : hub₁.outside = hub.outside) :
    Tells handlers hub₁ i stream batch r outside ↔ Tells handlers hub i stream batch r outside := by
  rw [Tells, Tells, hsubscriber, houtside]

theorem subscriber?_modifyStore {f : EventStore → EventStore} (hi : i < hub.stores.length)
    (h : (f (hub.store i)).subscriber = (hub.store i).subscriber) (j : Nat) :
    (hub.modifyStore i f).subscriber? j = hub.subscriber? j :=
  congrArg (Option.filter _) (modifyStore_same (g := EventStore.subscriber) hi h j)

/-- Appending to a stream of a store puts the batch behind it, and leaves all other streams of all
stores alone. -/
theorem read_modifyStore_appended (hi : i < hub.stores.length) (j : Nat) (other : String) :
    ((hub.modifyStore i (EventStore.appended stamps aggregate stream events)).store j).read other =
      (hub.store j).read other ++
        if i = j ∧ stream = other then (hub.store i).batch stamps aggregate stream events
        else [] := by
  by_cases hji : j = i
  · subst hji
    rw [store_modifyStore hi, EventStore.read_appended]
    by_cases hother : other = stream
    · rw [hother, if_pos rfl, if_pos ⟨rfl, rfl⟩]
    · rw [if_neg hother, if_neg fun hsame => hother hsame.2.symm, List.append_nil]
  · rw [store_modifyStore_of_ne hji, if_neg fun hsame => hji hsame.1.symm, List.append_nil]

/-- Once a stream is let go of again, a store is as if it had not been held. -/
theorem release_held {f g : EventStore → EventStore} (hi : i < hub.stores.length) (outside : κ)
    (h : (f ((hub.store i).hold stream)).release stream = g (hub.store i)) :
    (((hub.modifyStore i (EventStore.hold stream)).modifyStore i f).leave outside).modifyStore i
      (EventStore.release stream) = (hub.modifyStore i g).leave outside := by
  rw [modifyStore_leave, modifyStore_modifyStore, modifyStore_modifyStore]
  exact congrArg (leave outside) (modifyStore_congr hi h)

/-- Appending stores the batch and tells the subscriber, whose outcome decides on the answer and on
nothing else. -/
theorem append_iff {r : Except StreamFault (List Event)} (hi : i < hub.stores.length)
    (hevents : events ≠ []) :
    StreamM.Ends (append handlers stamps i aggregate stream events) hub r hub' ↔
      (hub.store i).isFree stream = true ∧ ∃ outcome outside,
        Tells handlers hub i stream ((hub.store i).batch stamps aggregate stream events)
          outcome outside ∧
        r = outcome.map (fun _ => (hub.store i).batch stamps aggregate stream events) ∧
        hub' = (hub.modifyStore i (EventStore.appended stamps aggregate stream events)).leave
          outside := by
  have hempty : events.isEmpty = false := List.isEmpty_eq_false_iff.2 hevents
  have hheld : (hub.modifyStore i (EventStore.hold stream)).store i = (hub.store i).hold stream :=
    store_modifyStore hi
  have htells : ∀ {outcome outside},
      Tells handlers ((hub.modifyStore i (EventStore.hold stream)).modifyStore i fun _ =>
          ((hub.store i).hold stream).appended stamps aggregate stream events) i stream
        ((hub.store i).batch stamps aggregate stream events) outcome outside ↔
      Tells handlers hub i stream ((hub.store i).batch stamps aggregate stream events) outcome
          outside := by
    refine tells_congr ?_ rfl
    rw [modifyStore_modifyStore]
    exact subscriber?_modifyStore hi rfl i
  rw [append, hempty, if_neg Bool.false_ne_true, holding_iff]
  refine and_congr_right fun _ => ?_
  constructor
  · rintro ⟨hub₁, hends, rfl⟩
    rcases StreamM.ends_bind_iff.1 hends with ⟨batch, hub₂, hstore, hnotifies⟩ | ⟨_, hstore, _⟩
    · obtain ⟨hbatch, rfl⟩ := StreamM.ends_fiberStep_iff.1 hstore
      obtain rfl := Except.ok.inj hbatch
      obtain ⟨outcome, hnotify, rfl⟩ := StreamM.ends_bind_pure_iff.1 hnotifies
      obtain ⟨outside, htold, rfl⟩ := notify_iff.1 hnotify
      simp only [hheld] at htold ⊢
      exact ⟨outcome, outside, htells.1 htold, rfl,
        release_held hi outside EventStore.release_appended_hold⟩
    · cases (StreamM.ends_fiberStep_iff.1 hstore).1
  · rintro ⟨outcome, outside, htold, rfl, rfl⟩
    refine ⟨_, StreamM.ends_bind_iff.2 (Or.inl ⟨_, _, StreamM.ends_fiberStep_iff.2 ⟨rfl, rfl⟩,
      StreamM.ends_bind_pure_iff.2 ⟨outcome, notify_iff.2 ⟨outside, ?_, rfl⟩, ?_⟩⟩), ?_⟩
    · simp only [hheld]
      exact htells.2 htold
    · rw [hheld]
      rfl
    · simp only [hheld]
      exact (release_held
        (f := fun _ => ((hub.store i).hold stream).appended stamps aggregate stream events) hi
        outside EventStore.release_appended_hold).symm

/-- Delivering a stream again tells the subscriber of all of it, and leaves the stores as they
are. -/
theorem redeliver_iff {r : Except StreamFault Unit} (hi : i < hub.stores.length) :
    StreamM.Ends (redeliver handlers i stream) hub r hub' ↔
      (hub.store i).isFree stream = true ∧ ∃ outside, hub' = hub.leave outside ∧
        (((hub.store i).read stream = [] ∧ r = .ok () ∧ outside = hub.outside) ∨
          (hub.store i).read stream ≠ [] ∧
            Tells handlers hub i stream ((hub.store i).read stream) r outside) := by
  have hread : ((hub.modifyStore i (EventStore.hold stream)).store i).read stream =
      (hub.store i).read stream := by
    rw [store_modifyStore hi]
    rfl
  have hreleased :
      ∀ outside, ((hub.modifyStore i (EventStore.hold stream)).leave outside).modifyStore i
        (EventStore.release stream) = hub.leave outside := by
    intro outside
    rw [modifyStore_leave, modifyStore_modifyStore, modifyStore_congr
      (g := id) hi EventStore.release_hold, modifyStore, List.modify_id]
  have htells : ∀ {outcome outside},
      Tells handlers (hub.modifyStore i (EventStore.hold stream)) i stream
        ((hub.store i).read stream) outcome outside ↔ Tells handlers hub i stream
        ((hub.store i).read stream) outcome outside :=
    tells_congr (subscriber?_modifyStore hi rfl i) rfl
  rw [redeliver, holding_iff]
  refine and_congr_right fun _ => ?_
  constructor
  · rintro ⟨hub₁, hends, rfl⟩
    rcases StreamM.ends_bind_iff.1 hends with ⟨events, hub₂, hlook, hthen⟩ | ⟨_, hlook, _⟩
    · obtain ⟨hevents, rfl⟩ := StreamM.ends_look_iff.1 hlook
      obtain rfl := (Except.ok.inj hevents).trans hread
      split at hthen
      · rename_i hempty
        obtain ⟨rfl, rfl⟩ := StreamM.ends_pure_iff.1 hthen
        exact ⟨hub.outside, hreleased hub.outside, Or.inl ⟨List.isEmpty_iff.1 hempty, rfl, rfl⟩⟩
      · rename_i hempty
        obtain ⟨outside, htold, rfl⟩ := notify_iff.1 hthen
        exact ⟨outside, hreleased outside,
          Or.inr ⟨fun hnil => hempty (List.isEmpty_iff.2 hnil), htells.1 htold⟩⟩
    · cases (StreamM.ends_look_iff.1 hlook).1
  · rintro ⟨outside, rfl, hcase⟩
    refine ⟨_, StreamM.ends_bind_iff.2 (Or.inl ⟨_, _, StreamM.ends_look_iff.2 ⟨rfl, rfl⟩, ?_⟩),
      (hreleased outside).symm⟩
    rw [hread]
    rcases hcase with ⟨hnil, rfl, rfl⟩ | ⟨hne, htold⟩
    · rw [hnil, List.isEmpty_nil, if_pos rfl]
      exact StreamM.ends_pure_iff.2 ⟨rfl, rfl⟩
    · rw [List.isEmpty_eq_false_iff.2 hne, if_neg Bool.false_ne_true]
      exact notify_iff.2 ⟨outside, htells.2 htold, rfl⟩

end Hub

end TenantAuth
