import TenantAuth.Proofs.Stream.Discipline
import TenantAuth.Proofs.Stream.Storing
import Mathlib.Algebra.BigOperators.Group.Finset.Piecewise

/-!
A stream of a store in the custody of one course at a time.

Several courses append to the streams of a store and deliver them again. Each holds a stream while
it does so, and as long as it holds it, nobody else changes its events or gets on with its delivery.
It finds a stream with its delivery at rest, and may only let go of it when the delivery is at rest
again. So whoever delivers a stream may reason about the stream as if there were nobody else, and no
two courses wait for each other.
-/

namespace TenantAuth

/-- What a course knows of a stream it holds: its events, and how far its delivery got. -/
structure Grip (π : Type) where
  stream : String
  stored : List Event
  progress : π

/-- What a course has in its hand: a stream that it holds, the batches that it stored, and the
number of events that it has yet to append. -/
structure Hand (π : Type) where
  grip : Option (Grip π)
  banked : List (String × List Event)
  left : Nat

/-- The hand with another stream in it, or none. -/
def Hand.withGrip {π : Type} (hand : Hand π) (grip : Option (Grip π)) : Hand π := { hand with grip }

/-- How a store is used, and whom it tells of its streams. How far the delivery of each stream got
is all that is known of the world beyond. -/
structure Custody (κ π : Type) where
  store : Nat
  handler : HandlerId
  /-- How many events there can be in the store. -/
  total : Nat
  /-- What holds of the events of a stream. -/
  orderly : (stream : String) → List Event → Prop
  /-- How far the delivery of a stream with these events got when it is at rest. -/
  rest : (stream : String) → List Event → π
  /-- How far it may have got while somebody holds the stream. -/
  during : (stream : String) → List Event → π → Prop
  /-- What whoever is told of a stream keeps to. -/
  delivery : (stream : String) → Discipline κ π
  /-- How the world beyond the store is when deliveries got so far. -/
  world : (String → π) → κ → Prop
  /-- What telling the handler may come to. -/
  told : Except StreamFault Unit → Prop

namespace Custody

variable {κ π α : Type} {c : Custody κ π} {hand hand' : Hand π} {hub hub' : Hub κ} {grip : Grip π}
  {stream : String}

/-- What whoever is told of a stream with these events keeps to. -/
def telling (c : Custody κ π) (stream : String) (stored : List Event) : Discipline κ π where
  relies := (c.delivery stream).relies
  acts progress outside progress' outside' :=
    (c.delivery stream).acts progress outside progress' outside' ∧ c.during stream stored progress'
  waits := (c.delivery stream).waits

/-- What a course can rely on, holding a stream or not. -/
structure Relies (c : Custody κ π) (hand : Hand π) (hub : Hub κ) : Prop where
  store : c.store < hub.stores.length
  subscriber : hub.subscriber? c.store = some c.handler
  orderly : ∀ stream, c.orderly stream ((hub.store c.store).read stream)
  room : ∀ stream, ((hub.store c.store).read stream).length + hand.left ≤ c.total
  stored : ∀ grip, hand.grip = some grip → (hub.store c.store).read grip.stream = grip.stored
  progress :
    ∀ grip, hand.grip = some grip → (c.delivery grip.stream).relies grip.progress hub.outside

/-- What an action of a course may be. -/
inductive Move (c : Custody κ π) (hand : Hand π) (hub : Hub κ) : Hand π → Hub κ → Prop
  | look : Move c hand hub hand hub
  | take (stream : String) (hgrip : hand.grip = none)
    (hfree : (hub.store c.store).isFree stream = true) : Move c hand hub
      (hand.withGrip (some ⟨stream, (hub.store c.store).read stream,
        c.rest stream ((hub.store c.store).read stream)⟩))
      (hub.modifyStore c.store (EventStore.hold stream))
  | append (grip : Grip π) (stamps : EventStore.Stamps) (aggregate : String)
    (events : List PendingEvent) (left : Nat) (hgrip : hand.grip = some grip)
    (hrest : grip.progress = c.rest grip.stream grip.stored)
    (hleft : hand.left = events.length + left)
    (horderly : c.orderly grip.stream
      (grip.stored ++ (hub.store c.store).batch stamps aggregate grip.stream events)) :
    Move c hand hub
      { grip := some { grip with
          stored := grip.stored ++
            (hub.store c.store).batch stamps aggregate grip.stream events },
        banked :=
          (grip.stream, (hub.store c.store).batch stamps aggregate grip.stream events) ::
            hand.banked,
        left := left }
      (hub.modifyStore c.store fun _ => (hub.store c.store).appended stamps aggregate
        grip.stream events)
  | deliver (grip : Grip π) (progress : π) (outside : κ) (hgrip : hand.grip = some grip)
    (hacts : (c.telling grip.stream grip.stored).acts grip.progress hub.outside progress outside) :
    Move c hand hub (hand.withGrip (some { grip with progress })) (hub.leave outside)
  | release (grip : Grip π) (hgrip : hand.grip = some grip)
    (hrest : grip.progress = c.rest grip.stream grip.stored) :
    Move c hand hub (hand.withGrip none) (hub.modifyStore c.store (EventStore.release grip.stream))

/-- When a course may have to wait: for a stream, while somebody holds one, or for what the delivery
of the stream that it holds waits for. -/
def Waits (c : Custody κ π) (hand : Hand π) (hub : Hub κ) : Prop :=
  (hand.grip = none ∧ (hub.store c.store).held ≠ []) ∨
    ∃ grip, hand.grip = some grip ∧ (c.delivery grip.stream).waits grip.progress hub.outside

/-- What courses on the streams of a store agree on. -/
def discipline (c : Custody κ π) : Discipline (Hub κ) (Hand π) := ⟨c.Relies, c.Move, c.Waits⟩

/-- Whoever is told of the last events of a stream, the first of which it may know already, brings
the delivery of the stream to rest. -/
def Serves (c : Custody κ π) (handlers : Handlers κ) (stream : String)
    (earlier known fresh : List Event) : Prop :=
  c.orderly stream (earlier ++ known ++ fresh) → (earlier ++ known ++ fresh).length ≤ c.total →
    known ++ fresh ≠ [] →
      (handlers c.handler stream (known ++ fresh)).Keeps
        (c.telling stream (earlier ++ known ++ fresh))
        (fun r progress => c.told r ∧ progress = c.rest stream (earlier ++ known ++ fresh))
        (c.rest stream (earlier ++ known))

/-! ### What courses do -/

section Courses

variable {handlers : Handlers κ} {stamps : EventStore.Stamps} {aggregate : String}
  {events : List PendingEvent} {m : StreamM (Hub κ) α} {left : Nat}

/-- What is done while holding a stream, which has to bring its delivery to rest. -/
theorem keeps_holding {ends : Except StreamFault α → Hand π → Prop} (hgrip : hand.grip = none)
    (hm : ∀ stored, c.orderly stream stored → m.Keeps c.discipline
      (fun r hand' => ∃ stored', hand'.grip = some ⟨stream, stored', c.rest stream stored'⟩ ∧
        ends r (hand'.withGrip none))
      (hand.withGrip (some ⟨stream, stored, c.rest stream stored⟩))) :
    (Hub.holding c.store stream m).Keeps c.discipline ends hand := by
  refine StreamM.Keeps.bind
    (StreamM.keeps_await_iff.2 fun hub hrelies => ⟨fun hheld => ?_, fun hfree =>
    ⟨_, .take stream hgrip hfree, (), rfl, ?_⟩⟩)
  · refine Or.inl ⟨hgrip, fun hnone => ?_⟩
    rw [EventStore.isFree, hnone] at hheld
    cases hheld
  refine StreamM.Keeps.bind (StreamM.keeps_ofFiber_iff.2 ((hm _ (hrelies.orderly stream)).imp ?_))
  rintro outcome hand₁ ⟨stored, hheld, hends⟩
  refine ⟨outcome, rfl, StreamM.Keeps.bind (StreamM.keeps_change_iff.2 fun hub₁ _ => ?_)⟩
  exact ⟨_, .release _ hheld rfl, (), rfl, StreamM.keeps_liftExcept_iff.2 hends⟩

/-- What a handler does is done with the hand on its stream. -/
theorem within_outside {stored : List Event} {banked : List (String × List Event)} :
    (c.telling stream stored).Within c.discipline Hub.outside
      (fun outside hub => { hub with outside }) fun progress =>
      ⟨some ⟨stream, stored, progress⟩, banked, left⟩ where
  relies _ _ h := h.progress _ rfl
  acts progress _ progress' outside _ h :=
    .deliver ⟨stream, stored, progress⟩ progress' outside rfl h
  waits _ _ _ h := Or.inr ⟨_, rfl, h⟩

/-- Telling the handler of events of a stream that is held. -/
theorem keeps_notify {ends : Except StreamFault Unit → Hand π → Prop} {stored batch : List Event}
    {progress : π} {banked : List (String × List Event)}
    (hread : c.orderly stream stored → stored.length ≤ c.total →
      (handlers c.handler stream batch).Keeps (c.telling stream stored)
        (fun r progress' => ends r ⟨some ⟨stream, stored, progress'⟩, banked, left⟩) progress) :
    (Hub.notify handlers c.store stream batch).Keeps c.discipline ends
      ⟨some ⟨stream, stored, progress⟩, banked, left⟩ := by
  refine StreamM.Keeps.bind (StreamM.keeps_look_iff.2 fun hub hrelies => ⟨_, .look, _, rfl, ?_⟩)
  have hstored : (hub.store c.store).read stream = stored := hrelies.stored _ rfl
  have horderly := hrelies.orderly stream
  have hroom := hrelies.room stream
  rw [hstored] at horderly hroom
  rw [hrelies.subscriber]
  have htold := hread horderly (Nat.le_trans (Nat.le_add_right _ _) hroom)
  exact StreamM.Keeps.zoom
    (fun progress' => (⟨some ⟨stream, stored, progress'⟩, banked, left⟩ : Hand π))
    within_outside htold

/-- Appending stores the batch, and the delivery of the stream is at rest when it is let go of. -/
theorem keeps_append {ends : Except StreamFault (List Event) → Hand π → Prop}
    (hserves : ∀ stored batch, batch.map Event.pending = events →
      c.Serves handlers stream stored [] batch)
    (hgrip : hand.grip = none) (hleft : hand.left = events.length + left)
    (horderly : ∀ store : EventStore, c.orderly stream (store.read stream) →
      c.orderly stream (store.read stream ++ store.batch stamps aggregate stream events))
    (hnothing : events = [] → ends (.ok []) hand)
    (hbatch : events ≠ [] → ∀ outcome batch, c.told outcome → batch.map Event.pending = events →
      ends (outcome.map fun _ => batch) ⟨none, (stream, batch) :: hand.banked, left⟩) :
    (Hub.append handlers stamps c.store aggregate stream events).Keeps c.discipline ends hand := by
  by_cases hevents : events = []
  · subst hevents
    exact hnothing rfl
  rw [Hub.append, List.isEmpty_eq_false_iff.2 hevents, if_neg Bool.false_ne_true]
  refine keeps_holding hgrip fun stored _ => ?_
  refine StreamM.Keeps.bind (StreamM.keeps_fiberStep_iff.2 fun hub hrelies => ?_)
  have hstored : (hub.store c.store).read stream = stored := hrelies.stored _ rfl
  have hnext := horderly _ (hrelies.orderly stream)
  rw [hstored] at hnext
  refine ⟨_, Move.append ⟨stream, stored, c.rest stream stored⟩ stamps aggregate events left rfl rfl
    hleft hnext, _, rfl, ?_⟩
  have hpending :
      ((hub.store c.store).batch stamps aggregate stream events).map Event.pending = events :=
    EventStore.pending_batch
  have hsome : (hub.store c.store).batch stamps aggregate stream events ≠ [] := by
    intro hnil
    rw [hnil] at hpending
    exact hevents hpending.symm
  refine StreamM.keeps_bind_iff.2 (keeps_notify fun _ hroom => ?_)
  have hserved :=
    hserves stored _ hpending (by rwa [List.append_nil]) (by rwa [List.append_nil]) hsome
  simp only [List.nil_append, List.append_nil] at hserved
  refine hserved.imp ?_
  rintro (fault | _) progress ⟨htold, rfl⟩
  · exact ⟨_, rfl, hbatch hevents (.error fault) _ htold hpending⟩
  · exact ⟨_, rfl, hbatch hevents (.ok ()) _ htold hpending⟩

/-- Delivering a stream again. -/
theorem keeps_redeliver {ends : Except StreamFault Unit → Hand π → Prop}
    (hserves : ∀ stored, c.Serves handlers stream [] stored []) (hgrip : hand.grip = none)
    (hnothing : ends (.ok ()) hand) (hends : ∀ outcome, c.told outcome → ends outcome hand) :
    (Hub.redeliver handlers c.store stream).Keeps c.discipline ends hand := by
  obtain ⟨_, banked, left⟩ := hand
  obtain rfl := hgrip
  refine keeps_holding rfl fun stored horderly => ?_
  refine StreamM.Keeps.bind (StreamM.keeps_look_iff.2 fun hub hrelies => ⟨_, .look, _, rfl, ?_⟩)
  have hstored : (hub.store c.store).read stream = stored := hrelies.stored _ rfl
  rw [hstored]
  split
  · exact ⟨stored, rfl, hnothing⟩
  rename_i hsome
  refine keeps_notify fun _ hroom => ?_
  have hserved := hserves stored (by rwa [List.append_nil]) (by rwa [List.append_nil])
    (by rwa [List.append_nil, ne_eq, ← List.isEmpty_iff])
  simp only [List.nil_append, List.append_nil] at hserved
  refine hserved.imp ?_
  rintro outcome progress ⟨htold, rfl⟩
  exact ⟨stored, rfl, hends outcome htold⟩

end Courses

/-! ### What holds of all courses together -/

/-- The streams that are held are those that courses have in their hands, and no two have the
same. -/
structure Locked (count : Nat) (who : Nat → Option String) (held : List String) : Prop where
  nodup : held.Nodup
  owned : ∀ stream ∈ held, ∃ i < count, who i = some stream
  gripped : ∀ i stream, who i = some stream → stream ∈ held
  alone : ∀ i j stream, who i = some stream → who j = some stream → i = j

section Locked

variable {count i : Nat} {who : Nat → Option String} {held : List String}

theorem locked_nil : Locked count (fun _ => none) [] :=
  ⟨List.nodup_nil, fun _ h => absurd h List.not_mem_nil, nofun, nofun⟩

/-- When no course has a stream in its hand, none is held. -/
theorem Locked.held_eq_nil (h : Locked count who held) (hnone : ∀ i < count, who i = none) :
    held = [] := by
  refine List.eq_nil_iff_forall_not_mem.2 fun stream hstream => ?_
  obtain ⟨i, hi, hwho⟩ := h.owned stream hstream
  cases (hnone i hi).symm.trans hwho

theorem Locked.take (h : Locked count who held) (hi : i < count) (hnone : who i = none)
    (hfree : stream ∉ held) :
    Locked count (Function.update who i (some stream)) (stream :: held) := by
  have hothers : ∀ j, j ≠ i → who j ≠ some stream := fun j _ hj => hfree (h.gripped j stream hj)
  refine ⟨List.nodup_cons.2 ⟨hfree, h.nodup⟩, fun other hother => ?_, fun j other hj => ?_, ?_⟩
  · rcases List.mem_cons.1 hother with rfl | hheld
    · exact ⟨i, hi, Function.update_self ..⟩
    · obtain ⟨j, hlt, hj⟩ := h.owned other hheld
      have hji : j ≠ i := by
        rintro rfl
        cases hnone.symm.trans hj
      exact ⟨j, hlt, by rwa [Function.update_of_ne hji]⟩
  · by_cases hji : j = i
    · rw [hji, Function.update_self] at hj
      rw [Option.some.inj hj]
      exact List.mem_cons_self
    · rw [Function.update_of_ne hji] at hj
      exact List.mem_cons_of_mem _ (h.gripped j other hj)
  · intro j k other hj hk
    by_cases hji : j = i <;> by_cases hki : k = i
    · rw [hji, hki]
    · rw [hji, Function.update_self] at hj
      rw [Function.update_of_ne hki, ← hj] at hk
      exact absurd hk (hothers k hki)
    · rw [hki, Function.update_self] at hk
      rw [Function.update_of_ne hji, ← hk] at hj
      exact absurd hj (hothers j hji)
    · rw [Function.update_of_ne hji] at hj
      rw [Function.update_of_ne hki] at hk
      exact h.alone j k other hj hk

theorem Locked.release (h : Locked count who held) (hsome : who i = some stream) :
    Locked count (Function.update who i none) (held.erase stream) := by
  have hshrinks : ∀ j other,
      Function.update who i none j = some other → j ≠ i ∧ who j = some other := by
    intro j other hj
    by_cases hji : j = i
    · rw [hji, Function.update_self] at hj
      cases hj
    · rw [Function.update_of_ne hji] at hj
      exact ⟨hji, hj⟩
  refine ⟨h.nodup.erase stream, fun other hother => ?_, fun j other hj => ?_,
    fun j k other hj hk => ?_⟩
  · obtain ⟨hne, hheld⟩ := h.nodup.mem_erase_iff.1 hother
    obtain ⟨j, hlt, hj⟩ := h.owned other hheld
    have hji : j ≠ i := by
      rintro rfl
      exact hne (Option.some.inj (hj.symm.trans hsome))
    exact ⟨j, hlt, by rwa [Function.update_of_ne hji]⟩
  · obtain ⟨hji, hj⟩ := hshrinks j other hj
    refine h.nodup.mem_erase_iff.2 ⟨?_, h.gripped j other hj⟩
    rintro rfl
    exact hji (h.alone j i other hj hsome)
  · exact h.alone j k other (hshrinks j other hj).2 (hshrinks k other hk).2

end Locked

/-- What holds of the streams of a store, of what lies beyond, and of the hands of some courses. A
stream that nobody holds has its delivery at rest. -/
structure Kept (c : Custody κ π) (count : Nat) (hands : Nat → Hand π) (store : EventStore)
    (outside : κ) : Prop where
  orderly : ∀ stream, c.orderly stream (store.read stream)
  short : ∀ stream, (store.read stream).length ≤ store.count
  room : store.count + ∑ i ∈ Finset.range count, (hands i).left ≤ c.total
  banked : ∀ i, ∀ e ∈ (hands i).banked, e.2 <:+: store.read e.1
  locked : Locked count (fun i => (hands i).grip.map Grip.stream) store.held
  stored : ∀ i grip, (hands i).grip = some grip → store.read grip.stream = grip.stored
  during : ∀ i grip, (hands i).grip = some grip → c.during grip.stream grip.stored grip.progress
  tracked : ∃ progress : String → π, c.world progress outside ∧
    (∀ i grip, (hands i).grip = some grip → progress grip.stream = grip.progress) ∧
    ∀ stream, stream ∉ store.held → progress stream = c.rest stream (store.read stream)

/-- The world beyond a store is such that each stream can be delivered on its own. -/
structure Lawful (c : Custody κ π) : Prop where
  relies : ∀ progress outside, c.world progress outside →
    ∀ stream, (c.delivery stream).relies (progress stream) outside
  acts : ∀ progress outside, c.world progress outside → ∀ stream next outside',
    (c.delivery stream).acts (progress stream) outside next outside' →
      c.world (Function.update progress stream next) outside'
  /-- A delivery at rest may be behind the events that were stored meanwhile. -/
  during : ∀ stream stored batch, c.during stream (stored ++ batch) (c.rest stream stored)

section Kept

variable {count i : Nat} {hands : Nat → Hand π} {store : EventStore} {outside outside' : κ}

/-- When the stream in a hand changes, what does not depend on it stays as it is for all hands. -/
theorem same_of_withGrip {β : Type} {held : Option (Grip π)} (f : Hand π → β)
    (hf : ∀ hand held, f (hand.withGrip held) = f hand) (j : Nat) :
    f (Function.update hands i ((hands i).withGrip held) j) = f (hands j) := by
  by_cases hji : j = i
  · rw [hji, Function.update_self, hf]
  · rw [Function.update_of_ne hji]

/-- What a hand has yet to append is less by what it appends. -/
theorem sum_left_update {size left : Nat} (hi : i < count) (hleft : (hands i).left = size + left)
    (hhand : hand'.left = left) :
    size + ∑ j ∈ Finset.range count, (Function.update hands i hand' j).left =
      ∑ j ∈ Finset.range count, (hands j).left := by
  have hmem : i ∈ Finset.range count := Finset.mem_range.2 hi
  simp only [Function.apply_update (fun _ => Hand.left) hands i]
  rw [Finset.sum_update_of_mem hmem, Finset.sum_eq_add_sum_sdiff_singleton_of_mem hmem
    (fun j => (hands j).left), hleft, hhand, Nat.add_assoc]

/-- A grip after a change of one hand is that of the hand that changed, or of another. -/
theorem grip_update {j : Nat} {other : Grip π}
    (hj : (Function.update hands i hand' j).grip = some other) :
    hand'.grip = some other ∨ j ≠ i ∧ (hands j).grip = some other := by
  by_cases hji : j = i
  · rw [hji, Function.update_self] at hj
    exact Or.inl hj
  · rw [Function.update_of_ne hji] at hj
    exact Or.inr ⟨hji, hj⟩

theorem Kept.held (h : c.Kept count hands store outside) (hgrip : (hands i).grip = some grip) :
    grip.stream ∈ store.held := h.locked.gripped i grip.stream (by rw [hgrip, Option.map_some])

/-- A grip is that of the hand that changed, or of another course on another stream. -/
theorem Kept.grips (h : c.Kept count hands store outside) (hgrip : (hands i).grip = some grip)
    {j : Nat} {other : Grip π} (hj : (Function.update hands i hand' j).grip = some other) :
    hand'.grip = some other ∨ (hands j).grip = some other ∧ other.stream ≠ grip.stream := by
  refine (grip_update hj).imp id fun ⟨hji, hj⟩ => ⟨hj, fun hsame => hji ?_⟩
  refine h.locked.alone j i grip.stream ?_ ?_
  · rw [hj, Option.map_some, hsame]
  · rw [hgrip, Option.map_some]

/-- The streams in the hands of courses after a change of one hand. -/
theorem streams_update : (fun j => (Function.update hands i hand' j).grip.map Grip.stream) =
    Function.update (fun j => (hands j).grip.map Grip.stream) i (hand'.grip.map Grip.stream) :=
  funext fun j => Function.apply_update (fun _ hand => hand.grip.map Grip.stream) hands i hand' j

theorem streams_same (hgrip : (hands i).grip = some grip)
    (hsame : hand'.grip.map Grip.stream = some grip.stream) :
    (fun j => (Function.update hands i hand' j).grip.map Grip.stream) = fun j =>
      (hands j).grip.map Grip.stream := by
  rw [streams_update, hsame, ← Option.map_some, ← hgrip]
  exact Function.update_eq_self i _

theorem Kept.take (h : c.Kept count hands store outside) (hlawful : c.Lawful) (hi : i < count)
    (hgrip : (hands i).grip = none) (hfree : store.isFree stream = true) :
    c.Kept count (Function.update hands i
      ((hands i).withGrip (some ⟨stream, store.read stream, c.rest stream (store.read stream)⟩)))
      (store.hold stream) outside := by
  have hnone : (hands i).grip.map Grip.stream = none := by rw [hgrip, Option.map_none]
  have hnot : stream ∉ store.held := by
    intro hheld
    rw [EventStore.isFree, List.contains_iff_mem.2 hheld] at hfree
    cases hfree
  obtain ⟨progress, hworld, hgrips, hrest⟩ := h.tracked
  refine
    { orderly := h.orderly
      short := h.short
      room := ?room
      banked := fun j => ?banked
      locked := ?locked
      stored := fun j other hj => ?stored
      during := fun j other hj => ?during
      tracked := ⟨progress, hworld, fun j other hj => ?gripped, ?free⟩ }
  case room =>
    simp only [same_of_withGrip Hand.left fun _ _ => rfl]
    exact h.room
  case banked =>
    rw [same_of_withGrip Hand.banked fun _ _ => rfl]
    exact h.banked j
  case locked =>
    rw [streams_update]
    exact h.locked.take hi hnone hnot
  case stored =>
    rcases grip_update hj with hnew | ⟨_, hj⟩
    · obtain rfl := Option.some.inj hnew
      rfl
    · exact h.stored j other hj
  case during =>
    rcases grip_update hj with hnew | ⟨_, hj⟩
    · obtain rfl := Option.some.inj hnew
      have hduring := hlawful.during stream (store.read stream) []
      rwa [List.append_nil] at hduring
    · exact h.during j other hj
  case gripped =>
    rcases grip_update hj with hnew | ⟨_, hj⟩
    · obtain rfl := Option.some.inj hnew
      exact hrest stream hnot
    · exact hgrips j other hj
  case free =>
    exact fun other hother => hrest other fun hheld => hother (List.mem_cons_of_mem _ hheld)

theorem Kept.append {stamps : EventStore.Stamps} {aggregate : String} {events : List PendingEvent}
    {left : Nat} (h : c.Kept count hands store outside) (hlawful : c.Lawful) (hi : i < count)
    (hgrip : (hands i).grip = some grip) (hrest : grip.progress = c.rest grip.stream grip.stored)
    (hleft : (hands i).left = events.length + left)
    (horderly : c.orderly grip.stream
      (grip.stored ++ store.batch stamps aggregate grip.stream events)) :
    c.Kept count (Function.update hands i
      { grip := some { grip with
          stored := grip.stored ++ store.batch stamps aggregate grip.stream events },
        banked :=
          (grip.stream, store.batch stamps aggregate grip.stream events) :: (hands i).banked,
        left := left })
      (store.appended stamps aggregate grip.stream events) outside := by
  have hstored := h.stored i grip hgrip
  have hread : ∀ other, (store.appended stamps aggregate grip.stream events).read other =
      if other = grip.stream then grip.stored ++ store.batch stamps aggregate grip.stream events
      else store.read other := by
    intro other
    rw [EventStore.read_appended, hstored]
  obtain ⟨progress, hworld, hgrips, hfree⟩ := h.tracked
  refine
    { orderly := fun other => ?orderly
      short := fun other => ?short
      room := ?room
      banked := fun j e he => ?banked
      locked := ?locked
      stored := fun j other hj => ?stored
      during := fun j other hj => ?during
      tracked := ⟨progress, hworld, fun j other hj => ?gripped, fun other hother => ?free⟩ }
  case orderly =>
    rw [hread]
    split
    · rename_i hother
      rw [hother]
      exact horderly
    · exact h.orderly other
  case short =>
    have hshort := h.short other
    change _ ≤ store.count + events.length
    rw [hread]
    split
    · rename_i hother
      rw [hother, hstored] at hshort
      rw [List.length_append, EventStore.length_batch]
      omega
    · omega
  case room =>
    change store.count + events.length + _ ≤ _
    rw [Nat.add_assoc, sum_left_update hi hleft rfl]
    exact h.room
  case banked =>
    by_cases hji : j = i
    · rw [hji, Function.update_self] at he
      rcases List.mem_cons.1 he with rfl | he
      · rw [hread, if_pos rfl]
        exact (List.suffix_append _ _).isInfix
      · exact (h.banked i e he).trans EventStore.prefix_read_appended.isInfix
    · rw [Function.update_of_ne hji] at he
      exact (h.banked j e he).trans EventStore.prefix_read_appended.isInfix
  case locked =>
    rw [streams_same hgrip rfl]
    exact h.locked
  case stored =>
    rcases h.grips hgrip hj with hnew | ⟨hother, hne⟩
    · obtain rfl := Option.some.inj hnew
      rw [hread, if_pos rfl]
    · rw [hread, if_neg hne]
      exact h.stored j other hother
  case during =>
    rcases h.grips hgrip hj with hnew | ⟨hother, _⟩
    · obtain rfl := Option.some.inj hnew
      exact (congrArg (c.during _ _) hrest).mpr (hlawful.during _ _ _)
    · exact h.during j other hother
  case gripped =>
    rcases h.grips hgrip hj with hnew | ⟨hother, _⟩
    · obtain rfl := Option.some.inj hnew
      exact hgrips i grip hgrip
    · exact hgrips j other hother
  case free =>
    have hne : other ≠ grip.stream := by
      rintro rfl
      exact hother (h.held hgrip)
    rw [hread, if_neg hne]
    exact hfree other hother

theorem Kept.deliver {next : π} (h : c.Kept count hands store outside) (hlawful : c.Lawful)
    (hgrip : (hands i).grip = some grip)
    (hacts : (c.telling grip.stream grip.stored).acts grip.progress outside next outside') :
    c.Kept count
      (Function.update hands i ((hands i).withGrip (some { grip with progress := next }))) store
      outside' := by
  obtain ⟨hacts, hduring⟩ := hacts
  obtain ⟨progress, hworld, hgrips, hrest⟩ := h.tracked
  rw [← hgrips i grip hgrip] at hacts
  refine
    { orderly := h.orderly
      short := h.short
      room := ?room
      banked := fun j => ?banked
      locked := ?locked
      stored := fun j other hj => ?stored
      during := fun j other hj => ?during
      tracked := ⟨_, hlawful.acts progress outside hworld _ _ _ hacts, fun j other hj => ?gripped,
        fun other hother => ?free⟩ }
  case room =>
    simp only [same_of_withGrip Hand.left fun _ _ => rfl]
    exact h.room
  case banked =>
    rw [same_of_withGrip Hand.banked fun _ _ => rfl]
    exact h.banked j
  case locked =>
    rw [streams_same hgrip rfl]
    exact h.locked
  case stored =>
    rcases h.grips hgrip hj with hnew | ⟨hother, _⟩
    · obtain rfl := Option.some.inj hnew
      exact h.stored i grip hgrip
    · exact h.stored j other hother
  case during =>
    rcases h.grips hgrip hj with hnew | ⟨hother, _⟩
    · obtain rfl := Option.some.inj hnew
      exact hduring
    · exact h.during j other hother
  case gripped =>
    rcases h.grips hgrip hj with hnew | ⟨hother, hne⟩
    · obtain rfl := Option.some.inj hnew
      exact Function.update_self ..
    · rw [Function.update_of_ne hne]
      exact hgrips j other hother
  case free =>
    have hne : other ≠ grip.stream := by
      rintro rfl
      exact hother (h.held hgrip)
    rw [Function.update_of_ne hne]
    exact hrest other hother

theorem Kept.release (h : c.Kept count hands store outside) (hgrip : (hands i).grip = some grip)
    (hrest : grip.progress = c.rest grip.stream grip.stored) :
    c.Kept count (Function.update hands i ((hands i).withGrip none)) (store.release grip.stream)
      outside := by
  obtain ⟨progress, hworld, hgrips, hfree⟩ := h.tracked
  refine
    { orderly := h.orderly
      short := h.short
      room := ?room
      banked := fun j => ?banked
      locked := ?locked
      stored := fun j other hj => ?stored
      during := fun j other hj => ?during
      tracked := ⟨progress, hworld, fun j other hj => ?gripped, fun other hother => ?free⟩ }
  case room =>
    simp only [same_of_withGrip Hand.left fun _ _ => rfl]
    exact h.room
  case banked =>
    rw [same_of_withGrip Hand.banked fun _ _ => rfl]
    exact h.banked j
  case locked =>
    rw [streams_update]
    exact h.locked.release (by rw [hgrip, Option.map_some])
  case stored =>
    rcases h.grips hgrip hj with hnew | ⟨hother, _⟩
    · cases hnew
    · exact h.stored j other hother
  case during =>
    rcases h.grips hgrip hj with hnew | ⟨hother, _⟩
    · cases hnew
    · exact h.during j other hother
  case gripped =>
    rcases h.grips hgrip hj with hnew | ⟨hother, _⟩
    · cases hnew
    · exact hgrips j other hother
  case free =>
    by_cases hsame : other = grip.stream
    · rw [hsame, hgrips i grip hgrip, hrest]
      exact congrArg (c.rest grip.stream) (h.stored i grip hgrip).symm
    · exact hfree other fun hheld => hother (h.locked.nodup.mem_erase_iff.2 ⟨hsame, hheld⟩)

/-- How far the delivery of each stream got, whether somebody holds it or not. -/
theorem Kept.reached (h : c.Kept count hands store outside) (hlawful : c.Lawful) :
    ∃ progress : String → π,
      c.world progress outside ∧ (∀ stream, c.during stream (store.read stream) (progress stream)) ∧
      ∀ stream, stream ∉ store.held → progress stream = c.rest stream (store.read stream) := by
  obtain ⟨progress, hworld, hgrips, hrest⟩ := h.tracked
  refine ⟨progress, hworld, fun stream => ?_, hrest⟩
  by_cases hheld : stream ∈ store.held
  · obtain ⟨i, _, hwho⟩ := h.locked.owned stream hheld
    obtain ⟨grip, hgrip, rfl⟩ := Option.map_eq_some_iff.1 hwho
    rw [hgrips i grip hgrip, h.stored i grip hgrip]
    exact h.during i grip hgrip
  · have hduring := hlawful.during stream (store.read stream) []
    rw [List.append_nil] at hduring
    rwa [hrest stream hheld]

end Kept

/-- What holds of the store and its subscriber, of the world beyond, and of the hands of some
courses. -/
structure Holds (c : Custody κ π) (count : Nat) (hands : Nat → Hand π) (hub : Hub κ) : Prop where
  store : c.store < hub.stores.length
  subscriber : hub.subscriber? c.store = some c.handler
  kept : c.Kept count hands (hub.store c.store) hub.outside

section Holds

variable {count : Nat} {hands : Nat → Hand π}

theorem Holds.relies (h : c.Holds count hands hub) (hlawful : c.Lawful) {i : Nat} (hi : i < count) :
    c.Relies (hands i) hub := by
  obtain ⟨progress, hworld, hgrips, _⟩ := h.kept.tracked
  refine ⟨h.store, h.subscriber, h.kept.orderly, fun stream => ?_, h.kept.stored i,
    fun grip hgrip => ?_⟩
  · have hleft : (hands i).left ≤ ∑ j ∈ Finset.range count, (hands j).left :=
      Finset.single_le_sum (f := fun j => (hands j).left) (fun _ _ => Nat.zero_le _)
        (Finset.mem_range.2 hi)
    have hshort := h.kept.short stream
    have hroom := h.kept.room
    omega
  · rw [← hgrips i grip hgrip]
    exact hlawful.relies progress hub.outside hworld grip.stream

/-- A change of the store that leaves its subscriber as it is. -/
theorem Holds.modify {hands' : Nat → Hand π} {f : EventStore → EventStore}
    (h : c.Holds count hands hub)
    (hsubscriber : (f (hub.store c.store)).subscriber = (hub.store c.store).subscriber)
    (hkept : c.Kept count hands' (f (hub.store c.store)) hub.outside) :
    c.Holds count hands' (hub.modifyStore c.store f) := by
  refine ⟨?_, ?_, ?_⟩
  · rw [Hub.modifyStore, List.length_modify]
    exact h.store
  · rw [Hub.subscriber?_modifyStore h.store hsubscriber c.store]
    exact h.subscriber
  · rw [Hub.store_modifyStore h.store]
    exact hkept

/-- Whatever a course does, what holds of all courses is preserved. -/
theorem Holds.move (h : c.Holds count hands hub) (hlawful : c.Lawful) {i : Nat} (hi : i < count)
    (hmove : c.Move (hands i) hub hand' hub') :
    c.Holds count (Function.update hands i hand') hub' := by
  cases hmove with
  | look =>
    rw [Function.update_eq_self]
    exact h
  | take stream hgrip hfree => exact h.modify rfl (h.kept.take hlawful hi hgrip hfree)
  | append grip stamps aggregate events left hgrip hrest hleft horderly =>
    exact h.modify rfl (h.kept.append hlawful hi hgrip hrest hleft horderly)
  | deliver grip progress outside hgrip hacts =>
    exact ⟨h.store, h.subscriber, h.kept.deliver hlawful hgrip hacts⟩
  | release grip hgrip hrest => exact h.modify rfl (h.kept.release hgrip hrest)

theorem preserves (hlawful : c.Lawful) : c.discipline.Preserves count (c.Holds count) where
  relies _ _ h _ hi := h.relies hlawful hi
  acts _ _ h _ hi _ _ hmove := h.move hlawful hi hmove

/-- When no delivery has to wait, courses do not wait for each other for ever: if each has let go of
its stream or waits, then nobody waits. -/
theorem Holds.nobody_waits (h : c.Holds count hands hub)
    (hprompt : ∀ stream progress outside, ¬ (c.delivery stream).waits progress outside)
    (hstuck : ∀ i < count, (hands i).grip = none ∨ c.Waits (hands i) hub) :
    ∀ i < count, ¬ c.Waits (hands i) hub := by
  have hgrip : ∀ i < count, (hands i).grip = none := by
    intro i hi
    rcases hstuck i hi with hnone | ⟨hnone, _⟩ | ⟨grip, _, hwaits⟩
    · exact hnone
    · exact hnone
    · exact absurd hwaits (hprompt _ _ _)
  have hheld : (hub.store c.store).held = [] :=
    h.kept.locked.held_eq_nil fun i hi => Option.map_eq_none_iff.2 (hgrip i hi)
  rintro i hi (⟨_, hsome⟩ | ⟨grip, hgrips, _⟩)
  · exact hsome hheld
  · cases (hgrip i hi).symm.trans hgrips

end Holds

end Custody

end TenantAuth
