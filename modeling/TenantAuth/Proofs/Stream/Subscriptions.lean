import Mathlib.Data.List.Nodup
import TenantAuth.Proofs.Stream.Storing

/-!
Several relays over the same stores.

A store has one subscriber. Starting a relay puts it in the place of whoever is subscribed to its
stores, and stopping one leaves all its stores without subscriber, even those that another relay has
taken over since. So a relay is subscribed to a store from its start until any relay over that store
is started or stopped, or until it is dropped.
-/

namespace TenantAuth

variable {κ : Type}

namespace Hub

variable {hub : Hub κ} {i : Nat}

/-- Stores that get a subscriber have it if someone refers to it. -/
theorem subscriber?_assign {subscriber : Option HandlerId} {numbers : List Nat}
    (hi : i < hub.stores.length) : (hub.assign subscriber numbers).subscriber? i =
      if i ∈ numbers then subscriber.filter fun handler =>
      hub.alive.contains handler else hub.subscriber? i := by
  rw [subscriber?, store_assign _ _ _ hi, alive_assign]
  split <;> rfl

/-- A handler that is dropped is no subscriber any more. -/
theorem subscriber?_drop {handler : HandlerId} :
    (hub.drop handler).subscriber? i = (hub.subscriber? i).filter fun other => other ≠ handler := by
  rw [subscriber?, subscriber?, Option.filter_filter]
  refine congrArg (Option.filter · (hub.store i).subscriber) (funext fun other => ?_)
  rw [Bool.eq_iff_iff]
  simp [drop]

end Hub

namespace Relay

/-- The relay as it is while it is not started. -/
def idle (relay : Relay) : Relay := { relay with isStarted := false }

/-- What can be done with a relay. -/
inductive Act
  | start
  | stop
  | drop
  deriving DecidableEq

/-- Do something with a relay. -/
def act (relay : Relay) (hub : Hub κ) : Act → Relay × Hub κ
  | .start => relay.start hub
  | .stop => relay.stop hub
  | .drop => (relay, hub.drop relay.handler)

/-- Whether it has an effect to do something with a relay. -/
def takes (relay : Relay) : Act → Bool
  | .start => !relay.isStarted
  | .stop => relay.isStarted
  | .drop => true

variable {relay : Relay} {hub : Hub κ}

theorem act_of_not_takes {act : Act} (h : relay.takes act = false) :
    relay.act hub act = (relay, hub) := by
  cases act with
  | start => exact if_pos (Bool.not_eq_false' .. ▸ h)
  | stop => exact if_neg (Bool.not_eq_true _ ▸ h)
  | drop => cases h

theorem act_start (h : relay.takes .start = true) :
    relay.act hub .start =
      ({ relay with isStarted := true }, hub.assign (some relay.handler) relay.stores) :=
  if_neg (Bool.not_eq_true _ ▸ Bool.not_eq_true' _ ▸ h)

theorem act_stop (h : relay.takes .stop = true) :
    relay.act hub .stop = ({ relay with isStarted := false }, hub.assign none relay.stores) :=
  if_pos h

end Relay

/-- Relays, which go by their numbers, and the stores that they are over. -/
structure Family (κ : Type) where
  relays : List Relay
  hub : Hub κ

namespace Family

/-- What is done with one of the relays. -/
structure Move where
  act : Relay.Act
  relay : Nat
  deriving DecidableEq

/-- The relay of a number, while someone refers to it. -/
def live? (f : Family κ) (r : Nat) : Option Relay :=
  f.relays[r]?.filter fun relay => f.hub.alive.contains relay.handler

/-- The family after a move. Nothing can be done with a relay that nobody refers to. -/
def move (f : Family κ) (m : Move) : Family κ :=
  match f.live? m.relay with
  | some relay => ⟨f.relays.set m.relay (relay.act f.hub m.act).1, (relay.act f.hub m.act).2⟩
  | none => f

/-- Whether a move has an effect. -/
def takes (f : Family κ) (m : Move) : Bool := (f.live? m.relay).any fun relay => relay.takes m.act

/-- Moves one after the other: those that have an effect, and the family after them. -/
def run : List Move → Family κ → List Move × Family κ
  | [], f => ([], f)
  | m :: rest, f =>
    ((if f.takes m then [m] else []) ++ (run rest (f.move m)).1, (run rest (f.move m)).2)

/-- Relays that are not the same, of which none is started, over stores without subscriber. -/
structure Fresh (f : Family κ) : Prop where
  distinct : (f.relays.map Relay.handler).Nodup
  idle : ∀ relay ∈ f.relays, relay.isStarted = false
  unsubscribed : ∀ i < f.hub.stores.length, f.hub.subscriber? i = none

/-! ### The last to subscribe -/

/-- A relay is over a store. -/
def Over (relays : List Relay) (i r : Nat) : Prop :=
    ∃ relay, relays[r]? = some relay ∧ i ∈ relay.stores

/-- A move leaves the subscription of a relay to a store alone. -/
def Spares (relays : List Relay) (i r : Nat) (m : Move) : Prop :=
  match m.act with
  | .start => ¬ Over relays i m.relay
  | .stop => ¬ Over relays i m.relay
  | .drop => m.relay ≠ r

/-- Of the moves that had an effect, the start of a relay subscribed it to a store, and no later one
ended that. -/
def Subscribed (relays : List Relay) (i : Nat) (taken : List Move) (r : Nat) : Prop :=
  Over relays i r ∧ ∃ before after, taken = before ++ ⟨.start, r⟩ :: after ∧ ∀ m ∈ after,
    Spares relays i r m

variable {f : Family κ} {relays : List Relay} {taken : List Move} {i r count : Nat} {m : Move}

theorem not_subscribed_nil : ¬ Subscribed relays i [] r := by
  rintro ⟨_, before, after, hnil, _⟩
  exact List.append_ne_nil_of_right_ne_nil before (List.cons_ne_nil _ after) hnil.symm

theorem subscribed_concat : Subscribed relays i (taken ++ [m]) r ↔
    (Over relays i r ∧ m = ⟨.start, r⟩) ∨ Subscribed relays i taken r ∧ Spares relays i r m := by
  constructor
  · rintro ⟨hover, before, after, hsplit, hspares⟩
    rcases List.eq_nil_or_concat after with rfl | ⟨after, last, rfl⟩
    · exact Or.inl ⟨hover, (List.cons.inj (List.append_inj_right' hsplit rfl)).1⟩
    · rw [List.concat_eq_append] at hsplit hspares
      obtain ⟨hafter, hlast⟩ := List.forall_mem_append.1 hspares
      rw [← List.cons_append, ← List.append_assoc] at hsplit
      obtain ⟨rfl, hm⟩ := List.append_inj' hsplit rfl
      obtain rfl := (List.cons.inj hm).1
      exact Or.inr ⟨⟨hover, before, after, rfl, hafter⟩, hlast m List.mem_cons_self⟩
  · rintro (⟨hover, rfl⟩ | ⟨⟨hover, before, after, rfl, hspares⟩, hspared⟩)
    · exact ⟨hover, taken, [], rfl, nofun⟩
    · refine ⟨hover, before, after ++ [m], by rw [List.append_assoc, List.cons_append], ?_⟩
      exact List.forall_mem_append.2 ⟨hspares, List.forall_mem_singleton.2 hspared⟩

/-! ### What a move does -/

/-- A family in which some moves had an effect: each store is subscribed by the relay that was
subscribed last. -/
structure Tracked (relays : List Relay) (count : Nat) (taken : List Move)
    (f : Family κ) : Prop where
  same : f.relays.map Relay.idle = relays
  stores : f.hub.stores.length = count
  known : ∀ i < count, ∀ handler, f.hub.subscriber? i = some handler → ∃ relay ∈ relays,
    relay.handler = handler
  subscribed : ∀ i < count, ∀ r relay, relays[r]? = some relay →
    (f.hub.subscriber? i = some relay.handler ↔ Subscribed relays i taken r)

theorem Fresh.tracked (h : f.Fresh) : Tracked f.relays f.hub.stores.length [] f where
  same := by
    refine (List.map_congr_left fun relay hrelay => ?_).trans (List.map_id _)
    rw [Relay.idle, ← h.idle relay hrelay]
    rfl
  stores := rfl
  known i hi handler hsubscriber := by
    rw [h.unsubscribed i hi] at hsubscriber
    cases hsubscriber
  subscribed i hi r relay _ := by
    rw [h.unsubscribed i hi]
    exact iff_of_false nofun not_subscribed_nil

theorem eq_of_handler (hdistinct : (relays.map Relay.handler).Nodup) {s : Nat} {relay other : Relay}
    (hr : relays[r]? = some relay) (hs : relays[s]? = some other) :
    relay.handler = other.handler ↔ r = s := by
  have hlt : r < (relays.map Relay.handler).length := by
    rw [List.length_map]
    exact (List.getElem?_eq_some_iff.1 hr).1
  rw [← List.getElem?_inj hlt hdistinct, List.getElem?_map, List.getElem?_map, hr, hs]
  exact Option.some_inj.symm

section Tracked

variable {relay : Relay}

theorem Tracked.getElem? (h : Tracked relays count taken f) (hr : f.relays[r]? = some relay) :
    relays[r]? = some relay.idle := by
  rw [← h.same, List.getElem?_map, hr]
  rfl

/-- Starting or stopping a relay does not make another of it. -/
theorem Tracked.set (h : Tracked relays count taken f) (hr : f.relays[r]? = some relay)
    {turned : Relay} (hturned : turned.idle = relay.idle) :
    (f.relays.set r turned).map Relay.idle = relays := by
  rw [List.map_set, hturned, ← h.same]
  have hget : (f.relays.map Relay.idle)[r]? = some relay.idle := by
    rw [List.getElem?_map, hr]
    rfl
  obtain ⟨hlt, hsame⟩ := List.getElem?_eq_some_iff.1 hget
  rw [← hsame, List.set_getElem_self]

theorem over_iff (hr : relays[r]? = some relay) : Over relays i r ↔ i ∈ relay.stores := by
  rw [Over, hr]
  simp

/-- Starting or stopping a relay has nothing to do with a store that it is not over. -/
theorem subscribed_elsewhere {act : Relay.Act} {s : Nat} (hact : act ≠ .drop)
    (hover : ¬ Over relays i r) :
    Subscribed relays i (taken ++ [⟨act, r⟩]) s ↔ Subscribed relays i taken s := by
  have hspares : Spares relays i s ⟨act, r⟩ := by
    cases act with
    | start => exact hover
    | stop => exact hover
    | drop => exact absurd rfl hact
  rw [subscribed_concat, Move.mk.injEq]
  refine ⟨?_, fun hsubscribed => Or.inr ⟨hsubscribed, hspares⟩⟩
  rintro (⟨hstore, _, rfl⟩ | ⟨hsubscribed, _⟩)
  · exact absurd hstore hover
  · exact hsubscribed

/-- A relay that is started or stopped leaves one subscriber in all its stores, itself or none. -/
theorem Tracked.assigned {turned : Relay} {subscriber : Option HandlerId} {act : Relay.Act}
    (h : Tracked relays count taken f) (hr : f.relays[r]? = some relay)
    (hturned : turned.idle = relay.idle) (hact : act ≠ .drop)
    (hitself : ∀ handler, subscriber = some handler →
      handler = relay.handler ∧ f.hub.alive.contains handler = true)
    (hover : ∀ i, Over relays i r → ∀ s other, relays[s]? = some other →
      (subscriber = some other.handler ↔ Subscribed relays i (taken ++ [⟨act, r⟩]) s)) :
    Tracked relays count (taken ++ [⟨act, r⟩])
      ⟨f.relays.set r turned, f.hub.assign subscriber relay.stores⟩ := by
  have hrelay := h.getElem? hr
  have hlive : (subscriber.filter fun handler => f.hub.alive.contains handler) = subscriber := by
    cases subscriber with
    | none => rfl
    | some handler => exact Option.filter_some_pos (hitself handler rfl).2
  have hsubscriber : ∀ i < count, (f.hub.assign subscriber relay.stores).subscriber? i =
      if i ∈ relay.stores then subscriber else f.hub.subscriber? i := by
    intro i hi
    rw [Hub.subscriber?_assign (h.stores.symm ▸ hi), hlive]
  refine
    { same := h.set hr hturned
      stores := (Hub.length_assign ..).trans h.stores
      known := fun i hi handler hsome => ?known
      subscribed := fun i hi s other hs => ?subscribed }
  case known =>
    rw [hsubscriber i hi] at hsome
    split at hsome
    · exact ⟨_, List.mem_of_getElem? hrelay, (hitself handler hsome).1.symm⟩
    · exact h.known i hi handler hsome
  case subscribed =>
    rw [hsubscriber i hi]
    split
    · rename_i hstore
      exact hover i ((over_iff hrelay).2 hstore) s other hs
    · rename_i hstore
      rw [h.subscribed i hi s other hs, subscribed_elsewhere hact (mt (over_iff hrelay).1 hstore)]

/-- A relay that is started takes over all its stores. -/
theorem Tracked.started (h : Tracked relays count taken f)
    (hdistinct : (relays.map Relay.handler).Nodup) (hr : f.relays[r]? = some relay)
    (halive : f.hub.alive.contains relay.handler = true) :
    Tracked relays count (taken ++ [⟨.start, r⟩])
      ⟨f.relays.set r { relay with isStarted := true }, f.hub.assign (some relay.handler)
        relay.stores⟩ := by
  refine h.assigned hr rfl nofun ?_ fun i hover s other hs => ?_
  · rintro _ ⟨⟩
    exact ⟨rfl, halive⟩
  · have hother : relay.handler = other.handler ↔ r = s :=
      (eq_of_handler hdistinct (h.getElem? hr) hs :)
    rw [Option.some_inj, hother, subscribed_concat, Move.mk.injEq]
    constructor
    · rintro rfl
      exact Or.inl ⟨hover, rfl, rfl⟩
    · rintro (⟨_, _, rfl⟩ | ⟨_, hspares⟩)
      · rfl
      · exact absurd hover hspares

/-- A relay that is stopped leaves all its stores without subscriber. -/
theorem Tracked.stopped (h : Tracked relays count taken f) (hr : f.relays[r]? = some relay) :
    Tracked relays count (taken ++ [⟨.stop, r⟩])
      ⟨f.relays.set r { relay with isStarted := false }, f.hub.assign none relay.stores⟩ := by
  refine h.assigned hr rfl nofun nofun fun i hover s other _ => ?_
  rw [subscribed_concat, Move.mk.injEq]
  refine iff_of_false nofun ?_
  rintro (⟨_, ⟨⟩, _⟩ | ⟨_, hspares⟩)
  exact hspares hover

/-- A relay that is dropped ends its own subscriptions, and no others. -/
theorem Tracked.dropped (h : Tracked relays count taken f)
    (hdistinct : (relays.map Relay.handler).Nodup) (hr : f.relays[r]? = some relay) :
    Tracked relays count (taken ++ [⟨.drop, r⟩])
      ⟨f.relays.set r relay, f.hub.drop relay.handler⟩ := by
  refine
    { same := h.set hr rfl
      stores := h.stores
      known := fun i hi handler hsome => ?known
      subscribed := fun i hi s other hs => ?subscribed }
  case known =>
    rw [Hub.subscriber?_drop] at hsome
    exact h.known i hi handler (Option.filter_eq_some_iff.1 hsome).1
  case subscribed =>
    have hother : relay.handler = other.handler ↔ r = s :=
      (eq_of_handler hdistinct (h.getElem? hr) hs :)
    rw [Hub.subscriber?_drop, Option.filter_eq_some_iff, h.subscribed i hi s other hs,
      subscribed_concat, decide_eq_true_iff, ne_comm, Ne, hother, Move.mk.injEq]
    refine ⟨Or.inr, ?_⟩
    rintro (⟨_, ⟨⟩, _⟩ | hboth)
    exact hboth

end Tracked

/-- A move without effect changes nothing, and one with an effect is tracked. -/
theorem Tracked.move (h : Tracked relays count taken f)
    (hdistinct : (relays.map Relay.handler).Nodup) (m : Move) :
    Tracked relays count (taken ++ if f.takes m then [m] else []) (f.move m) := by
  rw [takes, Family.move]
  cases hlive : f.live? m.relay with
  | none => rwa [Option.any_none, if_neg Bool.false_ne_true, List.append_nil]
  | some relay =>
    obtain ⟨hr, halive⟩ := Option.filter_eq_some_iff.1 hlive
    rw [Option.any_some]
    cases htakes : relay.takes m.act with
    | false =>
      obtain ⟨hlt, rfl⟩ := List.getElem?_eq_some_iff.1 hr
      simp only [Relay.act_of_not_takes htakes, List.set_getElem_self]
      rwa [if_neg Bool.false_ne_true, List.append_nil]
    | true =>
      obtain ⟨act, r⟩ := m
      rw [if_pos rfl]
      cases act with
      | start =>
        simp only [Relay.act_start htakes]
        exact h.started hdistinct hr halive
      | stop =>
        simp only [Relay.act_stop htakes]
        exact h.stopped hr
      | drop => exact h.dropped hdistinct hr

theorem Tracked.run (h : Tracked relays count taken f)
    (hdistinct : (relays.map Relay.handler).Nodup) (moves : List Move) :
    Tracked relays count (taken ++ (Family.run moves f).1) (Family.run moves f).2 := by
  induction moves generalizing f taken with
  | nil => rwa [Family.run, List.append_nil]
  | cons m rest ih =>
    have hrest := ih (h.move hdistinct m)
    rwa [List.append_assoc] at hrest

/-- Whatever is done with relays, a relay is subscribed to a store exactly if it was started over
it, was not dropped since, and no relay over that store was started or stopped since, be it this one
or another. -/
theorem subscribed_until_any_stops (hfresh : f.Fresh) (moves : List Move) (i : Nat)
    (hi : i < f.hub.stores.length) :
    (∀ handler, (Family.run moves f).2.hub.subscriber? i = some handler →
      ∃ relay ∈ f.relays, relay.handler = handler) ∧
    ∀ r relay, f.relays[r]? = some relay →
      ((Family.run moves f).2.hub.subscriber? i = some relay.handler ↔
        Subscribed f.relays i (Family.run moves f).1 r) := by
  have htracked :
      Tracked f.relays f.hub.stores.length (Family.run moves f).1 (Family.run moves f).2 :=
    hfresh.tracked.run hfresh.distinct moves
  exact ⟨htracked.known i hi, htracked.subscribed i hi⟩

/-- Two relays, the second of which is over one of the stores of the first. -/
def sample : Family Unit :=
  ⟨[⟨⟨0⟩, [0, 1], false⟩, ⟨⟨1⟩, [1], false⟩], ⟨[.empty, .empty], [⟨0⟩, ⟨1⟩], ()⟩⟩

/-- The second relay has taken over its store and stays started. Stopping the first one ends this,
dropping it does not. -/
theorem subscribed_until_any_stops_sample :
    (Family.run [⟨.start, 0⟩, ⟨.start, 1⟩, ⟨.stop, 0⟩] sample).2.hub.subscriber? 1 = none ∧
      (Family.run [⟨.start, 0⟩, ⟨.start, 1⟩, ⟨.stop, 0⟩] sample).2.live? 1 = some ⟨⟨1⟩, [1], true⟩ ∧
      ¬ Subscribed sample.relays 1 [⟨.start, 0⟩, ⟨.start, 1⟩, ⟨.stop, 0⟩] 1 ∧
      (Family.run [⟨.start, 0⟩, ⟨.start, 1⟩, ⟨.drop, 0⟩] sample).2.hub.subscriber? 1 = some ⟨1⟩ ∧
      Subscribed sample.relays 1 [⟨.start, 0⟩, ⟨.start, 1⟩, ⟨.drop, 0⟩] 1 := by
  have hfresh : sample.Fresh := ⟨by decide, by decide, by decide⟩
  have hstopped : (Family.run [⟨.start, 0⟩, ⟨.start, 1⟩, ⟨.stop, 0⟩] sample).2.hub.subscriber? 1 =
    none := by decide
  have hdropped : (Family.run [⟨.start, 0⟩, ⟨.start, 1⟩, ⟨.drop, 0⟩] sample).2.hub.subscriber? 1 =
      some ⟨1⟩ := by
    decide
  have hafterStop :=
    (subscribed_until_any_stops hfresh [⟨.start, 0⟩, ⟨.start, 1⟩, ⟨.stop, 0⟩] 1
      (by decide)).2 1 _ rfl
  have hafterDrop :=
    (subscribed_until_any_stops hfresh [⟨.start, 0⟩, ⟨.start, 1⟩, ⟨.drop, 0⟩] 1
      (by decide)).2 1 _ rfl
  refine ⟨hstopped, by decide, fun hsubscribed => ?_, hdropped, hafterDrop.1 hdropped⟩
  have hsome := hafterStop.2 hsubscribed
  rw [hstopped] at hsome
  cases hsome

end Family

end TenantAuth
