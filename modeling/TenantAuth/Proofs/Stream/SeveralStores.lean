import TenantAuth.Proofs.Stream.ExactlyOnce
import TenantAuth.Proofs.Stream.ReadOnce

/-!
One relay over several stores.

A relay keeps one checkpoint for all streams of a name, in whatever store they are. Batches are
appended to the stores one after the other. Each append is answered with its batch, but an event is
passed to projections only if no event of the same stream name and version was stored before it, in
any store. So a stream is projected from its first event to its last, each event once and in order,
as long as no other store has a stream of its name; of two streams of one name, what the second has
that the first has already is skipped.
-/

namespace TenantAuth.Delivery

variable {ω : Type}

/-- A batch that is appended to one of several stores. -/
structure Deposit where
  store : Nat
  aggregate : String
  stream : String
  events : List PendingEvent

/-- The events that deposits came to, in the order in which they were stored. -/
def eventsOf (entries : List (Deposit × List Event)) : List Event := entries.flatMap Prod.snd

/-- The events that deposits came to in a stream of a store. -/
def eventsAt (i : Nat) (stream : String) (entries : List (Deposit × List Event)) : List Event :=
  eventsOf (entries.filter fun e => e.1.store = i ∧ e.1.stream = stream)

namespace Setting

variable (c : Setting ω)

/-- Append a batch to one of the stores. -/
def deposit (d : Deposit) : StreamM (Hub (Ledger ω)) (List Event) :=
  Hub.append c.handlers c.stamps d.store d.aggregate d.stream d.events

/-- Append batches one after the other; none if one of them waits for ever. -/
def depositAll :
    List Deposit → Hub (Ledger ω) → Option (List (Except StreamFault (List Event)) × Hub (Ledger ω))
  | [], hub => some ([], hub)
  | d :: rest, hub => (Fiber.run (c.deposit d).run hub).bind fun p =>
    (depositAll rest p.2).map fun q => (p.1 :: q.1, q.2)

/-- Migration and projections come to no fault with the events of some deposits and leave none
unhandled, and nobody refuses to save a checkpoint, as long as all keep to a condition on what the
projections build. -/
structure Takes (inv : ω → Prop) (deposits : List Deposit) : Prop where
  handles : ∀ d ∈ deposits, ∀ event, event.aggregate = d.aggregate → event.stream = d.stream →
    event.pending ∈ d.events → c.Handles inv False event
  permits : ∀ stream next, (c.permit stream next).Always inv False (· = .ok ())

/-- Several empty stores with nothing projected, and a relay that was started over all of them. -/
def startedOver (count : Nat) (outside : ω) : Hub (Ledger ω) :=
  ((⟨c.handler, List.range count, false⟩ : Relay).start
    ⟨List.replicate count EventStore.empty, [c.handler], ⟨[], [], outside⟩⟩).2

end Setting

/-- The number of events in some deposits. -/
def Deposit.total (deposits : List Deposit) : Nat := (deposits.map fun d => d.events.length).sum

/-- Several stores in which deposits came to some events, with a relay that is started over all of
them. -/
structure Stocked (c : Setting ω) (count : Nat) (entries : List (Deposit × List Event))
    (hub : Hub (Ledger ω)) : Prop where
  stores : hub.stores.length = count
  subscribed : ∀ i < count, hub.subscriber? i = some c.handler
  free : ∀ i < count, (hub.store i).held = []
  /-- Each deposit came to events that stand where it put them. -/
  pending : ∀ e ∈ entries, e.2.map Event.pending = e.1.events
  placed : ∀ e ∈ entries, ∀ event ∈ e.2, event.stream = e.1.stream ∧ event.aggregate = e.1.aggregate
  /-- Streams hold what was put there, and nothing else. -/
  stored : ∀ i < count, ∀ stream, (hub.store i).read stream = eventsAt i stream entries
  numbered : ∀ i < count, ∀ stream, Numbered firstVersion ((hub.store i).read stream)

variable {c : Setting ω} {inv : ω → Prop} {count i : Nat} {hub : Hub (Ledger ω)} {stream : String}
  {entries : List (Deposit × List Event)} {d : Deposit} {deposits : List Deposit}
  {batch : List Event}

theorem eventsOf_concat : eventsOf (entries ++ [(d, batch)]) = eventsOf entries ++ batch := by
  simp [eventsOf]

theorem eventsAt_concat {i : Nat} : eventsAt i stream (entries ++ [(d, batch)]) =
    eventsAt i stream entries ++ if d.store = i ∧ d.stream = stream then batch else [] := by
  by_cases hhere : d.store = i ∧ d.stream = stream
  · simp [eventsAt, eventsOf, hhere]
  · simp [eventsAt, eventsOf, hhere]

/-! ### The relay over empty stores -/

theorem startedOver_eq {outside : ω} : c.startedOver count outside =
    Hub.assign (some c.handler) (List.range count)
      ⟨List.replicate count EventStore.empty, [c.handler], ⟨[], [], outside⟩⟩ := rfl

theorem outside_startedOver {outside : ω} :
    (c.startedOver count outside).outside = ⟨[], [], outside⟩ :=
  Hub.outside_assign ..

theorem stocked_startedOver {outside : ω} : Stocked c count [] (c.startedOver count outside) := by
  have hstore : ∀ i < count, (c.startedOver count outside).store i =
      { EventStore.empty with subscriber := some c.handler } := by
    intro i hi
    have hempty : (List.replicate count EventStore.empty)[i]?.getD EventStore.empty =
        EventStore.empty := by
      rw [List.getElem?_replicate, if_pos hi]
      rfl
    rw [startedOver_eq, Hub.store_assign _ _ _ (List.length_replicate.symm ▸ hi),
      if_pos (List.mem_range.2 hi)]
    exact congrArg (fun store => { store with subscriber := some c.handler }) hempty
  have halive : (c.startedOver count outside).alive = [c.handler] := Hub.alive_assign ..
  refine
    { stores := (Hub.length_assign ..).trans List.length_replicate
      subscribed := fun i hi => ?subscribed
      free := fun i hi => congrArg EventStore.held (hstore i hi)
      pending := fun _ h => absurd h List.not_mem_nil
      placed := fun _ h => absurd h List.not_mem_nil
      stored := fun i hi stream => congrArg (EventStore.read · stream) (hstore i hi)
      numbered := fun i hi stream => ?numbered }
  case subscribed =>
    rw [Hub.subscriber?, hstore i hi, halive]
    simp
  case numbered =>
    rw [hstore i hi]
    rfl

/-! ### One deposit -/

theorem Stocked.of_mem_eventsAt (h : Stocked c count entries hub) {event : Event}
    (hevent : event ∈ eventsAt i stream entries) :
    event ∈ eventsOf entries ∧ event.stream = stream := by
  obtain ⟨e, he, hmem⟩ := List.mem_flatMap.1 hevent
  obtain ⟨hentry, hhere⟩ := List.mem_filter.1 he
  have hstream : e.1.stream = stream := (of_decide_eq_true hhere).2
  exact ⟨List.mem_flatMap.2 ⟨e, hentry, hmem⟩, ((h.placed e hentry event hmem).1).trans hstream⟩

/-- The checkpoint of a name stands behind what any store has of it. -/
theorem Stocked.length_le (h : Stocked c count entries hub)
    (hread : ReadOnce c.toReaders inv (eventsOf entries) hub.outside) (hi : i < count)
    (stream : String) :
    firstVersion + ((hub.store i).read stream).length ≤ hub.outside.checkpoint stream := by
  have hnumbered := h.numbered i hi stream
  have hmem : ∀ event ∈ (hub.store i).read stream, event ∈ eventsOf entries ∧
      event.stream = stream := by
    rw [h.stored i hi]
    exact fun event hevent => h.of_mem_eventsAt hevent
  rcases List.eq_nil_or_concat ((hub.store i).read stream) with hnil | ⟨earlier, last, hlast⟩
  · rw [hnil]
    exact hread.first stream
  · rw [List.concat_eq_append] at hlast
    rw [hlast] at hnumbered hmem ⊢
    obtain ⟨hevent, hstream⟩ := hmem last (by simp)
    have hversion := (numbered_cons.1 (numbered_append.1 hnumbered).2).1
    have hcovered := ((hread.covered stream last.version).2 ⟨last, hevent, hstream, rfl⟩).2
    rw [List.length_append, List.length_singleton]
    omega

/-- A deposit without events leaves all as it is. -/
theorem Stocked.idle (h : Stocked c count entries hub) (hevents : d.events = []) :
    Stocked c count (entries ++ [(d, [])]) hub := by
  refine
    { h with
      pending := List.forall_mem_append.2 ⟨h.pending, List.forall_mem_singleton.2 hevents.symm⟩
      placed := List.forall_mem_append.2 ⟨h.placed, List.forall_mem_singleton.2 nofun⟩
      stored := fun i hi stream => ?_ }
  rw [eventsAt_concat, ite_self, List.append_nil, h.stored i hi]

/-- A batch that is put behind a stream of a store is what its deposit came to. -/
theorem Stocked.appended (h : Stocked c count entries hub) (hstore : d.store < count)
    (l : Ledger ω) :
    Stocked c count
      (entries ++ [(d, (hub.store d.store).batch c.stamps d.aggregate d.stream d.events)])
      ((hub.modifyStore d.store
        (EventStore.appended c.stamps d.aggregate d.stream d.events)).leave l) := by
  have hlength : d.store < hub.stores.length := h.stores.symm ▸ hstore
  refine
    { stores := (List.length_modify ..).trans h.stores
      subscribed :=
      fun i hi => (Hub.subscriber?_modifyStore hlength rfl i).trans (h.subscribed i hi)
      free := fun i hi => (Hub.modifyStore_same (g := EventStore.held) hlength rfl i).trans
        (h.free i hi)
      pending :=
        List.forall_mem_append.2 ⟨h.pending, List.forall_mem_singleton.2 EventStore.pending_batch⟩
      placed := List.forall_mem_append.2 ⟨h.placed, List.forall_mem_singleton.2 fun event hevent =>
        ⟨EventStore.stream_of_mem_batch hevent, EventStore.aggregate_of_mem_batch hevent⟩⟩
      stored := fun i hi stream => (Hub.read_modifyStore_appended hlength i stream).trans ?stored
      numbered := fun i hi stream => ?numbered }
  case stored => rw [h.stored i hi, eventsAt_concat]
  case numbered =>
    refine (congrArg _ (Hub.read_modifyStore_appended hlength i stream)).mpr
      (numbered_append.2 ⟨h.numbered i hi stream, ?_⟩)
    split
    · rename_i hsame
      obtain ⟨rfl, rfl⟩ := hsame
      exact EventStore.numbered_batch
    · rfl

/-- Appending to one of the stores is answered with the batch, which is read as far as it is new. -/
theorem Stocked.deposit (h : Stocked c count entries hub)
    (hread : ReadOnce c.toReaders inv (eventsOf entries) hub.outside) (hstore : d.store < count)
    (htakes : c.Takes inv [d]) (hfits : (eventsOf entries).length + d.events.length + firstVersion <
      Nat.pow 2 64) :
    ∃ batch hub', StreamM.Ends (c.deposit d) hub (.ok batch) hub' ∧ batch.length = d.events.length ∧
      Stocked c count (entries ++ [(d, batch)]) hub' ∧
      ReadOnce c.toReaders inv (eventsOf (entries ++ [(d, batch)])) hub'.outside := by
  by_cases hevents : d.events = []
  · refine ⟨[], hub, ?_, congrArg List.length hevents.symm, h.idle hevents, ?_⟩
    · rw [Setting.deposit, hevents]
      exact StreamM.ends_pure_iff.2 ⟨rfl, rfl⟩
    · rw [eventsOf_concat, List.append_nil]
      exact hread
  · have hlength : d.store < hub.stores.length := h.stores.symm ▸ hstore
    have hbatch : (hub.store d.store).batch c.stamps d.aggregate d.stream d.events ≠ [] := by
      rw [← List.length_pos_iff, EventStore.length_batch]
      exact List.length_pos_iff.2 hevents
    have hhandles : ∀ event ∈ (hub.store d.store).batch c.stamps d.aggregate d.stream d.events,
        c.Handles inv False event := by
      intro event hevent
      have hpending := List.mem_map_of_mem (f := Event.pending) hevent
      rw [EventStore.pending_batch] at hpending
      exact htakes.handles d (List.mem_singleton_self d) event
        (EventStore.aggregate_of_mem_batch hevent) (EventStore.stream_of_mem_batch hevent) hpending
    -- the batch goes on from what its own store has, which lies before the checkpoint of the name
    obtain ⟨l, hends, hreadOnce⟩ :=
      hread.write hbatch EventStore.numbered_batch (Nat.le_add_right _ _)
        (h.length_le hread hstore d.stream) (by rwa [EventStore.length_batch])
      (fun event => EventStore.aggregate_of_mem_batch)
        (fun event => EventStore.stream_of_mem_batch) hhandles
      (htakes.permits d.stream)
    refine ⟨_, _, (Hub.append_iff hlength hevents).2 ⟨?_, .ok (), l, ?_, rfl, rfl⟩,
      EventStore.length_batch, h.appended hstore l, ?_⟩
    · rw [EventStore.isFree, h.free d.store hstore]
      rfl
    · rw [Hub.Tells, h.subscribed d.store hstore]
      exact hends
    · rw [eventsOf_concat]
      exact hreadOnce

/-! ### All deposits -/

theorem Setting.Takes.mono {more : List Deposit} (h : c.Takes inv more)
    (hsubset : deposits ⊆ more) : c.Takes inv deposits :=
  ⟨fun d hd => h.handles d (hsubset hd), h.permits⟩

theorem Stocked.depositAll (h : Stocked c count entries hub)
    (hread : ReadOnce c.toReaders inv (eventsOf entries) hub.outside)
    (hstores : ∀ d ∈ deposits, d.store < count) (htakes : c.Takes inv deposits)
    (hfits : (eventsOf entries).length + Deposit.total deposits + firstVersion < Nat.pow 2 64) :
    ∃ more hub', c.depositAll deposits hub = some (more.map fun e => .ok e.2, hub') ∧
      more.map Prod.fst = deposits ∧ Stocked c count (entries ++ more) hub' ∧
      ReadOnce c.toReaders inv (eventsOf (entries ++ more)) hub'.outside := by
  induction deposits generalizing entries hub with
  | nil => exact ⟨[], hub, rfl, rfl, by rwa [List.append_nil], by rwa [List.append_nil]⟩
  | cons d rest ih =>
    obtain ⟨hstore, hothers⟩ := List.forall_mem_cons.1 hstores
    have htotal : Deposit.total (d :: rest) = d.events.length + Deposit.total rest := List.sum_cons
    obtain ⟨batch, hub₁, hends, hlength, hstocked, hreadOnce⟩ :=
      h.deposit hread hstore (htakes.mono (List.cons_subset_cons d (List.nil_subset rest)))
        (by omega)
    have hmore :
        (eventsOf (entries ++ [(d, batch)])).length =
          (eventsOf entries).length + d.events.length := by
      rw [eventsOf_concat, List.length_append, hlength]
    obtain ⟨more, hub₂, hrun, hdeposits, hstocked₂, hreadOnce₂⟩ :=
      ih hstocked hreadOnce hothers (htakes.mono (List.subset_cons_self d rest)) (by omega)
    rw [List.append_assoc] at hstocked₂ hreadOnce₂
    refine ⟨(d, batch) :: more, hub₂, ?_, by rw [List.map_cons, hdeposits], hstocked₂, hreadOnce₂⟩
    rw [Setting.depositAll, show Fiber.run (c.deposit d).run hub = some (.ok batch, hub₁)
      from hends, Option.bind_some, hrun]
    rfl

/-- The events of a name that only one store has are those of its stream. -/
theorem Stocked.filter_eventsOf (h : Stocked c count entries hub) (hi : i < count)
    (hown : ∀ e ∈ entries, e.1.stream = stream → e.1.store = i) :
    ((eventsOf entries).filter fun event => event.stream = stream) = (hub.store i).read stream := by
  rw [h.stored i hi]
  have hplaced := h.placed
  clear h
  induction entries with
  | nil => rfl
  | cons e rest ih =>
    obtain ⟨hhere, hrest⟩ := List.forall_mem_cons.1 hown
    obtain ⟨hevents, hothers⟩ := List.forall_mem_cons.1 hplaced
    have hcons : eventsOf (e :: rest) = e.2 ++ eventsOf rest := List.flatMap_cons
    rw [hcons, List.filter_append, ih hrest hothers, eventsAt, eventsAt]
    by_cases hstream : e.1.stream = stream
    · rw [List.filter_cons_of_pos (by simp [hstream, hhere hstream]),
        List.filter_eq_self.2 fun event hevent => decide_eq_true
        ((hevents event hevent).1.trans hstream)]
      rfl
    · rw [List.filter_cons_of_neg (by simp [hstream]), List.filter_eq_nil_iff.2, List.nil_append]
      intro event hevent hsame
      exact hstream ((hevents event hevent).1.symm.trans (of_decide_eq_true hsame))

/-- What holds when deposits came to some events while one relay was started over all stores. -/
structure Relayed (c : Setting ω) (count : Nat) (entries : List (Deposit × List Event))
    (hub : Hub (Ledger ω)) : Prop extends Stocked c count entries hub where
  /-- The checkpoint of a name stands behind the last version that a stream of that name has in any
  store. -/
  covered : ∀ stream version, (firstVersion ≤ version ∧ version < hub.outside.checkpoint stream) ↔
    ∃ event ∈ eventsOf entries, event.stream = stream ∧ event.version = version
  /-- Each projection was passed the events for its aggregate that were stored before all others of
  their stream name and version; so of a stream whose name no other store has, exactly all events in
  their order. -/
  passed : ∃ passes, List.Forall₂ c.Enters passes hub.outside.calls ∧
    (∀ e ∈ c.projections.zipIdx, passedTo e.2 passes =
      (firsts [] (eventsOf entries)).filter fun event => event.aggregate = e.1.aggregate) ∧
    ∀ i < count, ∀ stream, (∀ e ∈ entries, e.1.stream = stream → e.1.store = i) →
      ∀ e ∈ c.projections.zipIdx, (passedTo e.2 passes).filter
        (fun event => event.stream = stream) = ((hub.store i).read stream).filter fun event =>
        event.aggregate = e.1.aggregate

theorem Stocked.relayed (h : Stocked c count entries hub)
    (hread : ReadOnce c.toReaders inv (eventsOf entries) hub.outside) :
    Relayed c count entries hub := by
  refine
    { h with
      covered := hread.covered
      passed := ⟨_, hread.called, fun e he => passedTo_passes he, fun i hi stream hown e he => ?_⟩ }
  have hnumbered := h.numbered i hi stream
  rw [← h.filter_eventsOf hi hown] at hnumbered ⊢
  rw [passedTo_passes he, List.filter_comm, filter_firsts hnumbered (by simp)]

/-- Batches that are appended to the stores of one relay are all stored and answered without fault,
and each event is projected once, if it is the first of its stream name and version in all
stores. -/
theorem relayed_once_per_name (c : Setting ω) (count : Nat) (deposits : List Deposit) (outside : ω)
    (inv : ω → Prop) (hstores : ∀ d ∈ deposits, d.store < count) (htakes : c.Takes inv deposits)
    (hinv : inv outside) (hfits : Deposit.total deposits + 1 < Nat.pow 2 64) :
    ∃ entries hub,
      c.depositAll deposits (c.startedOver count outside) =
        some (entries.map fun e => .ok e.2, hub) ∧ entries.map Prod.fst = deposits ∧
        Relayed c count entries hub := by
  have hfits' : (eventsOf []).length + Deposit.total deposits + firstVersion < Nat.pow 2 64 := by
    rwa [eventsOf, List.flatMap_nil, List.length_nil, Nat.zero_add]
  have hread : ReadOnce c.toReaders inv (eventsOf []) (c.startedOver count outside).outside := by
    rw [outside_startedOver]
    exact readOnce_nil hinv
  obtain ⟨entries, hub, hrun, hdeposits, hstocked, hreadOnce⟩ :=
    stocked_startedOver.depositAll hread hstores htakes hfits'
  exact ⟨entries, hub, hrun, hdeposits, hstocked.relayed hreadOnce⟩

/-- An order is placed in one store, and an order of the same name in another. -/
def sampleDeposits : List Deposit :=
  [⟨0, "Order", "order", [.ofJson "Placed" .null]⟩, ⟨1, "Order", "order", [.ofJson "Placed" .null]⟩]

/-- The second order is stored as well, but only the first one is projected, once by each of the two
projections. -/
theorem relayed_once_per_name_steady : ∃ entries hub,
    Setting.steady.depositAll sampleDeposits (Setting.steady.startedOver 2 0) =
        some (entries.map fun e => .ok e.2, hub) ∧
      entries.map Prod.fst = sampleDeposits ∧ Relayed Setting.steady 2 entries hub ∧
      ((hub.store 0).read "order").length = 1 ∧ ((hub.store 1).read "order").length = 1 ∧
      hub.outside.calls.length = 2 := by
  have htakes : Setting.steady.Takes (fun _ => True) sampleDeposits := by
    have hcommon : ∀ d ∈ sampleDeposits, d.aggregate = "Order" := by decide
    exact ⟨fun d hd event haggregate _ _ => handles_steady (haggregate.trans (hcommon d hd)),
      fun _ _ => rfl⟩
  obtain ⟨entries, hub, hrun, hdeposits, hrelayed⟩ :=
    relayed_once_per_name Setting.steady 2 sampleDeposits 0 (fun _ => True)
      (by decide) htakes trivial (by decide)
  have hlengths :
    (Setting.steady.depositAll sampleDeposits (Setting.steady.startedOver 2 0)).map (fun p =>
      (((p.2.store 0).read "order").length, ((p.2.store 1).read "order").length,
        p.2.outside.calls.length)) = some (1, 1, 2) := by
    decide +kernel
  rw [hrun] at hlengths
  obtain ⟨hfirst, hrest⟩ := Prod.mk.inj (Option.some.inj hlengths)
  obtain ⟨hsecond, hcalls⟩ := Prod.mk.inj hrest
  exact ⟨entries, hub, hrun, hdeposits, hrelayed, hfirst, hsecond, hcalls⟩

end TenantAuth.Delivery
