import TenantAuth.Proofs.Stream.Custody
import TenantAuth.Proofs.Stream.Unobserved

/-!
A store delivers the events of a stream in the order in which it holds them, whatever its handler
does.

Calls append to the streams of a store and deliver streams again, and take turns in any way; the
handler may wait, succeed or fail each time. At any moment the versions of each stream are 1, 2, 3
and so on, and nothing that was stored changes any more. Of each stream there is one delivery at a
time. A batch that is appended is delivered once, right behind the events that were delivered
before; delivering again delivers all that the stream holds.
-/

namespace TenantAuth

/-- A store that nobody is using. -/
structure EventStore.Settled (store : EventStore) : Prop where
  numbered : ∀ stream, Delivery.Numbered firstVersion (store.read stream)
  counted : ∀ stream, (store.read stream).length ≤ store.count
  free : store.held = []

theorem EventStore.settled_empty (subscriber : Option HandlerId) :
    EventStore.Settled { EventStore.empty with subscriber } :=
      ⟨fun _ => rfl, fun _ => Nat.le_refl 0, rfl⟩

namespace Observed

open Delivery (Numbered numbered_append)

variable {κ : Type}

/-- How far the deliveries of a stream got: all that was delivered so far, and the delivery that is
going on. -/
structure Account where
  delivered : List Event
  current : Option (Nat × List Event)

/-- The notes on a stream that held some events at first. Each delivery ends before the next one
starts. That of an append has the events that the call appends, numbered on from all that was
delivered before; a call that delivers again delivers all of that. -/
inductive Record (calls : List Call) (stream : String) (stored : List Event) :
    List Note → Account → Prop
  | empty : Record calls stream stored [] ⟨stored, none⟩
  | append {notes : List Note} {delivered batch : List Event} {call : Nat} {aggregate : String}
    {events : List PendingEvent} (h : Record calls stream stored notes ⟨delivered, none⟩)
    (hcall : calls[call]? = some (.append aggregate stream events))
    (hevents : batch.map Event.pending = events) (hsome : batch ≠ [])
    (hnumbered : Numbered (firstVersion + delivered.length) batch) :
    Record calls stream stored (notes ++ [.started call stream batch])
      ⟨delivered ++ batch, some (call, batch)⟩
  | redeliver {notes : List Note} {delivered : List Event} {call : Nat}
    (h : Record calls stream stored notes ⟨delivered, none⟩)
    (hcall : calls[call]? = some (.redeliver stream)) (hsome : delivered ≠ []) :
    Record calls stream stored (notes ++ [.started call stream delivered])
      ⟨delivered, some (call, delivered)⟩
  | ended {notes : List Note} {delivered events : List Event} {call : Nat}
    {outcome : Except StreamFault Unit}
    (h : Record calls stream stored notes ⟨delivered, some (call, events)⟩) :
    Record calls stream stored (notes ++ [.ended call stream outcome]) ⟨delivered, none⟩

/-- What is noted on a stream. -/
def notesOn (stream : String) (notes : List Note) : List Note :=
    notes.filter fun note => note.stream = stream

variable {handlers : Handlers κ} {handler : HandlerId} {stamps : EventStore.Stamps} {i number : Nat}
  {calls : List Call} {start : EventStore} {stream aggregate : String} {stored batch : List Event}
  {pending : List PendingEvent} {notes : List Note} {account : Account}

/-- Whatever was delivered is a part of all that was delivered. -/
theorem Record.part (h : Record calls stream stored notes account) {call : Nat}
    {events : List Event} (hstarted : .started call stream events ∈ notes) :
    events <:+: account.delivered := by
  induction h with
  | empty => exact absurd hstarted List.not_mem_nil
  | append h hcall hevents hsome hnumbered ih =>
    rcases List.mem_append.1 hstarted with hold | hnew
    · exact (ih hold).trans (List.prefix_append _ _).isInfix
    · cases List.mem_singleton.1 hnew
      exact (List.suffix_append _ _).isInfix
  | redeliver h hcall hsome ih =>
    rcases List.mem_append.1 hstarted with hold | hnew
    · exact ih hold
    · cases List.mem_singleton.1 hnew
      exact List.infix_refl _
  | ended h ih =>
    rcases List.mem_append.1 hstarted with hold | hnew
    · exact ih hold
    · cases List.mem_singleton.1 hnew

/-- What is being delivered: the last events of all, which are those of an append, or all of them
once more. -/
theorem Record.current {events : List Event} {call : Nat}
    (h : Record calls stream stored notes account)
    (hcurrent : account.current = some (call, events)) :
    (∃ aggregate, calls[call]? = some (.append aggregate stream (events.map Event.pending)) ∧
      events <:+ account.delivered) ∨
        calls[call]? = some (.redeliver stream) ∧ events = account.delivered := by
  cases h with
  | empty => cases hcurrent
  | append h hcall hevents hsome hnumbered =>
    cases hcurrent
    exact Or.inl ⟨_, hevents ▸ hcall, List.suffix_append _ _⟩
  | redeliver h hcall hsome =>
    cases hcurrent
    exact Or.inr ⟨hcall, rfl⟩
  | ended h => cases hcurrent

/-- A delivery that started and did not end is going on. -/
theorem Record.current_of_open {call : Nat} {events : List Event}
    (h : Record calls stream stored notes account) (hstarted : .started call stream events ∈ notes)
    (hopen : ∀ outcome, .ended call stream outcome ∉ notes) :
    account.current = some (call, events) := by
  have hearlier :
      ∀ {notes : List Note} {note : Note},
        (∀ outcome, .ended call stream outcome ∉ notes ++ [note]) → ∀ outcome,
        .ended call stream outcome ∉ notes :=
        fun h outcome hold => h outcome (List.mem_append_left _ hold)
  induction h with
  | empty => exact absurd hstarted List.not_mem_nil
  | append h hcall hevents hsome hnumbered ih =>
    rcases List.mem_append.1 hstarted with hold | hnew
    · cases ih hold (hearlier hopen)
    · cases List.mem_singleton.1 hnew
      rfl
  | redeliver h hcall hsome ih =>
    rcases List.mem_append.1 hstarted with hold | hnew
    · cases ih hold (hearlier hopen)
    · cases List.mem_singleton.1 hnew
      rfl
  | ended h ih =>
    rcases List.mem_append.1 hstarted with hold | hnew
    · cases ih hold (hearlier hopen)
      exact absurd (List.mem_append_right _ List.mem_cons_self) (hopen _)
    · cases List.mem_singleton.1 hnew

/-! ### The store in the custody of calls -/

/-- The number of events that a call appends. -/
def Call.size : Call → Nat
  | append _ _ events => events.length
  | redeliver _ => 0

/-- The number of events that the call of a number appends. -/
def sizeAt (calls : List Call) (k : Nat) : Nat := ((calls[k]?).map Call.size).getD 0

/-- How calls use the store: a stream whose delivery is at rest was delivered to its end, and so it
is from the start of a delivery on. -/
def keeping (calls : List Call) (i : Nat) (handler : HandlerId) (start : EventStore) :
    Custody (Diary κ) Account where
  store := i
  handler := handler
  total := start.count + ∑ k ∈ Finset.range calls.length, sizeAt calls k
  orderly _ stored := Numbered firstVersion stored
  rest _ stored := ⟨stored, none⟩
  during _ stored account :=
    account.delivered <+: stored ∧ (account.current ≠ none → account.delivered = stored)
  delivery stream :=
    { relies := fun _ _ => True
      acts := fun account diary account' diary' => ∃ more, diary'.notes = diary.notes ++ more ∧
        (∀ note ∈ more, note.stream = stream) ∧
          ∀ notes, Record calls stream (start.read stream) notes account →
          Record calls stream (start.read stream) (notes ++ more) account'
      waits := fun _ _ => True }
  world progress diary := ∀ stream,
    Record calls stream (start.read stream) (notesOn stream diary.notes) (progress stream)
  told _ := True

theorem lawful_keeping : (keeping (κ := κ) calls i handler start).Lawful where
  relies _ _ _ _ := trivial
  acts := by
    rintro progress diary hworld stream next diary' ⟨more, hmore, hstream, hrecord⟩ other
    rw [hmore, notesOn, List.filter_append]
    by_cases hother : other = stream
    · subst hother
      rw [Function.update_self, List.filter_eq_self.2 fun note hnote => decide_eq_true
        (hstream note hnote)]
      exact hrecord _ (hworld other)
    · have hnone : more.filter (fun note => note.stream = other) = [] := by
        refine List.filter_eq_nil_iff.2 fun note hnote hsame => hother ?_
        rw [← hstream note hnote, of_decide_eq_true hsame]
      rw [Function.update_of_ne hother, hnone, List.append_nil]
      exact hworld other
  during _ stored batch := ⟨List.prefix_append _ _, fun hsome => absurd rfl hsome⟩

/-- A handler with an observer who may note of what it is told that it is being delivered. -/
theorem serves_observed {earlier known fresh : List Event}
    (hstarts : Numbered firstVersion (earlier ++ known ++ fresh) → known ++ fresh ≠ [] → ∀ notes,
      Record calls stream (start.read stream) notes ⟨earlier ++ known, none⟩ →
      Record calls stream (start.read stream) (notes ++ [.started number stream (known ++ fresh)])
        ⟨earlier ++ known ++ fresh, some (number, known ++ fresh)⟩) :
    (keeping calls i handler start).Serves (observed handlers number) stream earlier
        known fresh := by
  intro horderly _ hsome
  refine keeps_observed (⟨earlier ++ known ++ fresh, some (number, known ++ fresh)⟩ :
    Account) ?starts (fun _ => trivial) ?goes ?ends
  case starts =>
    exact fun diary _ => ⟨⟨_, rfl, List.forall_mem_singleton.2 rfl, hstarts horderly hsome⟩,
      List.prefix_refl _, fun _ => rfl⟩
  case goes =>
    refine fun diary outside _ =>
      ⟨⟨[], (List.append_nil _).symm, fun _ h => absurd h List.not_mem_nil, fun notes hrecord =>
        ?_⟩, List.prefix_refl _, fun _ => rfl⟩
    rwa [List.append_nil]
  case ends =>
    exact fun outcome diary _ =>
      ⟨_, ⟨⟨_, rfl, List.forall_mem_singleton.2 rfl, fun notes hrecord => hrecord.ended⟩,
        List.prefix_refl _, fun h => absurd rfl h⟩, trivial, rfl⟩

variable {hand : Hand Account} {left : Nat}

/-- A call leaves its stream delivered to its end. -/
theorem keeps_keeping {call : Call} (hcall : calls[number]? = some call) (hgrip : hand.grip = none)
    (hleft : hand.left = call.size + left) :
    (call.perform (observed handlers number) stamps i).Keeps
      (keeping calls i handler start).discipline (fun _ hand' => hand'.grip = none) hand := by
  cases call with
  | append aggregate stream pending =>
    refine Custody.keeps_append
      (fun stored batch hbatch => serves_observed fun hnumbered hsome notes hrecord => ?_) hgrip
      hleft (fun store h => numbered_append.2 ⟨h, EventStore.numbered_batch⟩) (fun _ => hgrip)
      fun _ _ _ _ _ => rfl
    simp only [List.append_nil, List.nil_append] at hnumbered hsome hrecord ⊢
    exact hrecord.append hcall hbatch hsome (numbered_append.1 hnumbered).2
  | redeliver stream =>
    refine StreamM.keeps_bind_iff.2 (Custody.keeps_redeliver
      (fun stored => serves_observed fun _ hsome notes hrecord => ?_) hgrip hgrip ?_)
    · simp only [List.append_nil, List.nil_append] at hsome hrecord ⊢
      exact hrecord.redeliver hcall hsome
    · rintro (fault | _) _
      · exact hgrip
      · exact hgrip

/-! ### Calls that take turns -/

/-- What calls have in their hands at first: the events that they are to append. -/
def firstHand (calls : List Call) (k : Nat) : Hand Account := ⟨none, [], sizeAt calls k⟩

theorem holds_firstHand {hub : Hub κ} (hstore : i < hub.stores.length)
    (hsubscriber : hub.subscriber? i = some handler) (hsettled : (hub.store i).Settled) :
    (keeping calls i handler (hub.store i)).Holds calls.length (firstHand calls) (observe hub) := by
  refine
    { store := hstore
      subscriber := hsubscriber
      kept :=
        { orderly := hsettled.numbered
          short := hsettled.counted
          room := Nat.le_refl _
          banked := fun _ _ h => absurd h List.not_mem_nil
          locked := ?locked
          stored := ?stored
          during := ?during
          tracked :=
          ⟨fun stream => ⟨(hub.store i).read stream, none⟩, fun _ => .empty, ?gripped,
            fun _ _ => rfl⟩ } }
  case locked =>
    change Custody.Locked calls.length (fun _ => none) (hub.store i).held
    rw [hsettled.free]
    exact Custody.locked_nil
  case stored => rintro k grip ⟨⟩
  case during => rintro k grip ⟨⟩
  case gripped => rintro k grip ⟨⟩

/-- What calls keep to is kept, whatever turns they take. -/
theorem holds_together (handlers : Handlers κ) (stamps : EventStore.Stamps) {hub : Hub κ}
    (hstore : i < hub.stores.length) (hsubscriber : hub.subscriber? i = some handler)
    (hsettled : (hub.store i).Settled) (turns : List Nat) :
    ∃ hands, (keeping calls i handler (hub.store i)).Holds calls.length hands
        (together handlers stamps i calls hub turns).2 ∧
      ((∀ fiber ∈ (together handlers stamps i calls hub turns).1, fiber.isDone = true) →
        ∀ k < calls.length, (hands k).grip = none) := by
  have hcount : (calls.zipIdx.map fun e =>
      (e.1.perform (observed handlers e.2) stamps i).run).length = calls.length := by
    rw [List.length_map, List.length_zipIdx]
  have hbegin : Fiber.Together (keeping calls i handler (hub.store i)).discipline
      (fun _ _ hand => hand.grip = none)
      ((keeping calls i handler (hub.store i)).Holds calls.length) (firstHand calls)
      (calls.zipIdx.map fun e => (e.1.perform (observed handlers e.2) stamps i).run)
      (observe hub) := by
    refine ⟨fun k fiber hk => ?_, holds_firstHand hstore hsubscriber hsettled⟩
    obtain ⟨call, hcall, rfl⟩ := perform_of_getElem? hk
    refine keeps_keeping hcall rfl (show _ = call.size + 0 from ?_)
    change ((calls[k]?).map Call.size).getD 0 = _
    rw [hcall]
    rfl
  obtain ⟨hlength, hands, htogether⟩ :=
    hbegin.interleave (hcount ▸ Custody.preserves lawful_keeping) turns
  refine ⟨hands, htogether.inv, fun hdone k hk => ?_⟩
  obtain ⟨outcomes, houtcomes, hends⟩ := htogether.outcomes hdone
  rw [houtcomes, List.length_map] at hlength
  exact hends k _ (List.getElem?_eq_getElem (by rwa [hlength, hcount]))

/-- A call is answered as its handler came out, of which two notes bear witness. Appending is
answered with the batch that was delivered, unless the handler failed; the batch stays in the stream
in any case. Delivering again is about all that was stored before the call began, and possibly
more. -/
def Call.Answered (k : Nat) (before now : EventStore) (notes : List Note) :
    Call → Except StreamFault (List Event) → Prop
  | append _ stream events, r =>
    (events = [] ∧ r = .ok [] ∧ notesOf k notes = []) ∨
      events ≠ [] ∧ ∃ batch outcome, batch.map Event.pending = events ∧ batch <:+: now.read stream ∧
        notesOf k notes = [.started k stream batch, .ended k stream outcome] ∧
        r = outcome.map fun _ => batch
  | redeliver stream, r =>
    (before.read stream = [] ∧ r = .ok [] ∧ notesOf k notes = []) ∨
      ∃ events outcome, events ≠ [] ∧ before.read stream <+: events ∧
        notesOf k notes = [.started k stream events, .ended k stream outcome] ∧
        r = outcome.map fun _ => []

/-- The notes on a delivery that is going on. -/
def Going (k : Nat) (stream : String) (events : List Event) (notes : List Note) : Prop :=
  notesOf k notes = [.started k stream events]

theorem Going.current {k : Nat} {events : List Event} (h : Going k stream events notes)
    (hrecord : Record calls stream stored (notesOn stream notes) account) :
    account.current = some (k, events) := by
  have hstarted : .started k stream events ∈ notesOf k notes := by
    rw [h]
    exact List.mem_cons_self
  refine hrecord.current_of_open
    (List.mem_filter.2 ⟨(List.mem_filter.1 hstarted).1, decide_eq_true rfl⟩) ?_
  intro outcome hended
  have hmine : .ended k stream outcome ∈ notesOf k notes :=
    List.mem_filter.2 ⟨(List.mem_filter.1 hended).1, decide_eq_true rfl⟩
  rw [h] at hmine
  cases List.mem_singleton.1 hmine

/-- What holds of a store, of what was noted and of the answers at a moment, and between an earlier
moment and this one. -/
structure Ordered (i : Nat) (calls : List Call) (start : EventStore) (turns : List Nat)
    (before now : List (Fiber (Hub (Diary κ)) (Except StreamFault (List Event))) × Hub (Diary κ)) :
    Prop where
  /-- The versions of each stream are 1, 2, 3 and so on. -/
  numbered : ∀ stream, Numbered firstVersion ((now.2.store i).read stream)
  /-- Nothing that was stored or noted before is lost or changed. -/
  later : Later i before.2 now.2
  /-- The notes on a stream are on one delivery after the other, in the order in which the stream is
  stored. As long as nobody holds the stream, all of it has been delivered. -/
  delivered : ∀ stream, ∃ account,
    Record calls stream (start.read stream) (notesOn stream now.2.outside.notes) account ∧
    account.delivered <+: (now.2.store i).read stream ∧
    (stream ∉ (now.2.store i).held → account = ⟨(now.2.store i).read stream, none⟩)
  /-- A stream is delivered by one call at a time. -/
  alone : ∀ stream j k events events', Going j stream events now.2.outside.notes →
    Going k stream events' now.2.outside.notes → j = k
  /-- While a stream is delivered, nothing is stored in it behind the batch that is delivered, which
  is that of an append or all of the stream. -/
  going : ∀ k stream events, Going k stream events now.2.outside.notes →
    (∃ aggregate, calls[k]? = some (.append aggregate stream (events.map Event.pending)) ∧
      events <:+ (now.2.store i).read stream) ∨
    calls[k]? = some (.redeliver stream) ∧ events = (now.2.store i).read stream
  /-- Whatever was delivered stands in the stream. -/
  part : ∀ k stream events, .started k stream events ∈ now.2.outside.notes → events <:+:
    (now.2.store i).read stream
  /-- A call delivers once at most. -/
  once : ∀ k call, calls[k]? = some call →
    ∃ stage : Stage, notesOf k now.2.outside.notes = stage.notes k call.stream
  /-- A call that had not begun before is answered like this, once it is done. -/
  answered : ∀ k call r, calls[k]? = some call → k ∉ turns → now.1[k]? = some (.done r) →
    call.Answered k (before.2.store i) (now.2.store i) now.2.outside.notes r
  /-- When all calls are done, nobody is using the store, and other calls may come. -/
  settled : (∀ fiber ∈ now.1, fiber.isDone = true) → (now.2.store i).Settled

theorem Call.Ended.answered {k : Nat} {call : Call} {r : Except StreamFault (List Event)}
    {hand : Standing} {before : EventStore} {hub : Hub (Diary κ)} (h : call.Ended r hand)
    (hnumber : hand.number = k) (hstream : hand.stream = call.stream)
    (hsince : hand.since = before.read) (hknows : Knows i handler hand hub) :
    call.Answered k before (hub.store i) hub.outside.notes r := by
  have hblock := hknows.block
  have hnotes := hknows.notes
  rw [hstream] at hblock hnotes
  rw [hnumber] at hnotes
  cases call with
  | append aggregate stream events =>
    obtain ⟨rfl, rfl, hstage⟩ | ⟨hevents, hpending, outcome, rfl, hstage⟩ := h
    · rw [hstage] at hnotes
      exact Or.inl ⟨rfl, rfl, hnotes⟩
    · rw [hstage] at hnotes
      exact Or.inr ⟨hevents, hand.block, outcome, hpending, hblock, hnotes, rfl⟩
  | redeliver stream =>
    obtain ⟨hnil, rfl, hstage⟩ | ⟨events, outcome, hevents, hprefix, rfl, hstage⟩ := h
    · rw [hstage] at hnotes
      exact Or.inl ⟨hsince ▸ hnil, rfl, hnotes⟩
    · rw [hstage] at hnotes
      exact Or.inr ⟨events, outcome, hevents, hsince ▸ hprefix, hnotes, rfl⟩

theorem ordered (handlers : Handlers κ) (stamps : EventStore.Stamps) {hub : Hub κ}
    (hstore : i < hub.stores.length) (hsubscriber : hub.subscriber? i = some handler)
    (hsettled : (hub.store i).Settled) (turns more : List Nat) :
    Ordered i calls (hub.store i) turns (together handlers stamps i calls hub turns)
      (together handlers stamps i calls hub (turns ++ more)) := by
  obtain ⟨hlater, hcalls⟩ := conducted handlers stamps calls hstore hsubscriber turns more
  obtain ⟨hands, hholds, hdone⟩ :=
    holds_together handlers stamps hstore hsubscriber hsettled (turns ++ more)
  generalize together handlers stamps i calls hub (turns ++ more) = now at *
  obtain ⟨progress, hrecord, hduring, hrest⟩ := hholds.kept.reached lawful_keeping
  refine
    { numbered := hholds.kept.orderly
      later := hlater
      delivered := fun stream => ⟨_, hrecord stream, (hduring stream).1, hrest stream⟩
      alone := fun stream j k events events' hj hk => ?alone
      going := fun k stream events hgoing => ?going
      part := fun k stream events hstarted => ?part
      once := fun k call hcall => ?once
      answered := fun k call r hcall hturn hr => ?answered
      settled := fun hall => ⟨hholds.kept.orderly, hholds.kept.short, ?settled⟩ }
  case alone =>
    exact (Prod.mk.inj
      (Option.some.inj ((hj.current (hrecord stream)).symm.trans (hk.current (hrecord stream))))).1
  case going =>
    have hcurrent := hgoing.current (hrecord stream)
    have hread : (progress stream).delivered = (now.2.store i).read stream :=
      (hduring stream).2 (by rw [hcurrent]; exact Option.some_ne_none _)
    rw [← hread]
    exact (hrecord stream).current hcurrent
  case part =>
    exact ((hrecord stream).part (List.mem_filter.2 ⟨hstarted, decide_eq_true rfl⟩)).trans
      (hduring stream).1.isInfix
  case once =>
    obtain ⟨hand, rfl, hstream, _, hknows, _⟩ := hcalls k call hcall
    exact ⟨hand.stage, hstream ▸ hknows.notes⟩
  case answered =>
    obtain ⟨hand, hnumber, hstream, hsince, hknows, hends⟩ := hcalls k call hcall
    exact (hends r hr).answered hnumber hstream (hsince hturn) hknows
  case settled =>
    exact hholds.kept.locked.held_eq_nil fun k hk => Option.map_eq_none_iff.2 (hdone hall k hk)

/-- A store keeps and delivers streams in order, whatever its handler does and whatever turns calls
take. Whoever watches the handler sees it, and without observers the same comes about. -/
theorem delivered_in_order (handlers : Handlers κ) (stamps : EventStore.Stamps) (i : Nat)
    (calls : List Call) (hub : Hub κ) (handler : HandlerId) (hstore : i < hub.stores.length)
    (hsubscriber : hub.subscriber? i = some handler) (hsettled : (hub.store i).Settled) :
    (∀ turns more, Ordered i calls (hub.store i) turns (together handlers stamps i calls hub turns)
      (together handlers stamps i calls hub (turns ++ more))) ∧
    ∀ turns, ∃ turns',
      unobserve (together handlers stamps i calls hub turns').2 =
      (interleaved handlers stamps i calls hub turns).2 ∧
      ∀ (k : Nat) r, (interleaved handlers stamps i calls hub turns).1[k]? = some (.done r) →
        (together handlers stamps i calls hub turns').1[k]? = some (.done r) :=
  ⟨fun turns more => ordered handlers stamps hstore hsubscriber hsettled turns more,
    fun turns => unobserved handlers stamps i calls hub turns⟩

/-- A handler that gives way to others each time, and fails the first time. -/
def hesitant : Handlers Nat := fun _ _ _ => do
  StreamM.ofFiber (Fiber.pause 1)
  let count ← StreamM.ofFiber (Fiber.step fun count => (count, count + 1))
  if count = 0 then throw (.projectionFailed "Orders" "not ready") else return ()

/-- An order is placed and paid for, then sent, while its stream is delivered again; nothing is
known of another. -/
def sampleCalls : List Call :=
  [.append "Order" "order" [.ofJson "Placed" .null, .ofJson "Paid" .null], .redeliver "order",
    .append "Order" "order" [.ofJson "Sent" .null], .redeliver "other"]

/-- An empty store with a subscriber. -/
def sampleHub : Hub Nat := ⟨[{ EventStore.empty with subscriber := some ⟨0⟩ }], [⟨0⟩], 0⟩

/-- All calls by turns. -/
def sampleTurns : List Nat := (List.range 100).map (· % 4)

/-- What comes about when the calls take their turns. -/
def sampleRun (turns : List Nat) :
    List (Fiber (Hub (Diary Nat)) (Except StreamFault (List Event))) × Hub (Diary Nat) :=
  together hesitant ⟨fun _ => ⟨0⟩, fun _ => ⟨0, 0⟩⟩ 0 sampleCalls sampleHub turns

theorem delivered_in_order_hesitant :
    Ordered 0 sampleCalls (sampleHub.store 0) [] (sampleRun []) (sampleRun sampleTurns) ∧
      (∀ fiber ∈ (sampleRun sampleTurns).1, fiber.isDone = true) ∧
      (sampleRun sampleTurns).2.outside.notes.map Note.call = [0, 0, 1, 1, 2, 2] := by
  have hsettled : (sampleHub.store 0).Settled := EventStore.settled_empty (some ⟨0⟩)
  have hordered :=
    (delivered_in_order hesitant ⟨fun _ => ⟨0⟩, fun _ => ⟨0, 0⟩⟩ 0 sampleCalls sampleHub
      ⟨0⟩ (by decide)
    (by decide) hsettled).1 [] sampleTurns
  exact ⟨hordered, by decide +kernel, by decide +kernel⟩

end Observed

end TenantAuth
