import TenantAuth.Proofs.Stream.Course
import TenantAuth.Proofs.Stream.Custody
import TenantAuth.Proofs.Stream.Following
import Mathlib.Algebra.BigOperators.Fin

/-!
Every event is projected exactly once, whoever else is at work.

Several tasks append events to the streams of a store and deliver streams again, each one call after
the other. They take turns in any way between their actions, of which every call of a projection and
every access to a checkpoint is one. When all are done, each event was passed to each projection for
its aggregate once, in the order of its stream; no call came to a fault, and the checkpoints stand
behind the last events. How the events of a stream came in batches makes no difference, and neither
does how often it was delivered again.
-/

namespace TenantAuth.Delivery

variable {ω : Type}

/-- A call of a task on a store. -/
inductive Errand
  | append (stream : String) (events : List PendingEvent)
  | redeliver (stream : String)

namespace Errand

/-- The number of events that a call appends. -/
def size : Errand → Nat
  | append _ events => events.length
  | redeliver _ => 0

/-- The number of events that the calls of a task append. -/
def sizes (errands : List Errand) : Nat := (errands.map size).sum

/-- The number of events that tasks append. -/
def total (tasks : List (List Errand)) : Nat := (tasks.map sizes).sum

/-- A call is answered without fault; one that appends, with the batch that it stored. -/
def Answered (stored : (stream : String) → List Event → Prop) :
    Errand → Except StreamFault (List Event) → Prop
  | append stream events, r =>
    ∃ batch, r = .ok batch ∧ batch.map Event.pending = events ∧ stored stream batch
  | redeliver _, r => r = .ok []

theorem Answered.mono {stored stored' : (stream : String) → List Event → Prop} {errand : Errand}
    {r : Except StreamFault (List Event)} (h : errand.Answered stored r)
    (hstored : ∀ stream batch, stored stream batch → stored' stream batch) :
    errand.Answered stored' r := by
  cases errand with
  | append stream events =>
    obtain ⟨batch, hr, hpending, hbatch⟩ := h
    exact ⟨batch, hr, hpending, hstored stream batch hbatch⟩
  | redeliver stream => exact h

end Errand

namespace Setting

variable (c : Setting ω)

/-- A call of a task. Only appending has something to answer. -/
def carryOut : Errand → StreamM (Hub (Ledger ω)) (List Event)
  | .append stream events => Hub.append c.handlers c.stamps 0 (c.aggregateOf stream) stream events
  | .redeliver stream => do
    Hub.redeliver c.handlers 0 stream
    return []

/-- A task carries out its calls one after the other, whatever they come to. -/
def task : List Errand → Fiber (Hub (Ledger ω)) (List (Except StreamFault (List Event)))
  | [] => return []
  | errand :: rest => do
    let answer ← (c.carryOut errand).run
    let answers ← task rest
    return answer :: answers

/-- An empty store, with nothing projected and the relay started. -/
def started (outside : ω) : Hub (Ledger ω) :=
    ((c.begin outside).relay.start (c.begin outside).hub).2

/-- Tasks that take turns, from an empty store on. -/
def together (tasks : List (List Errand)) (outside : ω) (turns : List Nat) :
    List (Fiber (Hub (Ledger ω)) (List (Except StreamFault (List Event)))) × Hub (Ledger ω) :=
  Fiber.interleave turns (tasks.map c.task) (c.started outside)

/-- An event as one of the tasks may store it. -/
def Storable (tasks : List (List Errand)) (event : Event) : Prop :=
  event.aggregate = c.aggregateOf event.stream ∧
    ∃ task ∈ tasks, ∃ events, Errand.append event.stream events ∈ task ∧ event.pending ∈ events

/-- Migration and projections come to no fault with the events of some tasks and leave none
unhandled, and nobody refuses to save a checkpoint, as long as all keep to a condition on what the
projections build. They may have to wait, or never have to. -/
structure Reliable (inv : ω → Prop) (waits : Prop) (tasks : List (List Errand)) : Prop where
  handles : ∀ event, c.Storable tasks event → c.Handles inv waits event
  permits : ∀ stream next, (c.permit stream next).Always inv waits (· = .ok ())

end Setting

/-- What holds when all tasks are done with these answers. -/
structure Complete (c : Setting ω) (tasks : List (List Errand))
    (answers : List (List (Except StreamFault (List Event)))) (hub : Hub (Ledger ω)) : Prop where
  /-- Every call was answered without fault. -/
  answered : List.Forall₂
    (List.Forall₂ (Errand.Answered fun stream batch => batch <:+: (hub.store 0).read stream))
    tasks answers
  /-- Streams are numbered without gaps, and hold what tasks appended to them. -/
  numbered : ∀ stream, Numbered firstVersion ((hub.store 0).read stream)
  stored : ∀ stream, ∀ event ∈ (hub.store 0).read stream, event.stream = stream ∧
    c.Storable tasks event
  /-- Every checkpoint stands behind the last event of its stream. -/
  checkpoint : ∀ stream, hub.outside.checkpoint stream = ((hub.store 0).read stream).length + 1
  /-- The calls of projections pass on the events of each stream, every one to all projections for
  its aggregate in turn before the next; so each of these projections was passed exactly the events
  of the stream, in their order. -/
  passed : ∃ passes, List.Forall₂ c.Enters passes hub.outside.calls ∧
    (∀ stream, passes.filter (fun pass => pass.event.stream = stream) =
      c.passes ((hub.store 0).read stream)) ∧
    ∀ stream, ∀ e ∈ c.reading (c.aggregateOf stream),
      (passes.filter fun pass => pass.event.stream = stream ∧ pass.projection = e.2).map
        Pass.event = (hub.store 0).read stream

variable {c : Setting ω} {tasks : List (List Errand)} {outside : ω} {inv : ω → Prop} {waits : Prop}
  {stream aggregate : String}

/-! ### The store in the custody of tasks -/

/-- How tasks use the store: a stream whose delivery is at rest was read to its end. -/
def Setting.custody (c : Setting ω) (inv : ω → Prop) (waits : Prop) (tasks : List (List Errand)) :
    Custody (Ledger ω) Progress where
  store := 0
  handler := c.handler
  total := Errand.total tasks
  orderly stream stored := Numbered firstVersion stored ∧
    ∀ event ∈ stored, event.stream = stream ∧ c.Storable tasks event
  rest _ stored := ⟨stored.length + 1, c.passes stored⟩
  during _ _ _ := True
  delivery stream := c.following inv waits stream
  world progress ledger :=
    inv ledger.outside ∧ (∀ stream, ledger.checkpoint stream = (progress stream).checkpoint) ∧
      ∃ passes, List.Forall₂ c.Enters passes ledger.calls ∧ ∀ stream, passes.filter
      (fun pass => pass.event.stream = stream) = (progress stream).passed
  told r := r = .ok ()

theorem lawful_custody : (c.custody inv waits tasks).Lawful where
  relies progress ledger h stream := ⟨h.1, h.2.1 stream⟩
  acts := by
    rintro progress ledger ⟨_, hcheckpoint, passes, henters, hpassed⟩ stream next ledger'
      ⟨hinv, hnext, hothers, more, calls, hmore, hcalls, hentered, hstream⟩
    refine ⟨hinv, fun other => ?_, passes ++ more, ?_, fun other => ?_⟩
    · by_cases hother : other = stream
      · rw [hother, Function.update_self]
        exact hnext
      · rw [Function.update_of_ne hother, hothers other hother]
        exact hcheckpoint other
    · rw [hcalls]
      exact List.rel_append henters hentered
    · rw [List.filter_append, hpassed]
      by_cases hother : other = stream
      · rw [hother, Function.update_self, hmore, List.filter_eq_self.2 fun pass h => decide_eq_true
          (hstream pass h)]
      · rw [Function.update_of_ne hother, List.filter_eq_nil_iff.2, List.append_nil]
        intro pass hpass hsame
        exact hother ((of_decide_eq_true hsame).symm.trans (hstream pass hpass))
  during _ _ _ := trivial

/-- Nothing more is asked of whoever is told of a stream. -/
theorem telling_custody {stored : List Event} :
    (c.custody inv waits tasks).telling stream stored = c.following inv waits stream := by
  simp only [Custody.telling, Setting.custody, and_true]

theorem serves_custody (hreliable : c.Reliable inv waits tasks)
    (hfits : Errand.total tasks + 1 < Nat.pow 2 64) (stream : String)
    (earlier known fresh : List Event) :
    (c.custody inv waits tasks).Serves c.handlers stream earlier known fresh := by
  intro ⟨hnumbered, hstored⟩ hroom hsome
  rw [telling_custody]
  obtain ⟨hcovered, hfresh⟩ := numbered_append.1 hnumbered
  rw [Nat.add_comm] at hfresh
  have hbatch : ∀ event ∈ known ++ fresh, event.stream = stream ∧ c.Storable tasks event := by
    intro event hevent
    rw [List.append_assoc] at hstored
    exact hstored event (List.mem_append_right _ hevent)
  have hknown : ∀ event ∈ known, event.version < (earlier ++ known).length + 1 := by
    intro event hevent
    have hbounds := (hcovered.bounds (List.mem_append_right _ hevent)).2
    rwa [Nat.add_comm] at hbounds
  have hlength : (earlier ++ known ++ fresh).length = (earlier ++ known).length + fresh.length :=
    List.length_append
  have hshort : (earlier ++ known).length + 1 + fresh.length < Nat.pow 2 64 := by
    change (earlier ++ known ++ fresh).length ≤ Errand.total tasks at hroom
    omega
  have haggregate : ∀ event ∈ known ++ fresh, event.aggregate = c.aggregateOf stream := by
    intro event hevent
    obtain ⟨rfl, haggregate, _⟩ := hbatch event hevent
    exact haggregate
  have hread : (c.projector.write stream (known ++ fresh)).Keeps (c.following inv waits stream) _
      ⟨(earlier ++ known).length + 1, c.passes (earlier ++ known)⟩ :=
    keeps_write hsome hknown hfresh (Nat.le_add_left _ _) hshort haggregate
      (fun event h => (hbatch event h).1)
      (fun event h => hreliable.handles event (hbatch event h).2) fun next =>
      hreliable.permits stream next
  refine hread.imp ?_
  rintro _ _ ⟨rfl, rfl⟩
  refine ⟨rfl, ?_⟩
  change _ =
    (⟨(earlier ++ known ++ fresh).length + 1, c.passes (earlier ++ known ++ fresh)⟩ : Progress)
  rw [hlength, passes_append c.toReaders (earlier ++ known), Nat.add_right_comm]

/-! ### Tasks -/

/-- A batch is one of those that were stored, unless it is empty. -/
def Banked (banked : List (String × List Event)) (stream : String) (batch : List Event) : Prop :=
  batch = [] ∨ (stream, batch) ∈ banked

variable {hand : Hand Progress} {errand : Errand} {errands : List Errand} {left : Nat}

theorem orderly_append {store : EventStore} {events : List PendingEvent}
    (hevents : ∃ task ∈ tasks, Errand.append stream events ∈ task)
    (h : (c.custody inv waits tasks).orderly stream (store.read stream)) :
    (c.custody inv waits tasks).orderly stream
      (store.read stream ++ store.batch c.stamps (c.aggregateOf stream) stream events) := by
  refine ⟨numbered_append.2 ⟨h.1, EventStore.numbered_batch⟩, fun event hevent => ?_⟩
  rcases List.mem_append.1 hevent with hold | hnew
  · exact h.2 event hold
  · obtain ⟨task, htask, herrand⟩ := hevents
    have hpending := List.mem_map_of_mem (f := Event.pending) hnew
    rw [EventStore.pending_batch] at hpending
    obtain rfl := EventStore.stream_of_mem_batch hnew
    exact ⟨rfl, EventStore.aggregate_of_mem_batch hnew, task, htask, events, herrand, hpending⟩

/-- A call is answered without fault, and leaves the task with a free hand. -/
theorem keeps_carryOut
    (hserves : ∀ stream earlier known fresh, (c.custody inv waits tasks).Serves c.handlers stream
      earlier known fresh)
    (hgrip : hand.grip = none)
    (hleft : hand.left = errand.size + left) (herrand : ∃ task ∈ tasks, errand ∈ task) :
    (c.carryOut errand).Keeps (c.custody inv waits tasks).discipline
      (fun r hand' => hand'.grip = none ∧ hand'.left = left ∧ hand.banked ⊆ hand'.banked ∧
        errand.Answered (Banked hand'.banked) r) hand := by
  cases errand with
  | append stream events =>
    refine Custody.keeps_append (fun stored batch _ => hserves stream stored [] batch) hgrip hleft
      (fun store h => orderly_append herrand h) ?_ ?_
    · rintro rfl
      exact ⟨hgrip, hleft.trans (Nat.zero_add left), List.Subset.refl _, [], rfl, rfl, Or.inl rfl⟩
    · rintro _ _ batch rfl hpending
      exact ⟨rfl, rfl, List.subset_cons_self _ _, batch, rfl, hpending, Or.inr List.mem_cons_self⟩
  | redeliver stream =>
    have hfree : hand.grip = none ∧ hand.left = left ∧ hand.banked ⊆ hand.banked ∧
        (Errand.redeliver stream).Answered (Banked hand.banked) (.ok []) :=
      ⟨hgrip, hleft.trans (Nat.zero_add left), List.Subset.refl _, rfl⟩
    refine StreamM.Keeps.bind
      (Custody.keeps_redeliver (fun stored => hserves stream [] stored []) hgrip
        ⟨(), rfl, hfree⟩ ?_)
    rintro _ rfl
    exact ⟨(), rfl, hfree⟩

/-- A task has all its calls answered without fault. -/
theorem keeps_task
    (hserves : ∀ stream earlier known fresh, (c.custody inv waits tasks).Serves c.handlers stream
      earlier known fresh)
    (hgrip : hand.grip = none)
    (hleft : hand.left = Errand.sizes errands)
      (herrands : ∀ errand ∈ errands, ∃ task ∈ tasks, errand ∈ task) :
    (c.task errands).Keeps (c.custody inv waits tasks).discipline
      (fun answers hand' => hand'.grip = none ∧ hand.banked ⊆ hand'.banked ∧
        List.Forall₂ (Errand.Answered (Banked hand'.banked)) errands answers) hand := by
  induction errands generalizing hand with
  | nil => exact ⟨hgrip, List.Subset.refl _, .nil⟩
  | cons errand rest ih =>
    obtain ⟨herrand, hrest⟩ := List.forall_mem_cons.1 herrands
    rw [Errand.sizes, List.map_cons, List.sum_cons] at hleft
    refine Fiber.keeps_bind_iff.2 (Fiber.Keeps.imp (keeps_carryOut hserves hgrip hleft herrand) ?_)
    rintro answer hand₁ ⟨hgrip₁, hleft₁, hbanked₁, hanswered⟩
    refine Fiber.keeps_bind_iff.2 (Fiber.Keeps.imp (ih hgrip₁ hleft₁ hrest) ?_)
    rintro answers hand₂ ⟨hgrip₂, hbanked₂, hanswers⟩
    refine ⟨hgrip₂, List.Subset.trans hbanked₁ hbanked₂, .cons (hanswered.mono ?_) hanswers⟩
    exact fun stream batch h => h.imp id fun hmem => hbanked₂ hmem

/-! ### All tasks together -/

/-- What tasks have in their hands at first: the events that they are to append. -/
def firstHand (tasks : List (List Errand)) (i : Nat) : Hand Progress :=
    ⟨none, [], Errand.sizes (tasks[i]?.getD [])⟩

theorem sum_left_firstHand : ∑ i ∈ Finset.range tasks.length, (firstHand tasks i).left =
    Errand.total tasks := by
  rw [Finset.sum_range, Errand.total, ← Fin.sum_univ_fun_getElem]
  refine Finset.sum_congr rfl fun i _ => ?_
  rw [firstHand, List.getElem?_eq_getElem i.isLt]
  rfl

theorem holds_firstHand (hinv : inv outside) :
    (c.custody inv waits tasks).Holds tasks.length (firstHand tasks) (c.started outside) := by
  have hsubscriber : (c.started outside).subscriber? 0 = some c.handler := by
    change (some c.handler).filter (fun handler => [c.handler].contains handler) = some c.handler
    simp
  refine
    { store := Nat.one_pos
      subscriber := hsubscriber
      kept :=
        { orderly := fun _ => ⟨rfl, fun _ h => absurd h List.not_mem_nil⟩
          short := fun _ => Nat.le_refl 0
          room := ?room
          banked := fun i e he => absurd he List.not_mem_nil
          locked := Custody.locked_nil
          stored := ?stored
          during := fun _ _ _ => trivial
          tracked :=
          ⟨fun _ => ⟨firstVersion, []⟩, ⟨hinv, fun _ => rfl, [], .nil, fun _ => rfl⟩, ?progress,
            fun _ _ => rfl⟩ } }
  case room =>
    change 0 + ∑ i ∈ Finset.range tasks.length, (firstHand tasks i).left ≤ Errand.total tasks
    rw [Nat.zero_add, sum_left_firstHand]
  case stored =>
    rintro i grip ⟨⟩
  case progress =>
    rintro i grip ⟨⟩

/-- A task has come to its end with a free hand and all calls answered. -/
def Finished (tasks : List (List Errand)) (i : Nat)
    (answers : List (Except StreamFault (List Event))) (hand : Hand Progress) : Prop :=
  hand.grip = none ∧
    ∀ errands,
      tasks[i]? = some errands → List.Forall₂ (Errand.Answered (Banked hand.banked)) errands answers

theorem together_begin (hreliable : c.Reliable inv waits tasks) (hinv : inv outside)
    (hfits : Errand.total tasks + 1 < Nat.pow 2 64) :
    Fiber.Together (c.custody inv waits tasks).discipline (Finished tasks)
      ((c.custody inv waits tasks).Holds tasks.length) (firstHand tasks) (tasks.map c.task)
      (c.started outside) := by
  refine ⟨fun i fiber hi => ?_, holds_firstHand hinv⟩
  rw [List.getElem?_map, Option.map_eq_some_iff] at hi
  obtain ⟨errands, hget, rfl⟩ := hi
  have hleft : (firstHand tasks i).left = Errand.sizes errands := by
    rw [firstHand, hget]
    rfl
  refine (keeps_task (serves_custody hreliable hfits) rfl hleft fun errand herrand =>
    ⟨errands, List.mem_of_getElem? hget, herrand⟩).imp ?_
  rintro answers hand ⟨hgrip, _, hanswers⟩
  refine ⟨hgrip, fun other hother => ?_⟩
  obtain rfl := Option.some.inj (hget.symm.trans hother)
  exact hanswers

/-- When all tasks have come to their ends, nobody holds a stream, so that every stream was read to
its end. -/
theorem complete_of_holds {hands : Nat → Hand Progress} {hub : Hub (Ledger ω)}
    {answers : List (List (Except StreamFault (List Event)))}
    (hlength : answers.length = tasks.length)
    (hholds : (c.custody inv waits tasks).Holds tasks.length hands hub)
    (hfinished : ∀ i a, answers[i]? = some a → Finished tasks i a (hands i)) :
    Complete c tasks answers hub := by
  have hnobody : (hub.store 0).held = [] := hholds.kept.locked.held_eq_nil fun i hi =>
    Option.map_eq_none_iff.2 (hfinished i _ (List.getElem?_eq_getElem (hlength ▸ hi))).1
  obtain ⟨progress, ⟨_, hcheckpoint, passes, henters, hpassed⟩, _, hrest⟩ := hholds.kept.tracked
  have hread : ∀ stream, progress stream =
      ⟨((hub.store 0).read stream).length + 1, c.passes ((hub.store 0).read stream)⟩ := by
    intro stream
    refine hrest stream fun hheld => ?_
    rw [show (hub.store (c.custody inv waits tasks).store).held = [] from hnobody] at hheld
    cases hheld
  have hstream : ∀ stream, passes.filter (fun pass => pass.event.stream = stream) =
      c.passes ((hub.store 0).read stream) := by
    intro stream
    rw [hpassed, hread]
  refine
    { answered := ?answered
      numbered := fun stream => (hholds.kept.orderly stream).1
      stored := fun stream => (hholds.kept.orderly stream).2
      checkpoint := fun stream => ?checkpoint
      passed := ⟨passes, henters, hstream, fun stream e he => ?once⟩ }
  case answered =>
    refine List.forall₂_iff_get.2 ⟨hlength.symm, fun i hi hi' => ?_⟩
    have hanswers :=
      (hfinished i _ (List.getElem?_eq_getElem hi')).2 _ (List.getElem?_eq_getElem hi)
    refine hanswers.imp fun errand r h => h.mono fun stream batch hbanked => ?_
    rcases hbanked with rfl | hmem
    · exact List.nil_infix
    · exact hholds.kept.banked i (stream, batch) hmem
  case checkpoint => rw [hcheckpoint, hread]
  case once =>
    have haggregate :
        ∀ event ∈ (hub.store 0).read stream, event.aggregate = c.aggregateOf stream := by
      intro event hevent
      obtain ⟨rfl, haggregate, _⟩ := (hholds.kept.orderly stream).2 event hevent
      exact haggregate
    rw [← passes_to he haggregate, ← hstream, passedTo, List.filter_filter]
    simp only [Bool.decide_and, Bool.and_comm]

/-- Whatever turns tasks take, when they are all done, each event was projected exactly once and in
order. If migration, projections and checkpoints do not make them wait, they can always come to
that. -/
theorem projected_exactly_once (c : Setting ω) (tasks : List (List Errand)) (outside : ω)
    (inv : ω → Prop) (waits : Prop) (hreliable : c.Reliable inv waits tasks) (hinv : inv outside)
    (hfits : Errand.total tasks + 1 < Nat.pow 2 64) (turns : List Nat) :
    ((∀ fiber ∈ (c.together tasks outside turns).1, fiber.isDone = true) →
      ∃ answers, (c.together tasks outside turns).1 = answers.map Fiber.done ∧
        Complete c tasks answers (c.together tasks outside turns).2) ∧
    (¬ waits → ∃ more, ∀ fiber ∈ (c.together tasks outside (turns ++ more)).1,
        fiber.isDone = true) := by
  have hcount : (tasks.map c.task).length = tasks.length := List.length_map _
  have hpreserves : (c.custody inv waits tasks).discipline.Preserves (tasks.map c.task).length
      ((c.custody inv waits tasks).Holds tasks.length) := by
    rw [hcount]
    exact Custody.preserves lawful_custody
  obtain ⟨hlength, hands, htogether⟩ :=
    (together_begin hreliable hinv hfits).interleave hpreserves turns
  constructor
  · intro hdone
    obtain ⟨answers, hanswers, hends⟩ := htogether.outcomes hdone
    refine ⟨answers, hanswers, complete_of_holds ?_ htogether.inv hends⟩
    rw [hanswers, List.length_map] at hlength
    exact hlength.trans hcount
  · intro hprompt
    obtain ⟨more, hmore⟩ :=
      htogether.exists_turns (hlength ▸ hpreserves) fun hands hub hholds hstuck => by
      rw [hlength, hcount] at hstuck ⊢
      refine hholds.nobody_waits (fun _ _ _ => hprompt) fun i hi => ?_
      exact (hstuck i hi).imp (fun ⟨_, hfinished⟩ => hfinished.1) id
    refine ⟨more, ?_⟩
    rw [Setting.together, Fiber.interleave, List.foldl_append]
    exact hmore

/-- Two projections of orders, which count their calls; one handles whatever comes, and the other
gives way to others and handles nothing. -/
def Setting.steady : Setting Nat where
  projections :=
    [⟨"Order", fun _ => ExceptT.mk (Fiber.step fun calls => (.ok true, calls + 1))⟩,
      ⟨"Order", fun _ => do
        StreamM.ofFiber (Fiber.pause 1)
        ExceptT.mk (Fiber.step fun calls => (.ok false, calls + 1))⟩]
  migrate := Migration.ofRenames [("Placed", "Ordered")]
  permit _ _ := return ()
  stamps := ⟨fun _ => ⟨0⟩, fun _ => ⟨0, 0⟩⟩
  handler := ⟨0⟩
  aggregateOf _ := "Order"

/-- An order is placed and paid for, while somebody else sends it; both deliver it again. -/
def sampleTasks : List (List Errand) :=
  [[.append "order" [.ofJson "Placed" .null, .ofJson "Paid" .null], .redeliver "order"],
    [.redeliver "order", .append "order" [.ofJson "Sent" .null]]]

/-- Both tasks by turns. -/
def sampleTurns : List Nat := (List.range 100).map (· % 2)

theorem migrate_steady (event : Event) : ∃ current, Setting.steady.migrate event = .ok current := by
  change ∃ current, Migration.ofRenames [("Placed", "Ordered")] event = .ok current
  rw [Migration.ofRenames]
  cases hname : Migration.newName? [("Placed", "Ordered")] event.eventType with
  | none => exact ⟨event, rfl⟩
  | some name =>
    obtain ⟨before, after, hrenames, _⟩ := List.lookup_eq_some_iff.1 hname
    have hrename : (event.eventType, name) ∈ [("Placed", "Ordered")] :=
      (congrArg (_ ∈ ·) hrenames).mpr (List.mem_append_right _ List.mem_cons_self)
    rw [(Prod.mk.inj (List.mem_singleton.1 hrename)).2]
    exact ⟨_, if_neg (by decide)⟩

theorem handles_steady {event : Event} (haggregate : event.aggregate = "Order") :
    Setting.steady.Handles (fun _ => True) False event := by
  obtain ⟨current, hcurrent⟩ := migrate_steady event
  refine ⟨current, hcurrent, ?_⟩
  have hreading :
      (Setting.steady.reading event.aggregate).map Prod.fst = Setting.steady.projections := by
    rw [haggregate]
    rfl
  rw [hreading]
  intro calls _
  refine ⟨nofun, fun _ => ⟨(), trivial, ?_⟩⟩
  intro calls _
  refine ⟨nofun, fun _ => ⟨(), trivial, ?_⟩⟩
  intro calls _
  refine ⟨nofun, fun _ => ⟨(), trivial, ?_⟩⟩
  rfl

theorem reliable_steady (tasks : List (List Errand)) :
    Setting.steady.Reliable (fun _ => True) False tasks :=
  ⟨fun _ hstorable => handles_steady hstorable.1, fun _ _ => rfl⟩

theorem projected_exactly_once_steady : ∃ answers,
    (Setting.steady.together sampleTasks 0 sampleTurns).1 = answers.map Fiber.done ∧
    Complete Setting.steady sampleTasks answers
    (Setting.steady.together sampleTasks 0 sampleTurns).2 ∧
    (Setting.steady.together sampleTasks 0 sampleTurns).2.outside.checkpoint "order" = 4 := by
  have hdone : ∀ fiber ∈ (Setting.steady.together sampleTasks 0 sampleTurns).1,
      fiber.isDone = true := by
    decide +kernel
  obtain ⟨answers, hanswers, hcomplete⟩ :=
    (projected_exactly_once Setting.steady sampleTasks 0 (fun _ => True) False
      (reliable_steady sampleTasks) trivial (by decide) sampleTurns).1 hdone
  exact ⟨answers, hanswers, hcomplete, by decide +kernel⟩

end TenantAuth.Delivery
