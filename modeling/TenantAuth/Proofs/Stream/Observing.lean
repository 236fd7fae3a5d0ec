import TenantAuth.Proofs.Stream.Discipline
import TenantAuth.Proofs.Stream.Storing

/-!
Calls on a store, and what an observer of its handler sees of them.

Calls append to the streams of a store and deliver streams again; they take turns in any way. Beside
the handler stands an observer, who notes for which call it starts on which events, and what it
comes to. The handler may do whatever it likes. What a call is answered, what was noted of it and
what it left in the store always agree, and nothing that is stored or noted is ever lost.
-/

namespace TenantAuth.Observed

variable {κ α γ : Type}

/-- What is seen of a handler: it starts on events of a stream, for a call of a number, or is done
with them. -/
inductive Note
  | started (call : Nat) (stream : String) (events : List Event)
  | ended (call : Nat) (stream : String) (outcome : Except StreamFault Unit)

namespace Note

/-- The call that a handler works for. -/
def call : Note → Nat
  | started call _ _ => call
  | ended call _ _ => call

/-- The stream that a handler is told of. -/
def stream : Note → String
  | started _ stream _ => stream
  | ended _ stream _ => stream

end Note

/-- What was noted so far, beside what handlers work on. -/
structure Diary (κ : Type) where
  notes : List Note
  outside : κ

namespace Diary

/-- The diary with one more note. -/
def write (note : Note) (diary : Diary κ) : Diary κ := { diary with notes := diary.notes ++ [note] }

/-- The diary when handlers left something else behind. -/
def leave (outside : κ) (diary : Diary κ) : Diary κ := { diary with outside }

theorem isPart_outside : IsPart (Diary.outside (κ := κ)) leave :=
    ⟨fun _ _ => rfl, fun _ _ _ => rfl, fun _ => rfl⟩

end Diary

/-- Handlers with an observer, who notes what they do for a call. -/
def observed (handlers : Handlers κ) (call : Nat) : Handlers (Diary κ) :=
    fun handler stream events => do
  StreamM.ofFiber (Fiber.change (Diary.write (.started call stream events)))
  let outcome ← StreamM.ofFiber
    ((handlers handler stream events).zoom Diary.outside Diary.leave).run
  StreamM.ofFiber (Fiber.change (Diary.write (.ended call stream outcome)))
  liftExcept outcome

/-- A store and others with nothing noted yet. -/
def observe (hub : Hub κ) : Hub (Diary κ) := ⟨hub.stores, hub.alive, ⟨[], hub.outside⟩⟩

/-- A call on a store. -/
inductive Call
  | append (aggregate stream : String) (events : List PendingEvent)
  | redeliver (stream : String)

namespace Call

/-- The stream of a call. -/
def stream : Call → String
  | append _ stream _ => stream
  | redeliver stream => stream

/-- Carry out a call. Only appending has something to answer. -/
def perform (handlers : Handlers κ) (stamps : EventStore.Stamps) (i : Nat) :
    Call → StreamM (Hub κ) (List Event)
  | append aggregate stream events => Hub.append handlers stamps i aggregate stream events
  | redeliver stream => do
    Hub.redeliver handlers i stream
    return []

end Call

/-- Calls that take turns. -/
def interleaved (handlers : Handlers κ) (stamps : EventStore.Stamps) (i : Nat) (calls : List Call)
    (hub : Hub κ) (turns : List Nat) :
    List (Fiber (Hub κ) (Except StreamFault (List Event))) × Hub κ :=
  Fiber.interleave turns (calls.map fun call => (call.perform handlers stamps i).run) hub

/-- Calls that take turns, each with an observer. -/
def together (handlers : Handlers κ) (stamps : EventStore.Stamps) (i : Nat) (calls : List Call)
    (hub : Hub κ) (turns : List Nat) :
    List (Fiber (Hub (Diary κ)) (Except StreamFault (List Event))) × Hub (Diary κ) :=
  Fiber.interleave turns
    (calls.zipIdx.map fun e => (e.1.perform (observed handlers e.2) stamps i).run) (observe hub)

variable {handlers : Handlers κ} {handler : HandlerId} {stamps : EventStore.Stamps}
  {i number count : Nat} {stream : String} {events : List Event} {hub hub' : Hub (Diary κ)}

/-! ### The observer -/

/-- Whatever a handler does, it keeps to a discipline that lets it do anything in between the two
notes. -/
theorem keeps_observed {d : Discipline (Diary κ) γ} {before : γ}
    {ends : Except StreamFault Unit → γ → Prop} (during : γ)
    (hstarts : ∀ diary, d.relies before diary →
      d.acts before diary during (diary.write (.started number stream events)))
    (hwaits : ∀ diary, d.waits during diary)
    (hgoes : ∀ diary outside,
      d.relies during diary → d.acts during diary during (diary.leave outside))
    (hends : ∀ outcome diary, d.relies during diary → ∃ after,
      d.acts during diary after (diary.write (.ended number stream outcome)) ∧ ends outcome after) :
    (observed handlers number handler stream events).Keeps d ends before := by
  refine StreamM.Keeps.bind (StreamM.keeps_change_iff.2 fun diary hrelies =>
    ⟨during, hstarts diary hrelies, (), rfl, ?_⟩)
  have hwithin : Discipline.free.Within d Diary.outside Diary.leave fun _ => during :=
    ⟨fun _ _ _ => trivial, fun _ diary _ outside h _ => hgoes diary outside h, fun _ diary _ _ =>
      hwaits diary⟩
  refine StreamM.Keeps.bind (StreamM.keeps_ofFiber_iff.2 ?_)
  refine Fiber.Keeps.zoom (fun _ => during) hwithin (Fiber.keeps_free.imp fun outcome _ _ => ?_)
  refine ⟨outcome, rfl, StreamM.Keeps.bind (StreamM.keeps_change_iff.2 fun diary hrelies => ?_)⟩
  obtain ⟨after, hacts, hafter⟩ := hends outcome diary hrelies
  exact ⟨after, hacts, (), rfl, StreamM.keeps_liftExcept_iff.2 hafter⟩

/-! ### One call among others -/

/-- How far the delivery of a call got. -/
inductive Stage
  | silent
  | telling (events : List Event)
  | told (events : List Event) (outcome : Except StreamFault Unit)

/-- What is noted of a call whose delivery got so far. -/
def Stage.notes (call : Nat) (stream : String) : Stage → List Note
  | silent => []
  | telling events => [.started call stream events]
  | told events outcome => [.started call stream events, .ended call stream outcome]

/-- What is noted of a call. -/
def notesOf (call : Nat) (notes : List Note) : List Note :=
    notes.filter fun note => note.call = call

theorem notesOf_write {note : Note} {diary : Diary κ} :
    notesOf note.call (diary.write note).notes = notesOf note.call diary.notes ++ [note] := by
  simp [notesOf, Diary.write]

/-- A call while it is carried out: what the streams held when it began, the batch that it stored,
and how far its delivery got. -/
structure Standing where
  number : Nat
  stream : String
  since : String → List Event
  block : List Event
  stage : Stage

/-- The streams of a store and the notes grow by what a call does. -/
structure Grows (i number : Nat) (hub hub' : Hub (Diary κ)) : Prop where
  stores : hub'.stores.length = hub.stores.length
  subscriber : hub'.subscriber? i = hub.subscriber? i
  streams : ∀ stream, (hub.store i).read stream <+: (hub'.store i).read stream
  notes : ∃ more, hub'.outside.notes = hub.outside.notes ++ more ∧ ∀ note ∈ more, note.call = number

/-- What a call can rely on. -/
structure Knows (i : Nat) (handler : HandlerId) (hand : Standing) (hub : Hub (Diary κ)) : Prop where
  store : i < hub.stores.length
  subscriber : hub.subscriber? i = some handler
  since : ∀ stream, hand.since stream <+: (hub.store i).read stream
  block : hand.block <:+: (hub.store i).read hand.stream
  notes : notesOf hand.number hub.outside.notes = hand.stage.notes hand.number hand.stream

/-- What a call may do. -/
structure Does (i : Nat) (handler : HandlerId) (hand : Standing) (hub : Hub (Diary κ))
    (hand' : Standing) (hub' : Hub (Diary κ)) : Prop where
  grows : Grows i hand.number hub hub'
  same : ∃ block stage, hand' = { hand with block, stage }
  knows : Knows i handler hand' hub'

/-- What calls on a store agree on, as far as one of them goes. -/
def conduct (i : Nat) (handler : HandlerId) : Discipline (Hub (Diary κ)) Standing :=
  ⟨Knows i handler, Does i handler, fun _ _ => True⟩

/-- What an observer may note while a call is carried out. -/
def noting : Discipline (Diary κ) Standing where
  relies hand diary := notesOf hand.number diary.notes = hand.stage.notes hand.number hand.stream
  acts hand diary hand' diary' :=
    (∃ more, diary'.notes = diary.notes ++ more ∧ ∀ note ∈ more, note.call = hand.number) ∧
      ∃ stage, hand' = { hand with stage } ∧
        notesOf hand.number diary'.notes = stage.notes hand.number hand.stream
  waits _ _ := True

variable {hand : Standing}

theorem Grows.modify {f : EventStore → EventStore} (hi : i < hub.stores.length)
    (hsubscriber : (f (hub.store i)).subscriber = (hub.store i).subscriber)
    (hread : ∀ stream, (hub.store i).read stream <+: (f (hub.store i)).read stream) :
    Grows i number hub (hub.modifyStore i f) := by
  refine ⟨List.length_modify .., Hub.subscriber?_modifyStore hi hsubscriber i, fun stream => ?_, [],
    (List.append_nil _).symm, fun _ h => absurd h List.not_mem_nil⟩
  rw [Hub.store_modifyStore hi]
  exact hread stream

/-- What a call knows stays true while streams and notes grow, unless it is what was noted of the
call itself. -/
theorem Knows.grow (h : Knows i handler hand hub) (hgrows : Grows i number hub hub')
    (hnotes : notesOf hand.number hub'.outside.notes = notesOf hand.number hub.outside.notes) :
    Knows i handler hand hub' where
  store := hgrows.stores ▸ h.store
  subscriber := hgrows.subscriber.trans h.subscriber
  since stream := (h.since stream).trans (hgrows.streams stream)
  block := h.block.trans (hgrows.streams hand.stream).isInfix
  notes := hnotes.trans h.notes

/-- What another call does changes nothing of what a call knows. -/
theorem Knows.other (h : Knows i handler hand hub) (hgrows : Grows i number hub hub')
    (hne : hand.number ≠ number) :
    Knows i handler hand hub' := by
  refine h.grow hgrows ?_
  obtain ⟨more, hmore, hcall⟩ := hgrows.notes
  have hnone : notesOf hand.number more = [] := by
    refine List.filter_eq_nil_iff.2 fun note hnote hsame => hne ?_
    rw [← hcall note hnote, of_decide_eq_true hsame]
  rw [hmore, notesOf, List.filter_append]
  exact (congrArg (_ ++ ·) hnone).trans (List.append_nil _)

theorem Knows.does_modify {f : EventStore → EventStore} (h : Knows i handler hand hub)
    (hsubscriber : (f (hub.store i)).subscriber = (hub.store i).subscriber)
    (hread : ∀ stream, (f (hub.store i)).read stream = (hub.store i).read stream) :
    Does i handler hand hub hand (hub.modifyStore i f) := by
  have hgrows : Grows i hand.number hub (hub.modifyStore i f) :=
    .modify h.store hsubscriber fun stream => (hread stream).symm ▸ List.prefix_refl _
  exact ⟨hgrows, ⟨_, _, rfl⟩, h.grow hgrows rfl⟩

theorem Knows.does_look (h : Knows i handler hand hub) : Does i handler hand hub hand hub :=
  ⟨⟨rfl, rfl, fun _ => List.prefix_refl _, [], (List.append_nil _).symm,
    fun _ h => absurd h List.not_mem_nil⟩, ⟨_, _, rfl⟩, h⟩

theorem within_outside : (noting (κ := κ)).Within (conduct i handler) Hub.outside
    (fun outside hub => { hub with outside }) id where
  relies _ _ h := h.notes
  acts hand hub hand' diary h := by
    rintro ⟨hmore, stage, rfl, hnotes⟩
    exact ⟨⟨rfl, rfl, fun _ => List.prefix_refl _, hmore⟩, ⟨_, _, rfl⟩, h.store, h.subscriber,
      h.since, h.block, hnotes⟩
  waits _ _ _ _ := trivial

/-- What is done while holding a stream is done as if it were not held. -/
theorem keeps_holding {m : StreamM (Hub (Diary κ)) α}
    {ends : Except StreamFault α → Standing → Prop} (hm : m.Keeps (conduct i handler) ends hand) :
    (Hub.holding i stream m).Keeps (conduct i handler) ends hand := by
  refine StreamM.Keeps.bind (StreamM.keeps_await_iff.2 fun hub hknows => ⟨fun _ => trivial, fun _ =>
    ⟨hand, hknows.does_modify rfl fun _ => rfl, (), rfl, ?_⟩⟩)
  refine StreamM.Keeps.bind (StreamM.keeps_ofFiber_iff.2 (hm.imp fun outcome hand₁ hends => ?_))
  refine ⟨outcome, rfl, StreamM.Keeps.bind (StreamM.keeps_change_iff.2 fun hub₁ hknows₁ => ?_)⟩
  exact ⟨hand₁, hknows₁.does_modify rfl fun _ => rfl, (), rfl, StreamM.keeps_liftExcept_iff.2 hends⟩

theorem noting_write {diary : Diary κ} {note : Note} {stage : Stage} (h : noting.relies hand diary)
    (hcall : note.call = hand.number)
    (hstage : stage.notes hand.number hand.stream = hand.stage.notes hand.number hand.stream ++
      [note]) :
    noting.acts hand diary { hand with stage } (diary.write note) := by
  refine ⟨⟨[note], rfl, List.forall_mem_singleton.2 hcall⟩, stage, rfl, ?_⟩
  rw [hstage, ← hcall, notesOf_write, hcall]
  exact congrArg (· ++ [note]) h

/-- Telling the handler is noted before and after. -/
theorem keeps_notify {ends : Except StreamFault Unit → Standing → Prop}
    (hnumber : hand.number = number) (hstream : hand.stream = stream)
    (hsilent : hand.stage = .silent)
    (hends : ∀ outcome, ends outcome { hand with stage := .told events outcome }) :
    (Hub.notify (observed handlers number) i stream events).Keeps
      (conduct i handler) ends hand := by
  subst hnumber hstream
  refine StreamM.Keeps.bind
    (StreamM.keeps_look_iff.2 fun hub hknows => ⟨hand, hknows.does_look, _, rfl, ?_⟩)
  rw [hknows.subscriber]
  refine StreamM.Keeps.zoom id within_outside
    (keeps_observed { hand with stage := .telling events } ?starts (fun _ => trivial) ?goes ?ends)
  case starts =>
    intro diary hnotes
    refine noting_write hnotes rfl ?_
    rw [hsilent]
    rfl
  case goes =>
    exact fun diary outside hnotes =>
      ⟨⟨[], (List.append_nil _).symm, fun _ h => absurd h List.not_mem_nil⟩, _, rfl, hnotes⟩
  case ends => exact fun outcome diary hnotes => ⟨_, noting_write hnotes rfl rfl, hends outcome⟩

/-- What a call is answered, what was noted of it, and what it left in its stream. -/
def Call.Ended : Call → Except StreamFault (List Event) → Standing → Prop
  | append _ _ events, r, hand =>
    (events = [] ∧ r = .ok [] ∧ hand.stage = .silent) ∨
      events ≠ [] ∧ hand.block.map Event.pending = events ∧
        ∃ outcome, r = outcome.map (fun _ => hand.block) ∧ hand.stage = .told hand.block outcome
  | redeliver stream, r, hand =>
    (hand.since stream = [] ∧ r = .ok [] ∧ hand.stage = .silent) ∨
      ∃ events outcome, events ≠ [] ∧ hand.since stream <+: events ∧ r = outcome.map (fun _ => []) ∧
        hand.stage = .told events outcome

/-- Whoever else is at work, a call is answered as its handler came out. -/
theorem keeps_perform (call : Call) (since : String → List Event) :
    (call.perform (observed handlers number) stamps i).Keeps (conduct i handler) call.Ended
      ⟨number, call.stream, since, [], .silent⟩ := by
  cases call with
  | append aggregate stream pending =>
    by_cases hevents : pending = []
    · subst hevents
      exact Or.inl ⟨rfl, rfl, rfl⟩
    rw [Call.perform, Hub.append, List.isEmpty_eq_false_iff.2 hevents, if_neg Bool.false_ne_true]
    refine keeps_holding (StreamM.Keeps.bind (StreamM.keeps_fiberStep_iff.2 fun hub hknows => ?_))
    have hread :
        ((hub.modifyStore i fun _ =>
          (hub.store i).appended stamps aggregate stream pending).store i).read stream =
            (hub.store i).read stream ++ (hub.store i).batch stamps aggregate stream pending := by
      rw [Hub.store_modifyStore hknows.store, EventStore.read_appended, if_pos rfl]
    have hgrows : Grows i number hub
        (hub.modifyStore i fun _ => (hub.store i).appended stamps aggregate stream pending) :=
      .modify hknows.store rfl fun _ => EventStore.prefix_read_appended
    refine ⟨⟨number, stream, since, (hub.store i).batch stamps aggregate stream pending, .silent⟩,
      ⟨hgrows, ⟨_, _, rfl⟩, ?_⟩, _, rfl, ?_⟩
    · have hstays := hknows.grow hgrows rfl
      exact ⟨hstays.store, hstays.subscriber, hstays.since, hread ▸
        (List.suffix_append _ _).isInfix, hstays.notes⟩
    · refine StreamM.keeps_bind_iff.2 (keeps_notify rfl rfl rfl ?_)
      rintro (fault | _)
      · exact Or.inr ⟨hevents, EventStore.pending_batch, .error fault, rfl, rfl⟩
      · exact Or.inr ⟨hevents, EventStore.pending_batch, .ok (), rfl, rfl⟩
  | redeliver stream =>
    refine StreamM.keeps_bind_iff.2 (keeps_holding ?_)
    refine StreamM.Keeps.bind
      (StreamM.keeps_look_iff.2 fun hub hknows => ⟨_, hknows.does_look, _, rfl, ?_⟩)
    have hsince := hknows.since stream
    split
    · rename_i hempty
      rw [List.isEmpty_iff.1 hempty] at hsince
      exact Or.inl ⟨List.prefix_nil.1 hsince, rfl, rfl⟩
    · rename_i hsome
      refine keeps_notify rfl rfl rfl ?_
      have hne : (hub.store i).read stream ≠ [] := fun hnil => hsome (List.isEmpty_iff.2 hnil)
      rintro (fault | _)
      · exact Or.inr ⟨_, .error fault, hne, hsince, rfl, rfl⟩
      · exact Or.inr ⟨_, .ok (), hne, hsince, rfl, rfl⟩

/-! ### Calls that take turns -/

variable {calls : List Call} {first hands : Nat → Standing} {base : Hub (Diary κ)}

/-- Nothing that was stored or noted is lost. -/
structure Later (i : Nat) (hub hub' : Hub (Diary κ)) : Prop where
  streams : ∀ stream, (hub.store i).read stream <+: (hub'.store i).read stream
  notes : hub.outside.notes <+: hub'.outside.notes

theorem Later.grow (h : Later i base hub) (hgrows : Grows i number hub hub') :
    Later i base hub' := by
  refine ⟨fun stream => (h.streams stream).trans (hgrows.streams stream), h.notes.trans ?_⟩
  obtain ⟨more, hmore, _⟩ := hgrows.notes
  exact ⟨more, hmore.symm⟩

/-- Calls that were under way at some time, and what they know since. -/
structure UnderWay (i : Nat) (handler : HandlerId) (count : Nat) (first : Nat → Standing)
    (base : Hub (Diary κ)) (hands : Nat → Standing) (hub : Hub (Diary κ)) : Prop where
  same : ∀ k < count, ∃ block stage, hands k = { first k with block, stage }
  knows : ∀ k < count, Knows i handler (hands k) hub
  later : Later i base hub

theorem preserves_conduct (hfirst : ∀ k < count, (first k).number = k) :
    (conduct i handler).Preserves count (UnderWay i handler count first base) where
  relies _ _ h := h.knows
  acts := by
    intro hands hub h k hk hand' hub' hdoes
    have hnumber : ∀ j < count, (hands j).number = j := by
      intro j hj
      obtain ⟨_, _, hsame⟩ := h.same j hj
      rw [hsame]
      exact hfirst j hj
    refine ⟨fun j hj => ?_, fun j hj => ?_, h.later.grow hdoes.grows⟩
    all_goals by_cases hjk : j = k
    · subst hjk
      obtain ⟨_, _, hold⟩ := h.same j hj
      obtain ⟨block, stage, hnew⟩ := hdoes.same
      rw [Function.update_self, hnew, hold]
      exact ⟨block, stage, rfl⟩
    · rw [Function.update_of_ne hjk]
      exact h.same j hj
    · subst hjk
      rw [Function.update_self]
      exact hdoes.knows
    · rw [Function.update_of_ne hjk]
      refine (h.knows j hj).other hdoes.grows ?_
      rwa [hnumber j hj, hnumber k hk]

/-- A call that has not begun. -/
def Standing.initial (calls : List Call) (since : String → List Event) (k : Nat) : Standing :=
  ⟨k, ((calls[k]?).map Call.stream).getD "", since, [], .silent⟩

theorem perform_of_getElem? {k : Nat}
    {fiber : Fiber (Hub (Diary κ)) (Except StreamFault (List Event))}
    (hk : (calls.zipIdx.map fun e => (e.1.perform (observed handlers e.2) stamps i).run)[k]? =
      some fiber) :
    ∃ call, calls[k]? = some call ∧ fiber = (call.perform (observed handlers k) stamps i).run := by
  rw [List.getElem?_map, List.getElem?_zipIdx, Option.map_map, Option.map_eq_some_iff] at hk
  obtain ⟨call, hcall, rfl⟩ := hk
  refine ⟨call, hcall, ?_⟩
  rw [Function.comp_apply, Nat.zero_add]

/-- A call with its observer. -/
theorem keeps_first {k : Nat} {since : String → List Event}
    {fiber : Fiber (Hub (Diary κ)) (Except StreamFault (List Event))}
    (hk : (calls.zipIdx.map fun e => (e.1.perform (observed handlers e.2) stamps i).run)[k]? =
      some fiber) :
    fiber.Keeps (conduct i handler)
      (fun r hand => ∀ call, calls[k]? = some call → call.Ended r hand)
      (.initial calls since k) := by
  obtain ⟨call, hcall, rfl⟩ := perform_of_getElem? hk
  have hstream : Standing.initial calls since k = ⟨k, call.stream, since, [], .silent⟩ := by
    rw [Standing.initial, hcall]
    rfl
  rw [hstream]
  refine (keeps_perform call since).imp fun r hand hends other hother => ?_
  obtain rfl := Option.some.inj (hcall.symm.trans hother)
  exact hends

theorem knows_initial {k : Nat} {since : String → List Event} (hstore : i < hub.stores.length)
    (hsubscriber : hub.subscriber? i = some handler)
    (hsince : ∀ stream, since stream <+: (hub.store i).read stream)
    (hnotes : notesOf k hub.outside.notes = []) : Knows i handler (.initial calls since k) hub :=
  ⟨hstore, hsubscriber, hsince, List.nil_infix, hnotes⟩

/-- Courses that carry out calls, each of which knows what was stored when it began or later. -/
def Carried (i : Nat) (handler : HandlerId) (calls : List Call) (since : Nat → String → List Event)
    (base : Hub (Diary κ)) :
    (Nat → Standing) → List (Fiber (Hub (Diary κ)) (Except StreamFault (List Event))) →
      Hub (Diary κ) → Prop :=
  Fiber.Together (conduct i handler)
    (fun k r hand => ∀ call, calls[k]? = some call → call.Ended r hand)
    (UnderWay i handler calls.length (fun k => .initial calls (since k) k) base)

theorem carried_begin {hub : Hub κ} (hstore : i < hub.stores.length)
    (hsubscriber : hub.subscriber? i = some handler) :
    Carried i handler calls (fun _ => (hub.store i).read) (observe hub)
      (.initial calls (hub.store i).read)
      (calls.zipIdx.map fun e => (e.1.perform (observed handlers e.2) stamps i).run)
      (observe hub) := by
  refine ⟨fun k fiber hk => keeps_first hk, fun k _ => ⟨_, _, rfl⟩, fun k _ => ?_,
    fun _ => List.prefix_refl _, List.prefix_refl _⟩
  exact knows_initial hstore hsubscriber (fun _ => List.prefix_refl _) rfl

variable {since : Nat → String → List Event} {stored : String → List Event}
  {fibers : List (Fiber (Hub (Diary κ)) (Except StreamFault (List Event)))} {turns : List Nat}

/-- Whoever has not begun by now can take note of what is stored by now. -/
theorem Carried.resume (h : Carried i handler calls (fun _ => stored) base hands fibers hub)
    (hlength : fibers.length = calls.length)
    (hidle : ∀ k, k ∉ turns → hands k = .initial calls stored k)
    (hfibers : ∀ k, k ∉ turns → fibers[k]? =
      (calls.zipIdx.map fun e => (e.1.perform (observed handlers e.2) stamps i).run)[k]?)
    (hsince : ∀ k, since k = if k ∈ turns then stored else (hub.store i).read) :
    Carried i handler calls since hub (fun k => { hands k with since := since k }) fibers hub := by
  have hbegun : ∀ k < calls.length, k ∈ turns → { hands k with since := since k } = hands k := by
    intro k hk hturn
    obtain ⟨block, stage, hhand⟩ := h.inv.same k hk
    rw [hhand, hsince, if_pos hturn]
    rfl
  have hwaits : ∀ k,
      k ∉ turns → { hands k with since := since k } = .initial calls (hub.store i).read k := by
    intro k hturn
    rw [hidle k hturn, hsince, if_neg hturn]
    rfl
  refine ⟨fun k fiber hk => ?keeps, fun k hk => ?same, fun k hk => ?knows,
    fun _ => List.prefix_refl _, List.prefix_refl _⟩
  case keeps =>
    by_cases hturn : k ∈ turns
    · rw [hbegun k (hlength ▸ (List.getElem?_eq_some_iff.1 hk).1) hturn]
      exact h.keeps k fiber hk
    · rw [hwaits k hturn]
      exact keeps_first ((hfibers k hturn).symm.trans hk)
  case same =>
    obtain ⟨block, stage, hhand⟩ := h.inv.same k hk
    exact ⟨block, stage, congrArg (fun hand : Standing => { hand with since := since k }) hhand⟩
  case knows =>
    have hknows := h.inv.knows k hk
    by_cases hturn : k ∈ turns
    · rwa [hbegun k hk hturn]
    · rw [hidle k hturn] at hknows
      rw [hwaits k hturn]
      exact knows_initial hknows.store hknows.subscriber (fun _ => List.prefix_refl _) hknows.notes

/-- Nothing that was stored or noted is ever lost; and what each call is answered, what was noted of
it and what it left in the store agree. -/
theorem conducted (handlers : Handlers κ) (stamps : EventStore.Stamps) (calls : List Call)
    {hub : Hub κ} (hstore : i < hub.stores.length) (hsubscriber : hub.subscriber? i = some handler)
    (turns more : List Nat) :
    Later i (together handlers stamps i calls hub turns).2
      (together handlers stamps i calls hub (turns ++ more)).2 ∧ ∀ k call, calls[k]? = some call →
        ∃ hand : Standing, hand.number = k ∧ hand.stream = call.stream ∧
        (k ∉ turns → hand.since = ((together handlers stamps i calls hub turns).2.store i).read) ∧
        Knows i handler hand (together handlers stamps i calls hub (turns ++ more)).2 ∧
        ∀ r, (together handlers stamps i calls hub (turns ++ more)).1[k]? = some (.done r) →
        call.Ended r hand := by
  have hcount : (calls.zipIdx.map fun e =>
      (e.1.perform (observed handlers e.2) stamps i).run).length = calls.length := by
    rw [List.length_map, List.length_zipIdx]
  have hpreserves : ∀ (since : Nat → String → List Event) (base : Hub (Diary κ)),
      (conduct i handler).Preserves calls.length
        (UnderWay i handler calls.length (fun k => .initial calls (since k) k) base) :=
    fun _ _ => preserves_conduct fun _ _ => rfl
  have hbegin : Carried i handler calls _ _ _
      (calls.zipIdx.map fun e => (e.1.perform (observed handlers e.2) stamps i).run) _ :=
    carried_begin hstore hsubscriber
  unfold together
  rw [Fiber.interleave_append]
  obtain ⟨hlength, hands, hidle, hnow⟩ := hbegin.interleave_idle (hcount ▸ hpreserves _ _) turns
  -- what is known from here on is what is stored by now
  have hresumed :=
    Carried.resume hnow (hlength.trans hcount) hidle
      (fun k hk => Fiber.getElem?_interleave hk) fun k => rfl
  obtain ⟨_, hands', hthen⟩ := hresumed.interleave ((hlength.trans hcount) ▸ hpreserves _ _) more
  refine ⟨hthen.inv.later, fun k call hcall => ?_⟩
  obtain ⟨block, stage, hhand⟩ := hthen.inv.same k (List.getElem?_eq_some_iff.1 hcall).1
  refine ⟨hands' k, ?_, ?_, fun hturn => ?_, hthen.inv.knows k
    (List.getElem?_eq_some_iff.1 hcall).1, fun r hr => hthen.keeps k _ hr call hcall⟩
  · rw [hhand]
    rfl
  · rw [hhand]
    change ((calls[k]?).map Call.stream).getD "" = call.stream
    rw [hcall]
    rfl
  · rw [hhand]
    exact if_neg hturn

end TenantAuth.Observed
