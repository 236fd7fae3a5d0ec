import TenantAuth.Stream.Checkpoint
import TenantAuth.Stream.Event

/-!
Stores of event streams that tell a handler what was stored.

Events are appended in batches and numbered without gaps. A store has at most one subscribed
handler, which it tells of each batch before the append ends, and of a whole stream when that is
asked for. Both happen stream by stream: whoever appends or delivers holds the stream, and others
wait for it. A store does not keep its handler alive; one that nobody else refers to counts as
unsubscribed.
-/

namespace TenantAuth

/-- What identifies a handler of events. -/
structure HandlerId where
  number : Nat
  deriving DecidableEq

/-- A store: its streams, the streams that are held, its subscriber, and the number of events
stored. -/
structure EventStore where
  streams : List (String × List Event)
  held : List String
  subscriber : Option HandlerId
  count : Nat

namespace EventStore

/-- A store in which nothing was stored. -/
def empty : EventStore := ⟨[], [], none, 0⟩

/-- The events of a stream. -/
def read (store : EventStore) (stream : String) : List Event :=
    (store.streams.lookup stream).getD []

/-- The store with other events in a stream. -/
def replace (store : EventStore) (stream : String) (events : List Event) : EventStore :=
  { store with streams := (stream, events) :: store.streams.filter fun e => e.1 ≠ stream }

/-- What new events are stamped with, by their number in the store. -/
structure Stamps where
  eventId : Nat → Uuid
  persistedAt : Nat → Instant

/-- The events of a batch in their places, from a version and a number in the store on. -/
def place (stamps : Stamps) (persistedAt : Instant) (aggregate stream : String)
    (version number : Nat) : List PendingEvent → List Event
  | [] => []
  | e :: rest =>
    e.store (stamps.eventId number) aggregate stream version persistedAt ::
      place stamps persistedAt aggregate stream (version + 1) (number + 1) rest

/-- Store a batch at the end of a stream. -/
def append (stamps : Stamps) (aggregate stream : String) (events : List PendingEvent)
    (store : EventStore) : List Event × EventStore :=
  let stored := store.read stream
  let batch :=
    place stamps (stamps.persistedAt store.count) aggregate stream
      (stored.length + 1) store.count events
  (batch, { store.replace stream (stored ++ batch) with count := store.count + events.length })

/-- Whether nobody holds a stream. -/
def isFree (stream : String) (store : EventStore) : Bool := !store.held.contains stream

/-- Hold a stream. -/
def hold (stream : String) (store : EventStore) : EventStore :=
    { store with held := stream :: store.held }

/-- Let go of a stream. -/
def release (stream : String) (store : EventStore) : EventStore :=
  { store with held := store.held.erase stream }

end EventStore

/-- Several stores, the handlers that someone refers to, and what handlers work on. -/
structure Hub (κ : Type) where
  stores : List EventStore
  alive : List HandlerId
  outside : κ

/-- What handlers do with a batch of events of a stream. -/
abbrev Handlers (κ : Type) := HandlerId → (stream : String) → List Event → StreamM κ Unit

namespace Hub

variable {κ α : Type}

/-- The store of a number. -/
def store (hub : Hub κ) (i : Nat) : EventStore := hub.stores[i]?.getD EventStore.empty

/-- Change the store of a number. -/
def modifyStore (i : Nat) (f : EventStore → EventStore) (hub : Hub κ) : Hub κ :=
  { hub with stores := hub.stores.modify i f }

/-- Subscribe a handler to a store, in the place of the one before. -/
def subscribe (i : Nat) (handler : HandlerId) (hub : Hub κ) : Hub κ :=
  hub.modifyStore i fun store => { store with subscriber := some handler }

/-- Leave a store without subscriber. -/
def unsubscribe (i : Nat) (hub : Hub κ) : Hub κ :=
  hub.modifyStore i fun store => { store with subscriber := none }

/-- The subscriber of a store, while someone refers to it. -/
def subscriber? (hub : Hub κ) (i : Nat) : Option HandlerId :=
  (hub.store i).subscriber.filter fun handler => hub.alive.contains handler

/-- Drop the last reference to a handler. -/
def drop (handler : HandlerId) (hub : Hub κ) : Hub κ :=
  { hub with alive := hub.alive.filter fun other => other ≠ handler }

/-- A course of action of a handler. -/
def handled (m : StreamM κ α) : StreamM (Hub κ) α :=
    m.zoom Hub.outside fun outside hub => { hub with outside }

/-- Tell the subscriber of a store of events, if there is one. -/
def notify (handlers : Handlers κ) (i : Nat) (stream : String) (events : List Event) :
    StreamM (Hub κ) Unit := do
  match ← StreamM.ofFiber (Fiber.look fun hub => hub.subscriber? i) with
  | some handler => handled (handlers handler stream events)
  | none => return ()

/-- Do something while holding a stream, and let go of it whatever comes out. -/
def holding (i : Nat) (stream : String) (m : StreamM (Hub κ) α) : StreamM (Hub κ) α := do
  StreamM.ofFiber
    (Fiber.await (fun hub => (hub.store i).isFree stream) (modifyStore i (EventStore.hold stream)))
  let outcome ← StreamM.ofFiber m.run
  StreamM.ofFiber (Fiber.change (modifyStore i (EventStore.release stream)))
  liftExcept outcome

/-- Append a batch to a stream of a store and tell the subscriber of it. The events stay stored even
if the subscriber ends in a fault. -/
def append (handlers : Handlers κ) (stamps : EventStore.Stamps) (i : Nat)
    (aggregate stream : String) (events : List PendingEvent) : StreamM (Hub κ) (List Event) :=
  if events.isEmpty then return []
  else holding i stream do
    let batch ← StreamM.ofFiber (Fiber.step fun hub =>
      let (batch, store) := (hub.store i).append stamps aggregate stream events
      (batch, hub.modifyStore i fun _ => store))
    notify handlers i stream batch
    return batch

/-- Tell the subscriber of a store of a whole stream. -/
def redeliver (handlers : Handlers κ) (i : Nat) (stream : String) : StreamM (Hub κ) Unit :=
  holding i stream do
    let events ← StreamM.ofFiber (Fiber.look fun hub => (hub.store i).read stream)
    if events.isEmpty then return () else notify handlers i stream events

end Hub

end TenantAuth
