import TenantAuth.Identifier
import TenantAuth.Json.Record
import TenantAuth.Stream.Fault
import TenantAuth.Time.Rfc3339

/-!
Events of streams.

A stream holds what happened to one root aggregate, numbered from one. An event that is about to be
stored has a type, data and metadata; storing adds where and when it stands.
-/

namespace TenantAuth

/-- An event that is about to be stored. -/
structure PendingEvent where
  eventType : String
  data : Json
  metadata : Json

/-- An event of a stream. -/
structure Event where
  id : Uuid
  aggregate : String
  stream : String
  version : Nat
  eventType : String
  data : Json
  metadata : Json
  persistedAt : Instant

namespace PendingEvent

/-- An event without metadata. -/
def ofJson (eventType : String) (data : Json) : PendingEvent := ⟨eventType, data, .null⟩

/-- An event of typed data, which may refuse to be written. -/
def ofData (eventType : String) (written : Except String Json) : Except StreamFault PendingEvent :=
  match written with
  | .ok data => .ok (ofJson eventType data)
  | .error cause => .error (.serializationFailed eventType cause)

/-- An event with other metadata. -/
def withMetadata (e : PendingEvent) (metadata : Json) : PendingEvent := { e with metadata }

/-- An event as JSON. -/
def toJson (e : PendingEvent) : Json :=
  Json.ofFields [("event_type", .string e.eventType), ("data", e.data), ("metadata", e.metadata)]

/-- An event from JSON. -/
def ofJson? (v : Json) : Option PendingEvent := do
  let fields ← Json.record? ["event_type", "data", "metadata"] v
  let eventType ← Json.required? Json.string? "event_type" fields
  let data ← Json.required? some "data" fields
  let metadata ← Json.required? some "metadata" fields
  return ⟨eventType, data, metadata⟩

/-- The event with its place in a stream. -/
def store (e : PendingEvent) (id : Uuid) (aggregate stream : String) (version : Nat)
    (persistedAt : Instant) :
    Event :=
  ⟨id, aggregate, stream, version, e.eventType, e.data, e.metadata, persistedAt⟩

end PendingEvent

namespace Event

/-- The typed data of an event. -/
def dataAs {α : Type} (read : Json → Except String α) (e : Event) : Except StreamFault α :=
  (read e.data).mapError fun cause => .deserializationFailed e.eventType cause

/-- An event as JSON. -/
def toJson (e : Event) : Json :=
  Json.ofFields [("id", e.id.toJson), ("root_aggregate_type", .string e.aggregate),
    ("stream_name", .string e.stream), ("version", Json.ofNat e.version),
    ("event_type", .string e.eventType),
    ("data", e.data), ("metadata", e.metadata), ("last_persisted_at", e.persistedAt.toJson)]

/-- An event from JSON. -/
def ofJson? (v : Json) : Option Event := do
  let fields ← Json.record? ["id", "root_aggregate_type", "stream_name", "version",
    "event_type", "data", "metadata", "last_persisted_at"] v
  let id ← Json.required? Uuid.ofJson? "id" fields
  let aggregate ← Json.required? Json.string? "root_aggregate_type" fields
  let stream ← Json.required? Json.string? "stream_name" fields
  let version ← Json.required? Json.unsigned? "version" fields
  let eventType ← Json.required? Json.string? "event_type" fields
  let data ← Json.required? some "data" fields
  let metadata ← Json.required? some "metadata" fields
  let persistedAt ← Json.required? Instant.ofJson? "last_persisted_at" fields
  return ⟨id, aggregate, stream, version, eventType, data, metadata, persistedAt⟩

end Event

end TenantAuth
