import TenantAuth.Fault

/-!
Why the events of a stream cannot be stored, read or projected.

Trouble with a projection or with a checkpoint may pass, so that delivering the same events again
may succeed. All else stays until someone mends it.
-/

namespace TenantAuth

/-- A fault on the way of events from a store to its projections. -/
inductive StreamFault
  | outOfOrder (stream : String) (expected actual : Nat)
  | projectionNotConfigured (aggregate : String)
  | unhandled (stream eventType : String) (version : Nat)
  | projectionFailed (projection cause : String)
  | checkpoint (stream cause : String)
  | serializationFailed (eventType cause : String)
  | migrationFailed (eventType cause : String)
  | deserializationFailed (eventType cause : String)
  | versionOutOfRange (stream : String)
  deriving DecidableEq

namespace StreamFault

/-- The wording of a fault. -/
def message : StreamFault → String
  | .outOfOrder stream expected actual =>
    s!"Stream {stream} is out of order: expected version {expected}, got {actual}"
  | .projectionNotConfigured aggregate =>
    s!"No projection is configured for aggregate type {aggregate}"
  | .unhandled stream eventType version =>
    s!"No projection handled event {eventType} (stream {stream}, version {version})"
  | .projectionFailed projection cause => s!"Projection {projection} failed: {cause}"
  | .checkpoint stream cause => s!"Checkpoint for stream {stream} failed: {cause}"
  | .serializationFailed eventType cause => s!"Failed to serialize event type {eventType}: {cause}"
  | .migrationFailed eventType cause => s!"Failed to migrate event type {eventType}: {cause}"
  | .deserializationFailed eventType cause =>
    s!"Failed to deserialize event type {eventType}: {cause}"
  | .versionOutOfRange stream => s!"Stream {stream} has no version after its last one"

/-- The code of a fault. -/
def code : StreamFault → String
  | .outOfOrder _ _ _ => "out_of_order"
  | .projectionNotConfigured _ => "projection_not_configured"
  | .unhandled _ _ _ => "unhandled"
  | .projectionFailed _ _ => "projection_failed"
  | .checkpoint _ _ => "checkpoint"
  | .serializationFailed _ _ => "serialization_failed"
  | .migrationFailed _ _ => "migration_failed"
  | .deserializationFailed _ _ => "deserialization_failed"
  | .versionOutOfRange _ => "version_out_of_range"

/-- Whether delivering the same events again may succeed. -/
def isTransient : StreamFault → Bool
  | .projectionFailed _ _ => true
  | .checkpoint _ _ => true
  | _ => false

/-- A fault of a stream as a refusal. -/
def toFault (f : StreamFault) : Fault := .unexpected f.message

end StreamFault

end TenantAuth
