import TenantAuth.Stream.Checkpoint
import TenantAuth.Stream.Migration

/-!
Feeding events to the projections of read models.

A batch goes to the projections for the aggregate of its first event. Events that the checkpoint
covers are skipped, and the others have to follow it without a gap. Each is brought up to date and
offered to every projection before the next, and someone has to handle it. The checkpoint moves once
all is done, so that after a fault the batch may be delivered again.
-/

namespace TenantAuth

/-- What builds a read model from the events of one kind of aggregate. It says whether it handled an
event. -/
structure Projection (σ : Type) where
  aggregate : String
  project : Event → StreamM σ Bool

/-- What feeds projections. -/
structure Projector (σ : Type) where
  checkpoints : Checkpoints σ
  migrate : Migration
  projections : List (Projection σ)

namespace Projector

variable {σ : Type}

/-- The version after a version of a stream, if there is one. Versions have 64 bits. -/
def nextVersion (stream : String) (version : Nat) : Except StreamFault Nat :=
  if version + 1 < Nat.pow 2 64 then .ok (version + 1) else .error (.versionOutOfRange stream)

/-- Offer an event to projections in turn, and say whether any of them handled it. -/
def offer (event : Event) : List (Projection σ) → StreamM σ Bool
  | [] => return false
  | projection :: rest => do
    let handled ← projection.project event
    let others ← offer event rest
    return handled || others

/-- Project events from the expected version on, and give the version that is expected next. -/
def project (migrate : Migration) (selected : List (Projection σ)) (stream : String)
    (expected : Nat) : List Event → StreamM σ Nat
  | [] => return expected
  | event :: rest =>
    if event.version < expected then project migrate selected stream expected rest
    else if event.version ≠ expected then throw (.outOfOrder stream expected event.version)
    else do
      let event ← liftExcept (migrate event)
      let handled ← offer event selected
      if handled then do
        let next ← liftExcept (nextVersion stream expected)
        project migrate selected stream next rest
      else throw (.unhandled stream event.eventType event.version)

/-- The projections for an aggregate. -/
def selected (p : Projector σ) (aggregate : String) : List (Projection σ) :=
  p.projections.filter fun projection => projection.aggregate = aggregate

/-- Project a batch of events of one stream. -/
def write (p : Projector σ) (stream : String) : List Event → StreamM σ Unit
  | [] => return ()
  | first :: rest =>
    let selected := p.selected first.aggregate
    if selected.isEmpty then throw (.projectionNotConfigured first.aggregate)
    else do
      let checkpoint ← p.checkpoints.load stream
      let next ← project p.migrate selected stream checkpoint (first :: rest)
      if checkpoint < next then p.checkpoints.save stream next else return ()

end Projector

end TenantAuth
