import TenantAuth.Stream.Fault
import TenantAuth.Stream.Fiber

/-!
How far each stream was projected.

A checkpoint is the version of the next event that is expected, so that a stream of which nothing
was projected stands at one.
-/

namespace TenantAuth

/-- Courses of action on streams, which may end in a fault. -/
abbrev StreamM (σ : Type) := ExceptT StreamFault (Fiber σ)

/-- A course of action as one that may end in a fault. -/
def StreamM.ofFiber {σ α : Type} (fiber : Fiber σ α) : StreamM σ α := ExceptT.lift fiber

/-- A course of action on a part of a larger state. -/
def StreamM.zoom {σ τ α : Type} (get : τ → σ) (set : σ → τ → τ) (m : StreamM σ α) : StreamM τ α :=
  Fiber.zoom get set m.run

/-- The version of the first event of a stream. -/
def firstVersion : Nat := 1

/-- Where checkpoints are kept. -/
structure Checkpoints (σ : Type) where
  load : (stream : String) → StreamM σ Nat
  save : (stream : String) → (next : Nat) → StreamM σ Unit

/-- Checkpoints by the names of streams. -/
abbrev CheckpointTable := List (String × Nat)

namespace CheckpointTable

/-- The checkpoint of a stream. -/
def load (table : CheckpointTable) (stream : String) : Nat :=
    (table.lookup stream).getD firstVersion

/-- The table with another checkpoint for a stream. -/
def insert (table : CheckpointTable) (stream : String) (next : Nat) : CheckpointTable :=
  (stream, next) :: table.filter fun e => e.1 ≠ stream

/-- The table with a checkpoint saved, which cannot lie before the first version. -/
def save (table : CheckpointTable) (stream : String) (next : Nat) :
    Except StreamFault CheckpointTable :=
  if next < firstVersion then
    .error (.checkpoint stream s!"version {next} is before the first version")
  else .ok (table.insert stream next)

end CheckpointTable

/-- Checkpoints that are kept in a table. -/
def Checkpoints.inTable : Checkpoints CheckpointTable where
  load stream := StreamM.ofFiber (Fiber.look fun table => table.load stream)
  save stream next := ExceptT.mk (Fiber.step fun table =>
    match table.save stream next with
    | .ok table => (.ok (), table)
    | .error fault => (.error fault, table))

/-- Checkpoints that are kept in a part of a larger state. -/
def Checkpoints.zoom {σ τ : Type} (get : τ → σ) (set : σ → τ → τ) (c : Checkpoints σ) :
    Checkpoints τ where
  load stream := (c.load stream).zoom get set
  save stream next := (c.save stream next).zoom get set

end TenantAuth
