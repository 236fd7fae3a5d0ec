import TenantAuth.Json.Printer
import TenantAuth.Stream.Projector
import TenantAuth.Text.Blank

/-!
Projections and checkpoints that follow a script and log what they do, so that a course of
deliveries can be foreseen and followed.
-/

namespace TenantAuth

/-- A projection that follows a script: it refuses some versions, and ignores what it does not
handle. -/
structure ScriptedProjection where
  name : String
  aggregate : String
  handles : Option (List String)
  refuses : List Nat
  pauses : Nat

/-- What scripted projections work on: checkpoints, who refuses, the scripts, and the log. -/
structure Bench where
  table : CheckpointTable
  refusesLoad : Bool
  refusesSave : Bool
  projections : List ScriptedProjection
  log : List String

namespace Bench

/-- The bench with a line in its log. -/
def say (line : String) (b : Bench) : Bench := { b with log := b.log ++ [line] }

/-- Checkpoints on a bench. -/
def checkpoints : Checkpoints Bench where
  load stream := ExceptT.mk (Fiber.step fun b =>
    if b.refusesLoad then (.error (.checkpoint stream "load refused"), b)
    else
      let next := b.table.load stream
      (.ok next, b.say s!"load {stream} {next}"))
  save stream next := ExceptT.mk (Fiber.step fun b =>
    if b.refusesSave then (.error (.checkpoint stream "save refused"), b)
    else
      match b.table.save stream next with
      | .ok table => (.ok (), { b with table }.say s!"save {stream} {next}")
      | .error fault => (.error fault, b))

/-- What a scripted projection does with an event. -/
def follow (p : ScriptedProjection) (e : Event) (b : Bench) : Except StreamFault Bool × Bench :=
  if p.refuses.contains
    e.version then (.error (.projectionFailed p.name s!"refused version {e.version}"), b)
  else if p.handles.all fun types => types.contains e.eventType then
    (.ok true, b.say s!"{p.name} projected {e.stream} {e.version} {e.eventType} {e.data.compact}")
  else (.ok false, b.say s!"{p.name} ignored {e.version} {e.eventType}")

/-- The projection of a number, which follows the script that stands on the bench at the time. -/
def projection (index : Nat) (script : ScriptedProjection) : Projection Bench where
  aggregate := script.aggregate
  project e := do
    let script ← StreamM.ofFiber (Fiber.look fun (b : Bench) => (b.projections[index]?).getD script)
    StreamM.ofFiber (Fiber.pause script.pauses)
    ExceptT.mk (Fiber.step (follow script e))

/-- The projector for scripts. -/
def projector (migrate : Migration) (scripts : List ScriptedProjection) : Projector Bench :=
  ⟨checkpoints, migrate, scripts.mapIdx projection⟩

/-- A handler that only logs what it receives, and may fail after that. -/
def recorder (name : String) (fails : Bool) (stream : String) (events : List Event) :
    StreamM Bench Unit :=
  ExceptT.mk (Fiber.step fun b =>
    let versions := String.ofList (Text.joinWith ',' (events.map fun e => Text.numeral e.version))
    let b := b.say s!"{name} received {stream} {versions}"
    (if fails then .error (.projectionFailed name "recorder") else .ok (), b))

end Bench

end TenantAuth
