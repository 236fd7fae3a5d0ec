import TenantAuth.Stream.Projector
import TenantAuth.Stream.Store

/-!
Relays, which carry the events of stores to projections.

A relay is a handler. Starting it subscribes it to all its stores, stopping it leaves them without
subscriber; neither has an effect twice in a row.
-/

namespace TenantAuth

/-- A relay over stores. -/
structure Relay where
  handler : HandlerId
  stores : List Nat
  isStarted : Bool
  deriving DecidableEq

namespace Relay

variable {κ : Type}

/-- Start a relay. -/
def start (relay : Relay) (hub : Hub κ) : Relay × Hub κ :=
  if relay.isStarted then (relay, hub)
  else ({ relay with isStarted := true },
    relay.stores.foldl (fun hub i => hub.subscribe i relay.handler) hub)

/-- Stop a relay. -/
def stop (relay : Relay) (hub : Hub κ) : Relay × Hub κ :=
  if relay.isStarted then
    ({ relay with isStarted := false }, relay.stores.foldl (fun hub i => hub.unsubscribe i) hub)
  else (relay, hub)

/-- What a relay does with a batch of events. -/
def handle (projector : Projector κ) (stream : String) (events : List Event) : StreamM κ Unit :=
  projector.write stream events

end Relay

end TenantAuth
