/-!
Courses of action that share a state.

A fiber is what one task does: actions on the state, one after the other, each of which may have to
wait until the state permits it. Between two actions of a fiber any others may act. A fiber alone
runs to its end, unless it waits for something that nobody else is there to bring about.
-/

namespace TenantAuth

/-- A course of actions on a state of type `σ`, with an outcome of type `α`. An action takes place
when the state is ready for it; what follows depends on the state before it. -/
inductive Fiber (σ α : Type) where
  | done (outcome : α)
  | act (ready : σ → Bool) (effect : σ → σ) (next : σ → Fiber σ α)

namespace Fiber

variable {σ τ α β : Type}

/-- One course after another. -/
def bind : Fiber σ α → (α → Fiber σ β) → Fiber σ β
  | done a, k => k a
  | act ready effect next, k => act ready effect fun s => (next s).bind k

instance : Monad (Fiber σ) where
  pure := done
  bind := bind

/-- One action that is always possible. -/
def step (f : σ → α × σ) : Fiber σ α := act (fun _ => true) (fun s => (f s).2) fun s => done (f s).1

/-- Look at the state. -/
def look (f : σ → α) : Fiber σ α := act (fun _ => true) id fun s => done (f s)

/-- Change the state. -/
def change (f : σ → σ) : Fiber σ Unit := act (fun _ => true) f fun _ => done ()

/-- Change the state as soon as it is ready. -/
def await (ready : σ → Bool) (f : σ → σ) : Fiber σ Unit := act ready f fun _ => done ()

/-- Give way to others a number of times. -/
def pause : Nat → Fiber σ Unit
  | 0 => done ()
  | n + 1 => act (fun _ => true) id fun _ => pause n

/-- A course of actions on a part of a larger state. -/
def zoom (get : τ → σ) (set : σ → τ → τ) : Fiber σ α → Fiber τ α
  | done a => done a
  | act ready effect next =>
    act (fun t => ready (get t)) (fun t => set (effect (get t)) t) fun t =>
      (next (get t)).zoom get set

/-- Carry out a course without others; none if it waits for ever. -/
def run : Fiber σ α → σ → Option (α × σ)
  | done a, s => some (a, s)
  | act ready effect next, s => if ready s then (next s).run (effect s) else none

/-- Carry out the next action, if there is one and the state is ready for it. -/
def advance : Fiber σ α → σ → Option (Fiber σ α × σ)
  | done _, _ => none
  | act ready effect next, s => if ready s then some (next s, effect s) else none

/-- Whether a course has come to its end. -/
def isDone : Fiber σ α → Bool
  | done _ => true
  | act _ _ _ => false

/-! ### Together -/

/-- Let one of several courses carry out its next action. Nothing happens if it cannot. -/
def advanceOne (fibers : List (Fiber σ α)) (s : σ) (i : Nat) : List (Fiber σ α) × σ :=
  match fibers[i]? with
  | none => (fibers, s)
  | some fiber =>
    match fiber.advance s with
    | none => (fibers, s)
    | some (rest, s) => (fibers.set i rest, s)

/-- Carry out several courses, in turns as they are given. -/
def interleave (turns : List Nat) (fibers : List (Fiber σ α)) (s : σ) : List (Fiber σ α) × σ :=
  turns.foldl (fun state i => advanceOne state.1 state.2 i) (fibers, s)

end Fiber

end TenantAuth
