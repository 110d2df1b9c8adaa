import FleetWarden.Manager.RefreshLoop
import FleetWarden.Membership.Rebuild

/-!
# A manager and its world

A system is everything that one manager works on: the registry, the current snapshot, the refresh
loop and the world outside. Actions of the background loop run on the same system, one at a time
with those of the caller.
-/

namespace FleetWarden

open Numeral

/-- A manager with its world. -/
structure System (ρ : Type) where
  entries : List Entry
  snapshot : Snapshot
  /-- How often the snapshot was replaced. -/
  rebuilds : Nat
  loop : RefreshLoop
  world : World ρ

/-- An operation of a manager. -/
abbrev Operation (ρ α : Type) := Action (System ρ) Fault α

/-- An action on the outside world as an operation. -/
def Effect.lift {ρ α : Type} (x : Effect ρ α) : Operation ρ α :=
  Action.within (·.world) (fun s w => { s with world := w }) x

namespace System
variable {ρ : Type}

/-- A manager that tracks nothing yet. -/
def start (loop : RefreshLoop) (world : World ρ) : System ρ := ⟨[], .empty, 0, loop, world⟩

def report (s : System ρ) (e : Event) : System ρ := { s with world := s.world.report e }

/-- One round of the loop: a refresh in the background, noted whatever comes of it. -/
def tick (refresh : Operation ρ Unit) (s : System ρ) : System ρ :=
  let quiet := { s with world := { s.world with log := [] } }
  let (outcome, after) := refresh quiet
  let noted := { after with loop := after.loop.noteTick after.world.clock outcome }
  let told := match outcome with
    | .ok _ => noted
    | .error e => noted.report (.tickFailed e.message)
  { told with
    loop := told.loop.beginWait told.world.threads
    world := s.world.handOver told.world }

/-- The loop is given a thread that cannot be created. -/
def withoutThread (s : System ρ) : System ρ :=
  { s with loop := { s.loop with stage := .threadless } }

/-- Creates the loop's thread, which makes its first round at once. -/
def beginLoop (refresh : Operation ρ Unit) : Action (System ρ) LoopError Unit := do
  let spawns ← Action.look (·.world.threads.spawns)
  if spawns then Action.change (tick refresh)
  else do
    Action.change withoutThread
    Action.fail .noThread

/-- Starts the loop; its interval is told when it has begun. -/
def startLoop (refresh : Operation ρ Unit) : Action (System ρ) LoopError Unit := do
  let loop ← Action.look (·.loop)
  Action.ofExcept loop.checkStart
  beginLoop refresh
  match loop.interval.wholeText? with
  | some text => Action.change (·.report (.loopStarted text))
  | none => .fail .intervalOverflow

/-- Lets a waiting loop do one more round. -/
def wake (refresh : Operation ρ Unit) (s : System ρ) : System ρ :=
  if s.loop.isRunning then tick refresh s else s

/-- Whether a stop waits for a thread that could not be created. -/
def joinsNone (s : System ρ) : Bool := !s.loop.stopped && s.loop.stage = .threadless

/-- The system after its loop was stopped for good. -/
def stopLoop (s : System ρ) : System ρ :=
  if s.loop.stopped then s
  else if s.joinsNone then { s with loop := s.loop.stop }
  else { s with loop := s.loop.stop }.report .loopStopped

/-- Stops the loop for good and waits for its thread to end. -/
def shutDown : Action (System ρ) LoopError Unit := fun s =>
  (if s.joinsNone then .error .neverBegun else .ok (), s.stopLoop)

end System
end FleetWarden
