import FleetWarden.Manager.System

/-!
# Scripted refreshes

A refresh loop alone, with refreshes that follow a script: each beat says what one refresh does.
Refreshes after the end of the script succeed. A script lets time pass by itself, so the waits may
be as long as they like.
-/

namespace FleetWarden

open Numeral

/-- What one refresh does. -/
inductive Beat where
  | succeed
  /-- Stops the loop from inside. -/
  | stopLoop
  /-- Takes some time. -/
  | take (seconds : Binary64)
  | fail (fault : Fault)
deriving DecidableEq

namespace LoopScript

/-- A loop with the beats that are still to come. -/
abbrev Stage := System (List Beat)

/-- Plays the next beat. -/
def refresh : Operation (List Beat) Unit := fun s =>
  match s.world.remote with
  | [] => (.ok (), s)
  | beat :: rest =>
    let s' := { s with world := { s.world with remote := rest } }
    match beat with
    | .succeed => (.ok (), s')
    | .stopLoop => (.ok (), s'.stopLoop)
    | .take seconds => (.ok (), { s' with world := s'.world.advance seconds })
    | .fail fault => (.error fault, s')

/-- What is done to a loop. -/
inductive Step where
  | start
  | wake
  | stop
  /-- Asks whether this many refreshes were tried. -/
  | hasTicked (count : Int)
deriving DecidableEq

/-- The answer of a step: a truth value for a question. -/
def perform : Step → Action Stage LoopError (Option Bool)
  | .start => do
    System.startLoop refresh
    pure none
  | .wake => do
    Action.change (System.wake refresh)
    pure none
  | .stop => do
    System.shutDown
    pure none
  | .hasTicked count => Action.look fun s => some (count ≤ s.loop.ticks)

/-- What a step reports: its answer, the loop after it, and what was logged. -/
structure Report where
  outcome : Except LoopError (Option Bool)
  loop : RefreshLoop
  log : List Event
  loopLog : List Event

/-- Runs the steps one after the other. -/
def run : List Step → Stage → List Report
  | [], _ => []
  | step :: rest, s =>
    let (outcome, s') := perform step s
    ⟨outcome, s'.loop, s'.world.log, s'.world.loopLog⟩ ::
      run rest { s' with world := { s'.world with log := [], loopLog := [] } }

/-- A loop before its first step. -/
def make (interval : Quantity) (script : List Beat) (clock : Binary64) : Except LoopError Stage :=
  (RefreshLoop.make interval).map fun loop => System.start loop (World.patient script clock)

end LoopScript
end FleetWarden
