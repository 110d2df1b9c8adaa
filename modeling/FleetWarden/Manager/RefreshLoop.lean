import FleetWarden.Cloud.World

/-!
# The refresh loop

A loop refreshes at once when it is started and then after each wait of one interval. A failed
refresh is remembered and does not end the loop, but a wait that cannot be begun does. A loop that
was stopped cannot be started again, also if it had not been started before; neither can one whose
thread could not be created.
-/

namespace FleetWarden

open Numeral

/-- Where a loop stands: not started, without the thread that it was to be started with, waiting for
its next refresh, or ended. -/
inductive LoopStage where
  | idle
  | threadless
  | waiting
  | ended
deriving DecidableEq, Repr

/-- Whether there is or was a thread of the loop. -/
def LoopStage.hasThread : LoopStage → Bool
  | idle => false
  | threadless => false
  | waiting => true
  | ended => true

/-- Why a loop cannot be made, started or stopped. -/
inductive LoopError where
  | badInterval (interval : Quantity)
  | afterStop
  | alreadyStarted
  /-- The interval is too large to be reported. -/
  | intervalOverflow
  /-- No thread can be created. -/
  | noThread
  /-- The end of a thread is waited for that could not be created. -/
  | neverBegun
deriving DecidableEq

namespace LoopError

def message : LoopError → String
  | badInterval interval => "Refresh interval must be positive, got " ++ interval.text
  | afterStop => "Periodic refresh cannot be restarted after stop"
  | alreadyStarted => "Periodic refresh already started"
  | intervalOverflow => "int too large to convert to float"
  | noThread => "can't start new thread"
  | neverBegun => "cannot join thread before it is started"

def kind : LoopError → ErrorKind
  | intervalOverflow => .other "OverflowError"
  | noThread => .other "RuntimeError"
  | neverBegun => .other "RuntimeError"
  | _ => .refresh

end LoopError

/-- A loop with the history of its refreshes. -/
structure RefreshLoop where
  interval : Quantity
  stage : LoopStage
  stopped : Bool
  /-- The refreshes tried so far. -/
  ticks : Nat
  /-- When the latest successful refresh ended. -/
  lastSuccess : Option Binary64
  /-- Why the latest refresh failed, if it did. -/
  lastError : Option Fault
  /-- The lengths of the waits begun so far. -/
  waits : List Quantity
deriving DecidableEq

namespace RefreshLoop

/-- A loop that is not started yet. -/
def fresh (interval : Quantity) : RefreshLoop := ⟨interval, .idle, false, 0, none, none, []⟩

/-- A new loop; its interval must be positive. -/
def make (interval : Quantity) : Except LoopError RefreshLoop :=
  if interval.atMostZero then .error (.badInterval interval)
  else .ok (fresh interval)

/-- Whether the loop goes on refreshing. -/
def isRunning (l : RefreshLoop) : Bool := l.stage = .waiting

/-- Checks that the loop may be started. -/
def checkStart (l : RefreshLoop) : Except LoopError Unit :=
  if l.stopped then .error .afterStop
  else if l.stage ≠ .idle then .error .alreadyStarted
  else .ok ()

/-- Takes note of a refresh that ended at the given time. -/
def noteTick (l : RefreshLoop) (now : Binary64) : Except Fault Unit → RefreshLoop
  | .ok _ => { l with ticks := l.ticks + 1, lastSuccess := some now, lastError := none }
  | .error e => { l with ticks := l.ticks + 1, lastError := some e }

/-- Begins a wait. A loop that was stopped in the meantime ends instead of going on, and so does one
whose wait is too long for its thread. -/
def beginWait (threads : ThreadHost) (l : RefreshLoop) : RefreshLoop :=
  { l with
    stage := if !l.stopped && threads.canWait l.interval then .waiting else .ended
    waits := l.waits ++ [l.interval] }

/-- Stops the loop: a wait ends at once. -/
def stop (l : RefreshLoop) : RefreshLoop :=
  { l with stopped := true, stage := if l.stage = .waiting then .ended else l.stage }

end RefreshLoop
end FleetWarden
