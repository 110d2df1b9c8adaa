import FleetWarden.Action
import FleetWarden.Event
import FleetWarden.Fault
import FleetWarden.Numeral.Quantity

/-!
# The world outside

What an operation works on besides its own data: the remote side, the clock, the log, and the
threads that the host can give. Events of the background loop are kept apart from those of the
caller.
-/

namespace FleetWarden

open Numeral

/-- What can be had of threads. -/
structure ThreadHost where
  /-- Whether one more thread can be created. -/
  spawns : Bool
  /-- The longest wait that a thread can begin, in microseconds, if there is one. -/
  longestWait : Option Nat
deriving DecidableEq

namespace ThreadHost

/-- A host that always has one more thread, and whose waits are held in 64 bits of nanoseconds. -/
def standard : ThreadHost := ⟨true, some 9223372036854775⟩

/-- A host on which a wait may be as long as it likes. -/
def patient : ThreadHost := ⟨true, none⟩

/-- Whether a thread can begin a wait of this length, in seconds. -/
def canWait (h : ThreadHost) (interval : Quantity) : Bool :=
  match h.longestWait with
  | some micros => !interval.exceeds micros
  | none => true

end ThreadHost

/-- The remote side, the clock, what was reported by the caller and by the background loop, and the
threads. -/
structure World (ρ : Type) where
  remote : ρ
  /-- Seconds since the epoch. -/
  clock : Binary64
  log : List Event
  loopLog : List Event
  threads : ThreadHost

namespace World
variable {ρ : Type}

/-- A world in which nothing was reported yet. -/
def start (remote : ρ) (clock : Binary64) : World ρ := ⟨remote, clock, [], [], .standard⟩

/-- The same on a host on which waits may be as long as they like. -/
def patient (remote : ρ) (clock : Binary64) : World ρ := ⟨remote, clock, [], [], .patient⟩

/-- Lets time pass. -/
def advance (w : World ρ) (seconds : Binary64) : World ρ :=
  { w with clock := w.clock.add seconds }

/-- Reports an event of the caller. -/
def report (w : World ρ) (e : Event) : World ρ := { w with log := w.log ++ [e] }

/-- Hands the caller's log over to the background loop: what was reported since `before` counts as
reported by the loop. -/
def handOver (before after : World ρ) : World ρ :=
  { after with log := before.log, loopLog := before.loopLog ++ after.log }

end World

/-- An action on the outside world. -/
abbrev Effect (ρ α : Type) := Action (World ρ) Fault α

/-- Reports an event. -/
def emit {ρ : Type} (e : Event) : Effect ρ Unit := Action.change (·.report e)

end FleetWarden
