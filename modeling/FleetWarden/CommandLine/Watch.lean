import FleetWarden.CommandLine.Commands

/-!
# Watching

The command that keeps the loop running. It rests for a tenth of a second at a time and looks at
its deadline before each rest. During a rest the loop wakes as often as an interval has passed. The
user may interrupt at the end of a rest. Time is counted in milliseconds from the first rest.
-/

namespace FleetWarden.CommandLine

open Numeral

/-- The length of a rest. -/
def restLength : Nat := 100

/-- A number of milliseconds in seconds. -/
def secondsOf (ms : Nat) : Binary64 := .ofRatio false ms 1000

/-- A number rounded to a natural one, as far as that is possible. -/
def nearestNat? : Binary64 → Option Nat
  | .finite false code => some (Binary64.roundHalfEven (Binary64.units code) Binary64.unitsPerOne)
  | .finite true _ => some 0
  | .infinite _ => none
  | .nan => none

/-- The length of an interval in whole milliseconds, one at least; an interval without end has
none. -/
def period? : Quantity → Option Nat
  | .int n => some (max 1 (1000 * n).toNat)
  | .float x => (nearestNat? (x.mul (.ofNat 1000))).map (max 1)
  | .truth b => some (if b then 1000 else 1)

/-- How many intervals end during a rest that begins at a time. -/
def wakesDuring (period : Option Nat) (ms : Nat) : Nat :=
  match period with
  | some p => (ms + restLength) / p - ms / p
  | none => 0

/-- Whether the deadline has come. -/
def isOver (duration : Option Binary64) (ms : Nat) : Bool :=
  match duration with
  | some d => !(secondsOf ms).lt d
  | none => false

/-- How many rests there are until the user interrupts; there is always one. -/
def restsUntil (interruptAt : Nat) : Nat := max 1 ((interruptAt + restLength - 1) / restLength)

namespace Desk
variable {ρ : Type} (client : Client ρ)

/-- Wakes the loop so many times. -/
def wakeTimes : Nat → System ρ → System ρ
  | 0, s => s
  | n + 1, s => wakeTimes n (System.wake (Manager.rebuild client) s)

/-- Rests until the deadline has come or the user interrupts; tells whether that was so. -/
def rest (period : Option Nat) (duration : Option Binary64) :
    (rests ms : Nat) → System ρ → Bool × System ρ
  | 0, _, s => (true, s)
  | n + 1, ms, s =>
    if isOver duration ms then (false, s)
    else rest period duration n (ms + restLength) (wakeTimes client (wakesDuring period ms) s)

/-- Rests, and stops the loop whatever ended that. -/
def restAndStop (interruptAt : Nat) (duration : Option Binary64) (s : System ρ) : System ρ :=
  let (interrupted, after) :=
    rest client (period? s.loop.interval) duration (restsUntil interruptAt) 0 s
  (if interrupted then after.report .interrupted else after).stopLoop

/-- What an error at the start of the loop comes to. -/
def settleStart (e : StartError) : Stop :=
  if e.kind = .manager then .refused e.message else .escaped (.start e)

/-- Starts the loop of the manager. -/
def startLoop : Act ρ Unit := fun d =>
  match Manager.startLoop client d.system with
  | (.ok _, system) => (.ok (), { d with system })
  | (.error e, system) => (.error (settleStart e), { d with system })

/-- The line that announces a watch. -/
def announcement (s : System ρ) : String :=
  "Refreshing " ++ Whole.text s.fleets.length ++ " scale set(s) every " ++
    (s.loop.interval.wholeText?).getD "" ++ "s. Press Ctrl-C to stop."

/-- The line that closes a watch. -/
def conclusion (l : RefreshLoop) : String :=
  "Stopped after " ++ Whole.text l.ticks ++ " refresh(es)"

/-- Keeps the loop running, and fails if its last refresh did. -/
def watch (interruptAt : Nat) (duration : Option Binary64) : Act ρ Unit := do
  startLoop client
  let started ← Action.look (·.system)
  writeMarkup (announcement started)
  changeSystem (restAndStop client interruptAt duration)
  let ended ← Action.look (·.system.loop)
  writeMarkup (conclusion ended)
  match ended.lastError with
  | some f => .fail (.refused ("Last refresh failed: " ++ f.message))
  | none => pure ()

end Desk

/-- Runs a command. -/
def Command.run {ρ : Type} (client : Client ρ) (interruptAt : Nat) : Command → Desk.Act ρ Unit
  | sizeGet fleet => Desk.sizeGet client fleet
  | sizeSet fleet target => Desk.sizeSet client fleet target
  | owner instanceId => Desk.owner client instanceId
  | members fleet => Desk.members client fleet
  | delete instanceIds confirmed => Desk.delete client instanceIds confirmed
  | cache => Desk.cache client
  | watch duration => Desk.watch client interruptAt duration

end FleetWarden.CommandLine
