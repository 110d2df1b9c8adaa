import FleetWarden.CommandLine.Arguments
import FleetWarden.Numeral.Real
import FleetWarden.Numeral.Shortest
import FleetWarden.Text.Word

/-!
# Requests

What the arguments of a command ask for: its help, or to be run with arguments of the right kinds.
Arguments at fault are raised with the command that they were given to, except for a few errors that
arise before the command is known to whoever finds them.
-/

namespace FleetWarden.CommandLine

open Text Numeral

/-- The commands that do something. -/
inductive Verb where
  | sizeGet
  | sizeSet
  | owner
  | members
  | delete
  | cache
  | watch
deriving DecidableEq, Repr

/-- A command with its arguments. -/
inductive Command where
  | sizeGet (fleet : String)
  | sizeSet (fleet : String) (target : Nat)
  | owner (instanceId : String)
  | members (fleet : String)
  | delete (instanceIds : List String) (confirmed : Bool)
  | cache
  /-- Watches for so many seconds, or until interrupted. -/
  | watch (duration : Option Binary64)
deriving DecidableEq, Repr

/-- What arguments ask for. -/
inductive Request where
  | help (command : CommandSpec)
  | run (command : Command)
deriving DecidableEq, Repr

/-- Arguments at fault, and the command that they were given to if the error knows it. -/
structure Misuse where
  error : UsageError
  command? : Option CommandSpec
deriving DecidableEq, Repr

/-- An error in the options of a command. -/
def Misuse.ofOptions (command : CommandSpec) (e : UsageError) : Misuse :=
  ⟨e, if e.isBare then none else some command⟩

namespace Verb

/-- The description of a command. -/
def spec : Verb → CommandSpec
  | sizeGet => sizeGetSpec
  | sizeSet => sizeSetSpec
  | owner => ownerSpec
  | members => membersSpec
  | delete => deleteSpec
  | cache => cacheSpec
  | watch => watchSpec

end Verb

/-- The range that targets and durations lie in, as messages show it. -/
def rangeText : String := "x>=0"

/-- The target that an argument stands for. -/
def readTarget (raw : String) : Except UsageError Nat :=
  match Whole.read raw with
  | .error _ => .error (.badValue "'TARGET'" (quoted raw ++ " is not a valid integer range."))
  | .ok n =>
    if n < 0 then
      .error (.badValue "'TARGET'" (Whole.text n ++ " is not in the range " ++ rangeText ++ "."))
    else .ok n.toNat

/-- The duration that the value of an option stands for; a NaN is in every range. -/
def readDuration (raw : String) : Except UsageError Binary64 :=
  match Real.read? raw with
  | none => .error (.badValue "'--duration'" (quoted raw ++ " is not a valid float range."))
  | some x =>
    if x.lt .zero then
      .error (.badValue "'--duration'" (x.text ++ " is not in the range " ++ rangeText ++ "."))
    else .ok x

/-- The only argument of a command. -/
def readOnly (a : ArgumentSpec) (p : Parsed) : Except UsageError String := do
  let (v, rest) ← takeOne a p.positional
  refuseExtra rest
  pure v

/-- The command that arguments stand for. -/
def Verb.command (p : Parsed) : Verb → Except UsageError Command
  | sizeGet => (readOnly fleetArgument p).map .sizeGet
  | sizeSet => do
    let (fleet, rest) ← takeOne fleetArgument p.positional
    let (raw, extra) ← takeOne targetArgument rest
    let target ← readTarget raw
    refuseExtra extra
    pure (.sizeSet fleet target)
  | owner => (readOnly instanceArgument p).map .owner
  | members => (readOnly fleetArgument p).map .members
  | delete => do
    let ids ← takeSome instancesArgument p.positional
    pure (.delete ids (p.has yesOption))
  | cache => do
    refuseExtra p.positional
    pure .cache
  | watch => do
    let duration ← match p.value? durationOption with
      | some raw => (readDuration raw).map some
      | none => pure none
    refuseExtra p.positional
    pure (.watch duration)

/-- Reads the arguments of a command. -/
def Verb.read (args : List String) (v : Verb) : Except Misuse Request :=
  match v.spec.readArguments args with
  | .error e => .error (.ofOptions v.spec e)
  | .ok p =>
    if p.has helpOption then .ok (.help v.spec)
    else
      match v.command p with
      | .error e => .error ⟨e, some v.spec⟩
      | .ok c => .ok (.run c)

/-- The commands of the group for sizes. -/
def sizeVerbs : List (String × Verb) := [("get", .sizeGet), ("set", .sizeSet)]

/-- A command of the program: one that does something, or the group for sizes. -/
inductive Topic where
  | size
  | verb (v : Verb)
deriving DecidableEq, Repr

/-- The commands of the program by name. -/
def topics : List (String × Topic) :=
  [("cache", .verb .cache), ("delete", .verb .delete), ("members", .verb .members),
   ("owner", .verb .owner), ("size", .size), ("watch", .verb .watch)]

end FleetWarden.CommandLine
