import FleetWarden.CommandLine.Desk
import FleetWarden.Console.Table

/-!
# The commands

What each command does at a desk. Fleets are named on the command line up to case; a name that no
registered fleet has stands for a fleet of its own, with no bounds.
-/

namespace FleetWarden.CommandLine

open Text Numeral

namespace Desk
variable {ρ : Type} (client : Client ρ)

/-- The registered fleet of a name, up to case. -/
def registeredFleet? (name : String) (s : System ρ) : Option Fleet :=
  s.fleets.find? fun fleet => lower fleet.name = lower name

/-- The fleet that a name on the command line stands for. -/
def fleetNamed (name : String) : Act ρ Fleet := fun d =>
  match registeredFleet? name d.system with
  | some fleet => (.ok fleet, d)
  | none =>
    match FleetSpec.make name 0 0 with
    | .ok spec => (.ok ⟨d.system.entries.length, spec⟩, d)
    | .error e => (.error (.escaped (.spec e)), d)

/-- Writes the capacity of a fleet. -/
def sizeGet (name : String) : Act ρ Unit := do
  let fleet ← fleetNamed name
  let capacity ← operate (.ofFault ("Failed to get size of " ++ name))
    (Manager.getSize client fleet)
  writeLine capacity.shown

/-- Whether a target lies within the bounds of a fleet; no upper bound means no bounds. -/
def withinBounds (spec : FleetSpec) (target : Nat) : Bool :=
  spec.maxSize = 0 || (spec.minSize ≤ target && target ≤ spec.maxSize)

/-- The text in a colour. -/
def coloured (colour text : String) : String :=
  "[" ++ colour ++ "]" ++ text ++ "[/" ++ colour ++ "]"

/-- The warning about a target outside the bounds of a fleet. -/
def boundsWarning (name : String) (spec : FleetSpec) (target : Nat) : String :=
  coloured "yellow"
    ("Warning: " ++ Whole.text target ++ " is outside the registered bounds " ++
      Whole.text spec.minSize ++ ".." ++ Whole.text spec.maxSize ++ " of " ++ name)

/-- The numbers in the warning about a target outside the bounds of a fleet. -/
def warnedSizes (spec : FleetSpec) (target : Nat) : List Value :=
  [.int target, .int spec.minSize, .int spec.maxSize]

/-- Writes the warning about a target outside the bounds of a fleet. A number of too many digits
cannot be written. -/
def warn (name : String) (spec : FleetSpec) (target : Nat) : Act ρ Unit :=
  if Value.allWritable (warnedSizes spec target) then writeMarkup (boundsWarning name spec target)
  else .fail (.escaped (.fault .unwritable))

/-- Changes the capacity of a fleet, with a warning first if it leaves the bounds. -/
def sizeSet (name : String) (target : Nat) : Act ρ Unit := do
  let fleet ← fleetNamed name
  if withinBounds fleet.spec target then pure ()
  else warn name fleet.spec target
  operate (.ofFault ("Failed to set size of " ++ name)) (Manager.setSize client fleet target)
  writeMarkup (coloured "green" (name ++ " capacity set to " ++ Whole.text target))

/-- A value that is refused in the arguments of a command. -/
def badValue (place : String) (command : CommandSpec) (f : Fault) : Stop :=
  .misused ⟨.badValue place f.message, some command⟩

/-- What a fault of a lookup comes to: a bad value is put down to the argument. -/
def settleLookup (raw : String) (f : Fault) : Stop :=
  if f.kind = .value then badValue instanceArgument.name ownerSpec f
  else .ofFault ("Failed to look up " ++ raw) f

/-- What is written for an instance without an owner. -/
def unmanagedText : String := "unmanaged"

/-- Writes the name of the fleet that an instance belongs to. -/
def owner (raw : String) : Act ρ Unit :=
  match InstanceRef.ofRaw? raw with
  | none => .fail (settleLookup raw .blankInstance)
  | some ref => do
    let fleet ← operate (settleLookup raw) (Manager.findOwner client ref)
    writeLine ((fleet.map (·.name)).getD unmanagedText)

/-- Writes the instances of a fleet. -/
def members (name : String) : Act ρ Unit := do
  let fleet ← fleetNamed name
  let refs ← operate (.ofFault ("Failed to list VMs of " ++ name))
    (Manager.fleetInstances client fleet)
  if refs.isEmpty then writeMarkup ("No VMs in " ++ name)
  else writeLines (refs.map (·.key))

/-- A number of instances in words. -/
def instanceCount (n : Nat) : String := Whole.text n ++ " VM(s)"

/-- Deletes instances, after a question unless that was confirmed beforehand. -/
def delete (raws : List String) (confirmed : Bool) : Act ρ Unit :=
  match raws.mapM InstanceRef.ofRaw? with
  | none => .fail (badValue instancesArgument.name deleteSpec .blankInstance)
  | some refs => do
    if confirmed then pure ()
    else confirm ("Delete " ++ instanceCount refs.length ++ "?")
    operate (.ofFault "Delete failed") (Manager.deleteInstances client refs)
    writeMarkup (coloured "green" ("Deleted " ++ instanceCount refs.length))

/-- The columns of the table that shows a snapshot. -/
def snapshotColumns : List Console.Column :=
  [⟨"Scale set".toList, .left⟩, ⟨"Instance ID".toList, .right⟩, ⟨"VM".toList, .left⟩]

/-- The title of the table that shows a snapshot. -/
def snapshotTitle (s : Snapshot) : String :=
  "Scale set membership (" ++ Whole.text s.size ++ " VMs)"

/-- The table that shows a snapshot. The markup in its cells is read column by column. -/
def snapshotTable (s : Snapshot) : Except Console.MarkupError Console.Table := do
  let names ← s.owners.pairs.mapM fun (_, fleet) => Console.plain fleet.name
  let ids ← s.owners.pairs.mapM fun (ref, _) => Console.plain ((s.instanceIdOf? ref).getD "")
  let keys ← s.owners.pairs.mapM fun (ref, _) => Console.plain ref.key
  let rows := (names.zip (ids.zip keys)).map fun (name, id, key) => [name, id, key]
  pure ⟨(snapshotTitle s).toList, snapshotColumns, rows⟩

/-- Rebuilds the snapshot and shows it as a table. -/
def cache : Act ρ Unit := do
  let snapshot ← operate (.ofFault "Cache rebuild failed") (Manager.refresh client)
  match snapshotTable snapshot with
  | .ok table => changeTerminal (·.write (table.printed Terminal.columns))
  | .error e => .fail (.escaped (.markup e))

end Desk
end FleetWarden.CommandLine
