import FleetWarden.Membership.Snapshot

/-!
# Rebuilding the membership

A rebuild visits the fleets in the order of their registration. Each is described first, to learn
the name it goes by, and then listed under that name. Reports are taken in as they come, so an
instance that is reported twice keeps the place of its first report and the fleet and id of its
last one. A rebuild that fails yields nothing.
-/

namespace FleetWarden

open Numeral

/-- A registered fleet and the name that it went by at the last rebuild. -/
structure Entry where
  fleet : Fleet
  observedName : String
deriving DecidableEq

namespace Entry

/-- An entry for a fleet; an empty observed name stands for the fleet's own. -/
def make (fleet : Fleet) (observedName : String) : Entry :=
  ⟨fleet, if observedName = "" then fleet.name else observedName⟩

/-- The entry of a fleet that no rebuild has seen yet. -/
def fresh (fleet : Fleet) : Entry := make fleet ""

@[simp] theorem fleet_fresh (fleet : Fleet) : (fresh fleet).fleet = fleet := rfl

@[simp] theorem observedName_fresh (fleet : Fleet) : (fresh fleet).observedName = fleet.name := rfl

end Entry

namespace Rebuild
variable {ρ : Type} (client : Client ρ)

/-- What the reports so far amount to. -/
structure Progress where
  owners : InsertionMap InstanceRef Fleet
  instanceIds : InsertionMap InstanceRef (Option String)
deriving DecidableEq

def Progress.none : Progress := ⟨.empty, .empty⟩

/-- Takes in the report of an instance. -/
def Progress.take (p : Progress) (ref : InstanceRef) (fleet : Fleet) (id : Option String) :
    Progress :=
  ⟨p.owners.put ref fleet, p.instanceIds.put ref id⟩

/-- Reports that an instance changes from one fleet to another. -/
def reportConflict (previous : Option Fleet) (fleet : Fleet) (ref : InstanceRef) : Effect ρ Unit :=
  match previous with
  | some other => if other = fleet then pure () else emit (.conflict ref other fleet)
  | none => pure ()

/-- Takes in the members of a fleet. -/
def takeMembers (fleet : Fleet) : Progress → List Member → Effect ρ Progress
  | p, [] => pure p
  | p, m :: rest =>
    match m.ref? with
    | none => .fail .blankInstance
    | some ref => do
      reportConflict (p.owners.get? ref) fleet ref
      takeMembers fleet (p.take ref fleet m.instanceId) rest

/-- Visits one fleet; answers with the name that it goes by. -/
def visit (fleet : Fleet) (p : Progress) : Effect ρ (Progress × String) := do
  emit (.visiting fleet.name)
  let description ← (client.describe fleet.name).onFailure fun e =>
    emit (.describeFailed fleet.name e.message)
  let members ← (client.list description.name).onFailure fun e =>
    emit (.listFailed fleet.name e.message)
  let p' ← takeMembers fleet p members
  pure (p', description.name)

/-- Visits the fleets one after the other; answers with the names that they go by. -/
def visitAll : Progress → List Fleet → Effect ρ (Progress × List String)
  | p, [] => pure (p, [])
  | p, fleet :: rest => do
    let (p', name) ← visit client fleet p
    let (final, names) ← visitAll p' rest
    pure (final, name :: names)

/-- The snapshot that the reports amount to. -/
def finish (p : Progress) : Effect ρ Snapshot := do
  let now ← Action.look (·.clock)
  match Snapshot.ofMaps? p.owners p.instanceIds now with
  | some snapshot => pure snapshot
  | none => .fail (.raised .value Snapshot.mismatchMessage)

/-- A new snapshot of the given fleets and the names that they go by. -/
def run (fleets : List Fleet) : Effect ρ (Snapshot × List String) := do
  let (p, names) ← visitAll client .none fleets
  let snapshot ← finish p
  pure (snapshot, names)

end Rebuild
end FleetWarden
