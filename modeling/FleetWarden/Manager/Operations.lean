import FleetWarden.Manager.System

/-!
# Operations of the manager

Lookups read through the current snapshot: a miss makes one rebuild. Deletions are resolved in one
snapshot and refused unless all targets belong to one fleet. A rebuild is committed as a whole:
either snapshot and observed names both change or neither does.
-/

namespace FleetWarden

open Numeral

namespace System
variable {ρ : Type}

/-- The tracked fleets in the order of their registration. -/
def fleets (s : System ρ) : List Fleet := s.entries.map (·.fleet)

/-- The name that a fleet went by at the last rebuild; fleets that are not registered go by their
own. -/
def observedName (s : System ρ) (fleet : Fleet) : String :=
  match s.entries.find? (·.fleet = fleet) with
  | some entry => entry.observedName
  | none => fleet.name

/-- Tracks a fleet; one that is tracked already is tracked twice. -/
def register (fleet : Fleet) (s : System ρ) : System ρ :=
  { s with entries := s.entries ++ [Entry.fresh fleet] }.report (.registered fleet.name)

/-- Commits a rebuild. -/
def commit (snapshot : Snapshot) (names : List String) (s : System ρ) : System ρ :=
  { s with
    entries := s.entries.zipWith (fun entry name => { entry with observedName := name }) names
    snapshot
    rebuilds := s.rebuilds + 1 }

end System

/-- Why a manager's loop is not started, or broke off while it was being started. What the loop
refuses, the manager refuses in its own name. -/
inductive StartError where
  | refused (reason : LoopError)
  | broke (reason : LoopError)
deriving DecidableEq

namespace StartError

/-- The error of a loop as its manager passes it on. -/
def ofLoop (e : LoopError) : StartError := if e.kind = .refresh then refused e else broke e

def kind : StartError → ErrorKind
  | refused _ => .manager
  | broke e => e.kind

def message : StartError → String
  | refused e => e.message
  | broke e => e.message

def cause? : StartError → Option ErrorKind
  | refused e => some e.kind
  | broke _ => none

end StartError

namespace Manager
variable {ρ : Type} (client : Client ρ)

def report (e : Event) : Operation ρ Unit := Action.change (·.report e)

/-- Rebuilds the snapshot. -/
def rebuild : Operation ρ Unit := do
  let began ← Action.look (·.world.clock)
  let fleets ← Action.look (·.fleets)
  let (snapshot, names) ← Effect.lift (Rebuild.run client fleets)
  Action.change (·.commit snapshot names)
  let ended ← Action.look (·.world.clock)
  report (.rebuilt snapshot.size fleets.length (ended.sub began))

/-- Rebuilds the snapshot and answers with it. -/
def refresh : Operation ρ Snapshot := do
  rebuild client
  Action.look (·.snapshot)

/-- The fleet that an instance belongs to. -/
def findOwner (ref : InstanceRef) : Operation ρ (Option Fleet) := do
  report (.lookingFor ref)
  let cached ← Action.look (·.snapshot.ownerOf? ref)
  match cached with
  | some fleet => pure (some fleet)
  | none => do
    (rebuild client).onFailure fun e => report (.lookupFailed ref e.message)
    Action.look (·.snapshot.ownerOf? ref)

/-- Reports an event that tells of sizes. A size of too many digits cannot be reported. -/
def reportSizes (sizes : List Value) (e : Event) : Operation ρ Unit :=
  if Value.allWritable sizes then report e else .fail .unwritable

/-- The capacity of a fleet as the remote side has it. -/
def getSize (fleet : Fleet) : Operation ρ Value := do
  report (.sizeAsked fleet.name)
  let description ← Effect.lift (client.describe fleet.name)
  reportSizes [description.capacity] (.sizeAnswered description.capacity)
  pure description.capacity

/-- Changes the capacity of a fleet and waits until that is done. -/
def setSize (fleet : Fleet) (target : Int) : Operation ρ Unit := do
  let current ← Effect.lift (client.describe fleet.name)
  reportSizes [current.capacity, .int target] (.resizing fleet.name current.capacity target)
  Effect.lift (client.update fleet.name target (some current))

/-- The references to members, if all can be made. -/
def refsOf : List Member → Except Fault (List InstanceRef)
  | [] => .ok []
  | m :: rest =>
    match m.ref? with
    | none => .error .blankInstance
    | some ref => (refsOf rest).map (ref :: ·)

/-- The instances of a fleet as the remote side lists them. -/
def fleetInstances (fleet : Fleet) : Operation ρ (List InstanceRef) := do
  let members ← (Effect.lift (client.list fleet.name)).onFailure fun e =>
    report (.directListFailed fleet.name e.message)
  Action.ofExcept (refsOf members)

/-- The first target whose owner is not the given fleet. -/
def stranger? (snapshot : Snapshot) (fleet : Fleet) (targets : List InstanceRef) :
    Option InstanceRef :=
  targets.find? fun ref => snapshot.ownerOf? ref ≠ some fleet

/-- The instance ids of the targets, if all are known. -/
def idsOf (snapshot : Snapshot) : List InstanceRef → Except Fault (List String)
  | [] => .ok []
  | ref :: rest =>
    match snapshot.instanceIdOf? ref with
    | none => .error (.staleId ref)
    | some id => (idsOf snapshot rest).map (id :: ·)

/-- What a deletion comes to in a snapshot: the fleet and the instance ids, or why it is
refused. -/
def resolve (snapshot : Snapshot) (first : InstanceRef) (others : List InstanceRef) :
    Except Fault (Fleet × List String) :=
  match snapshot.ownerOf? first with
  | none => .error (.unmanaged first)
  | some fleet =>
    match stranger? snapshot fleet others with
    | some ref => .error (.crossFleet ref fleet.name ((snapshot.ownerOf? ref).map (·.name)))
    | none => (idsOf snapshot (first :: others)).map (fleet, ·)

/-- The targets without repetitions. -/
def distinct : List InstanceRef → List InstanceRef
  | [] => []
  | ref :: rest => ref :: (distinct rest).filter (· ≠ ref)

/-- The snapshot to resolve a deletion in: the current one if it has all targets, else a new
one. -/
def snapshotCovering (targets : List InstanceRef) : Operation ρ Snapshot := do
  let current ← Action.look (·.snapshot)
  if targets.all current.contains then pure current
  else do
    rebuild client
    Action.look (·.snapshot)

/-- Deletes instances that belong to one fleet. -/
def deleteInstances (targets : List InstanceRef) : Operation ρ Unit :=
  match distinct targets with
  | [] => pure ()
  | first :: others => do
    let snapshot ← snapshotCovering client (first :: others)
    let (fleet, ids) ← Action.ofExcept (resolve snapshot first others)
    report (.deleting ids.length fleet.name)
    Effect.lift (client.delete fleet.name ids)

/-- Starts the refresh loop. -/
def startLoop : Action (System ρ) StartError Unit :=
  (System.startLoop (rebuild client)).mapError .ofLoop

end Manager
end FleetWarden
