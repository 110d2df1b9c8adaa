import FleetWarden.Cloud.InMemory
import FleetWarden.Manager.Operations

/-!
# Scenarios

A scenario drives one manager over a remote side in memory, step by step. Fleets are named by
handles. A handle may be bound again, to another fleet; the fleet it was bound to before goes on
existing and is then shown by its name behind a question mark.
-/

namespace FleetWarden

open Numeral

/-- The description that an update is to start from. -/
inductive Basis where
  | fresh
  | withoutBody
  /-- One that was kept under a name; a name that nothing was kept under stands for none. -/
  | kept (name : String)
deriving DecidableEq

/-- One step of a scenario. -/
inductive Step where
  | create (handle name : String) (minSize maxSize : Int)
  | createAndRegister (handle name : String) (minSize maxSize : Int)
  | register (handle : String)
  | registered
  | observed (handle : String)
  | snapshot
  | refresh
  | membersOf (handle : String)
  /-- Runs a step and tells whether the snapshot is the same afterwards. -/
  | sameSnapshot (step : Step)
  | findOwner (raw : String)
  | getSize (handle : String)
  | setSize (handle : String) (target : Int)
  | fleetInstances (handle : String)
  | delete (raws : List String)
  | describe (name : String) (keepAs : Option String)
  | list (name : String)
  | update (name : String) (capacity : Int) (basis : Basis)
  | deleteMembers (name : String) (ids : List String)
  | putSet (set : RemoteSet)
  | removeSet (key : String)
  | remoteState
  | fail (failure : Failure)
  | clearFailures
  | passTime (seconds : Binary64)
  | start
  | wake
  | stop
  | loopState
deriving Inhabited

/-- A snapshot as a scenario shows it: when it was made, and each instance with its owner's handle
and its instance id. -/
structure SnapshotView where
  builtAt : Binary64
  members : List (String × String × Option String)

/-- Why a step has no answer. -/
inductive StepError where
  | fault (f : Fault)
  | spec (e : SpecError)
  | loop (e : LoopError)
  | start (e : StartError)
  | unknownHandle (handle : String)

/-- The answer of a step. -/
inductive Answer where
  | nothing
  | name (s : String)
  | handles (hs : List String)
  | owner (handle : Option String)
  | snapshot (view : SnapshotView)
  | instances (refs : List InstanceRef)
  | capacity (v : Value)
  | description (name : String) (capacity : Value)
  | members (ms : List Member)
  | sets (sets : List RemoteSet)
  | loop (l : RefreshLoop)
  | same (outcome : Except StepError Answer) (unchanged : Bool)

/-- A manager under way, with the names that the steps use. -/
structure Scenario where
  system : System InMemory
  client : Client InMemory
  /-- The handles in the order in which they were first bound. -/
  handles : List (String × Fleet)
  kept : List (String × Description)
  /-- The number of fleets created so far. -/
  created : Nat

namespace Scenario

/-- What a step of a scenario does. -/
abbrev Act (α : Type) := Action Scenario StepError α

/-- An operation of the manager as an act. -/
def operate {α : Type} (x : Operation InMemory α) : Act α := fun s =>
  match x s.system with
  | (.ok a, system) => (.ok a, { s with system })
  | (.error f, system) => (.error (.fault f), { s with system })

/-- A call of the client as an act. -/
def call {α : Type} (x : Client InMemory → Effect InMemory α) : Act α := do
  let client ← Action.look (·.client)
  operate (Effect.lift (x client))

def changeSystem (f : System InMemory → System InMemory) : Act Unit :=
  Action.change fun s => { s with system := f s.system }

def changeRemote (f : InMemory → InMemory) : Act Unit :=
  changeSystem fun s => { s with world := { s.world with remote := f s.world.remote } }

/-- The fleet that a handle is bound to. -/
def fleetOf (handle : String) : Act Fleet := fun s =>
  match s.handles.lookup handle with
  | some fleet => (.ok fleet, s)
  | none => (.error (.unknownHandle handle), s)

/-- The first handle bound to a fleet. -/
def handleOf (s : Scenario) (fleet : Fleet) : String :=
  match s.handles.find? (·.2 = fleet) with
  | some (handle, _) => handle
  | none => "?" ++ fleet.name

/-- Creates a fleet and binds a handle to it. -/
def createFleet (handle name : String) (minSize maxSize : Int) : Act Fleet := fun s =>
  match FleetSpec.make name minSize maxSize with
  | .error e => (.error (.spec e), s)
  | .ok spec =>
    let fleet : Fleet := ⟨s.created, spec⟩
    (.ok fleet, { s with handles := putPair handle fleet s.handles, created := s.created + 1 })

/-- The references that texts stand for. -/
def refsOf : List String → Act (List InstanceRef)
  | [] => pure []
  | raw :: rest =>
    match InstanceRef.ofRaw? raw with
    | none => .fail (.fault .blankInstance)
    | some ref => do
      let refs ← refsOf rest
      pure (ref :: refs)

def viewOf (s : Scenario) (snapshot : Snapshot) : SnapshotView where
  builtAt := snapshot.builtAt
  members := snapshot.owners.pairs.map fun (ref, fleet) =>
    (ref.key, s.handleOf fleet, snapshot.instanceIdOf? ref)

def showSnapshot : Act Answer := Action.look fun s => .snapshot (s.viewOf s.system.snapshot)

/-- The description that an update is to start from, and the name it is kept under. -/
def basisOf (s : Scenario) : Basis → Option Description
  | .fresh => none
  | .withoutBody => some ⟨"", .null, none⟩
  | .kept name => s.kept.lookup name

/-- What an update leaves of the description it started from. -/
def spendBasis (capacity : Int) (basis : Basis) (s : Scenario) : Scenario :=
  match basis with
  | .kept name =>
    { s with kept := s.kept.map fun p => if p.1 = name then (p.1, p.2.afterUpdate capacity) else p }
  | _ => s

/-- One step, without the comparison of snapshots. -/
def perform : Step → Act Answer
  | .create handle name minSize maxSize => do
    let _ ← createFleet handle name minSize maxSize
    pure .nothing
  | .createAndRegister handle name minSize maxSize => do
    let fleet ← createFleet handle name minSize maxSize
    changeSystem (·.register fleet)
    pure .nothing
  | .register handle => do
    let fleet ← fleetOf handle
    changeSystem (·.register fleet)
    pure .nothing
  | .registered => Action.look fun s => .handles (s.system.fleets.map s.handleOf)
  | .observed handle => do
    let fleet ← fleetOf handle
    Action.look fun s => .name (s.system.observedName fleet)
  | .snapshot => showSnapshot
  | .refresh => do
    let client ← Action.look (·.client)
    let _ ← operate (Manager.refresh client)
    showSnapshot
  | .membersOf handle => do
    let fleet ← fleetOf handle
    Action.look fun s => .instances (s.system.snapshot.membersOf fleet)
  | .sameSnapshot step => fun s =>
    let (outcome, s') := perform step s
    (.ok (.same outcome (s'.system.rebuilds = s.system.rebuilds)), s')
  | .findOwner raw => do
    let refs ← refsOf [raw]
    let client ← Action.look (·.client)
    match refs with
    | ref :: _ => do
      let owner ← operate (Manager.findOwner client ref)
      Action.look fun s => .owner (owner.map s.handleOf)
    | [] => pure (.owner none)
  | .getSize handle => do
    let fleet ← fleetOf handle
    let client ← Action.look (·.client)
    let capacity ← operate (Manager.getSize client fleet)
    pure (.capacity capacity)
  | .setSize handle target => do
    let fleet ← fleetOf handle
    let client ← Action.look (·.client)
    operate (Manager.setSize client fleet target)
    pure .nothing
  | .fleetInstances handle => do
    let fleet ← fleetOf handle
    let client ← Action.look (·.client)
    let refs ← operate (Manager.fleetInstances client fleet)
    pure (.instances refs)
  | .delete raws => do
    let refs ← refsOf raws
    let client ← Action.look (·.client)
    operate (Manager.deleteInstances client refs)
    pure .nothing
  | .describe name keepAs => do
    let d ← call (·.describe name)
    match keepAs with
    | some key => Action.change fun s => { s with kept := putPair key d s.kept }
    | none => pure ()
    pure (.description d.name d.capacity)
  | .list name => do
    let members ← call (·.list name)
    pure (.members members)
  | .update name capacity basis => do
    let current ← Action.look (·.basisOf basis)
    let client ← Action.look (·.client)
    Action.change (spendBasis capacity basis)
    operate (Effect.lift (client.update name capacity current))
    pure .nothing
  | .deleteMembers name ids => do
    call (·.delete name ids)
    pure .nothing
  | .putSet set => do
    changeRemote fun r => { r with sets := InMemory.putSet set r.sets }
    pure .nothing
  | .removeSet key => do
    changeRemote fun r => { r with sets := InMemory.removeSet key r.sets }
    pure .nothing
  | .remoteState => Action.look fun s => .sets s.system.world.remote.sets
  | .fail failure => do
    changeRemote fun r => { r with failures := r.failures ++ [failure] }
    pure .nothing
  | .clearFailures => do
    changeRemote fun r => { r with failures := [] }
    pure .nothing
  | .passTime seconds => do
    changeSystem fun s => { s with world := s.world.advance seconds }
    pure .nothing
  | .start => fun s =>
    match Manager.startLoop s.client s.system with
    | (.ok _, system) => (.ok .nothing, { s with system })
    | (.error e, system) => (.error (.start e), { s with system })
  | .wake => do
    let client ← Action.look (·.client)
    changeSystem (System.wake (Manager.rebuild client))
    pure .nothing
  | .stop => fun s =>
    match System.shutDown s.system with
    | (.ok _, system) => (.ok .nothing, { s with system })
    | (.error e, system) => (.error (.loop e), { s with system })
  | .loopState => Action.look fun s => .loop s.system.loop

/-- What a step reports besides its answer. -/
structure Report where
  outcome : Except StepError Answer
  log : List Event
  loopLog : List Event
  calls : List Call

/-- Takes the reports since the last time. -/
def collect (outcome : Except StepError Answer) (s : Scenario) : Report × Scenario :=
  let world := s.system.world
  (⟨outcome, world.log, world.loopLog, world.remote.calls⟩,
   { s with system := { s.system with world := { world with
      log := [], loopLog := [], remote := { world.remote with calls := [] } } } })

/-- Runs the steps one after the other. -/
def run : List Step → Scenario → List Report
  | [], _ => []
  | step :: rest, s =>
    let (outcome, s') := perform step s
    let (report, s'') := collect outcome s'
    report :: run rest s''

/-- Registers fleets, each under its handle. -/
def registerAll : List (String × String × Int × Int) → Act Unit
  | [] => pure ()
  | (handle, name, minSize, maxSize) :: rest => do
    let _ ← perform (.createAndRegister handle name minSize maxSize)
    registerAll rest

/-- A scenario before its first step. -/
def make (client : Client InMemory) (interval : Quantity) (sets : List RemoteSet)
    (clock : Binary64) (fleets : List (String × String × Int × Int)) :
    Except StepError Scenario :=
  match RefreshLoop.make interval with
  | .error e => .error (.loop e)
  | .ok loop =>
    let world := World.patient (InMemory.ofSets sets) clock
    let (outcome, s) := registerAll fleets ⟨System.start loop world, client, [], [], 0⟩
    outcome.map fun _ => s

end Scenario
end FleetWarden
