import FleetWarden.Cloud.Client

/-!
# A remote side in memory

Scale sets in a list, found by name without regard to case. Every call is recorded, and calls can
be made to fail. A call is recorded first, then may fail as asked for, and then looks the set up;
looking up takes as long as the set's latency.
-/

namespace FleetWarden

open Text Numeral

/-- The points at which the remote side can be made to fail. -/
inductive CallPoint where
  | get
  | list
  | item (index : Nat)
  | beginUpdate
  | finishUpdate
  | beginDelete
  | finishDelete
deriving DecidableEq, Repr

/-- A failure that was asked for: for one scale set or for all, once, several times or always. -/
structure Failure where
  point : CallPoint
  name : Option String
  fault : Fault
  times : Option Nat
deriving DecidableEq

namespace Failure

/-- Whether the failure happens at this point for this scale set. -/
def applies (f : Failure) (point : CallPoint) (name : String) : Bool :=
  f.point = point && f.name.all (· = name) && f.times.all (0 < ·)

/-- The failure with one time less to go. -/
def spent (f : Failure) : Failure := { f with times := f.times.map (· - 1) }

end Failure

/-- The first failure that happens here, and the failures left after it. -/
def takeFailure (point : CallPoint) (name : String) : List Failure → Option (Fault × List Failure)
  | [] => none
  | f :: rest =>
    if f.applies point name then some (f.fault, f.spent :: rest)
    else (takeFailure point name rest).map fun (fault, others) => (fault, f :: others)

/-- A call as the remote side notes it, before it can fail. -/
inductive Call where
  | get (group : ResourceGroup) (name : String)
  | list (group : ResourceGroup) (name : String)
  | beginUpdate (group : ResourceGroup) (name : String) (capacity : Option Value)
      (state : Option String)
  | finishUpdate (name : String)
  | beginDelete (group : ResourceGroup) (name : String) (ids : List String)
  | finishDelete (name : String)

/-- A scale set of the remote side. -/
structure RemoteSet where
  /-- The name that the set is found under. -/
  key : String
  /-- The name that the set goes by, which may be missing. -/
  name : Option String
  capacity : Value
  hasSize : Bool
  members : List Member
  latency : Binary64

/-- Whether the set is found under a name. -/
def RemoteSet.answersTo (set : RemoteSet) (name : String) : Bool :=
  lower set.key = lower name

/-- The scale sets, the failures still to come, and the calls so far. -/
structure InMemory where
  sets : List RemoteSet
  failures : List Failure
  calls : List Call

namespace InMemory

/-- A remote side that was not called yet. -/
def ofSets (sets : List RemoteSet) : InMemory := ⟨sets, [], []⟩

/-- Notes a call. -/
def record (call : Call) : Effect InMemory Unit :=
  .change fun w => { w with remote := { w.remote with calls := w.remote.calls ++ [call] } }

/-- Fails if a failure was asked for. -/
def mayFail (point : CallPoint) (name : String) : Effect InMemory Unit := fun w =>
  match takeFailure point name w.remote.failures with
  | none => (.ok (), w)
  | some (fault, failures) => (.error fault, { w with remote := { w.remote with failures } })

/-- The scale set found under a name. -/
def find (name : String) : Effect InMemory RemoteSet := fun w =>
  match w.remote.sets.find? (·.answersTo name) with
  | none => (.error (.raised (.azure .notFound) ("Scale set " ++ name ++ " not found")), w)
  | some set => (.ok set, w.advance set.latency)

/-- Changes the first scale set found under a name. -/
def modifyFirst (name : String) (f : RemoteSet → RemoteSet) : List RemoteSet → List RemoteSet
  | [] => []
  | set :: rest => if set.answersTo name then f set :: rest else set :: modifyFirst name f rest

/-- Changes the scale set that answers to a name. -/
def modify (name : String) (f : RemoteSet → RemoteSet) : Effect InMemory Unit := do
  let _ ← find name
  .change fun w => { w with remote := { w.remote with sets := modifyFirst name f w.remote.sets } }

/-- The set as an answer shows it. -/
def body (set : RemoteSet) : ScaleSetBody where
  name := set.name
  capacity := if set.hasSize then some set.capacity else none
  provisioningState := some "Succeeded"

/-- The set with another capacity. -/
def withCapacity (capacity : Option Value) (set : RemoteSet) : RemoteSet :=
  { set with capacity := capacity.getD .null }

/-- The set without the instances that have one of the ids. -/
def withoutMembers (ids : List String) (set : RemoteSet) : RemoteSet :=
  { set with members := set.members.filter fun m => !m.instanceId.any (ids.contains ·) }

/-- The remote interface over the sets in memory. -/
def azure : Azure InMemory where
  get group name := do
    record (.get group name)
    mayFail .get name
    let set ← find name
    pure (body set)
  list group name := do
    record (.list group name)
    mayFail .list name
    let set ← find name
    pure set.members
  reach name index := mayFail (.item index) name
  beginUpdate group name sent := do
    record (.beginUpdate group name sent.capacity sent.provisioningState)
    mayFail .beginUpdate name
  finishUpdate name sent := do
    record (.finishUpdate name)
    mayFail .finishUpdate name
    modify name (withCapacity sent.capacity)
  beginDelete group name ids := do
    record (.beginDelete group name ids)
    mayFail .beginDelete name
  finishDelete name ids := do
    record (.finishDelete name)
    mayFail .finishDelete name
    modify name (withoutMembers ids)

/-- Puts a scale set in the place of the one with the same key, or at the end. -/
def putSet (set : RemoteSet) : List RemoteSet → List RemoteSet
  | [] => [set]
  | s :: rest => if s.key = set.key then set :: rest else s :: putSet set rest

/-- Takes the scale set with a key away. -/
def removeSet (key : String) (sets : List RemoteSet) : List RemoteSet :=
  sets.filter (·.key ≠ key)

end InMemory
end FleetWarden
