import FleetWarden.Cloud.World

/-!
# Clients

`Azure` is the remote interface as it is offered: calls on the scale sets of a resource group,
with answers that may lack anything. A `Client` is the narrower interface that the manager works
with. `Client.checked` refuses answers that cannot be used; `Client.unchecked` passes on whatever
it is told.

## Implementation notes

A listing arrives item by item: `reach` stands for the arrival of one item and may fail, so a
refusal of an earlier item comes before the failure of a later one.
-/

namespace FleetWarden

/-- The resource group that calls go to, in whatever form it was configured. -/
abbrev ResourceGroup := Value

/-- An instance as a listing reports it. -/
structure Member where
  instanceId : Option String
  resourceId : Option String
deriving DecidableEq, Repr

namespace Member

/-- The reference to the instance; a missing or blank resource id gives none. -/
def ref? (m : Member) : Option InstanceRef := m.resourceId.bind InstanceRef.ofRaw?

/-- Whether both ids are there and not empty. -/
def hasIds (m : Member) : Bool :=
  m.instanceId.any (· ≠ "") && m.resourceId.any (· ≠ "")

end Member

/-- A scale set as the remote side describes it, and as it takes it back in an update. -/
structure ScaleSetBody where
  name : Option String
  /-- The capacity, where the set has a size at all. -/
  capacity : Option Value
  provisioningState : Option String

namespace ScaleSetBody

/-- The body of an update to a new capacity. A body that carries a provisioning state would be
refused. -/
def resized (body : ScaleSetBody) (capacity : Int) : ScaleSetBody :=
  { body with capacity := some (.int capacity), provisioningState := none }

/-- The name that the set goes by, unless it is missing or empty. -/
def nameOr (body : ScaleSetBody) (default : String) : String :=
  match body.name with
  | some name => if name = "" then default else name
  | none => default

end ScaleSetBody

/-- The remote interface. Updates and deletions are begun and then waited for. -/
structure Azure (ρ : Type) where
  get : (group : ResourceGroup) → (name : String) → Effect ρ ScaleSetBody
  list : (group : ResourceGroup) → (name : String) → Effect ρ (List Member)
  reach : (name : String) → (index : Nat) → Effect ρ Unit
  beginUpdate : (group : ResourceGroup) → (name : String) → ScaleSetBody → Effect ρ Unit
  finishUpdate : (name : String) → ScaleSetBody → Effect ρ Unit
  beginDelete : (group : ResourceGroup) → (name : String) → (ids : List String) → Effect ρ Unit
  finishDelete : (name : String) → (ids : List String) → Effect ρ Unit

/-- The state of a scale set as a client describes it. -/
structure Description where
  name : String
  capacity : Value
  body : Option ScaleSetBody

namespace Description

/-- The description after an update to a capacity was asked for with it: its body is the one that
was sent. -/
def afterUpdate (d : Description) (capacity : Int) : Description :=
  { d with body := d.body.map (·.resized capacity) }

end Description

/-- What the manager asks of the remote side. -/
structure Client (ρ : Type) where
  describe : (name : String) → Effect ρ Description
  list : (name : String) → Effect ρ (List Member)
  update : (name : String) → (capacity : Int) → (current : Option Description) → Effect ρ Unit
  delete : (name : String) → (ids : List String) → Effect ρ Unit

namespace Client
variable {ρ : Type} (azure : Azure ρ)

/-- The body of a scale set and its capacity read as a whole number. -/
def fetch (group : ResourceGroup) (name : String) : Effect ρ (ScaleSetBody × Int) := do
  let body ← azure.get group name
  match body.capacity with
  | none => .fail (.noCapacity name)
  | some .null => .fail (.noCapacity name)
  | some v =>
    match v.whole with
    | .error e => .fail (.badCapacity e)
    | .ok n => pure (body, n)

/-- Describes a scale set, which must have a capacity. -/
def describeChecked (group : ResourceGroup) (name : String) : Effect ρ Description := do
  let (body, n) ← fetch azure group name
  pure ⟨body.nameOr name, .int n, some body⟩

/-- Lets the items of a listing arrive one after the other; `accept` may refuse an item. -/
def arrive (name : String) (accept : Member → Effect ρ Unit) :
    Nat → List Member → Effect ρ (List Member)
  | _, [] => pure []
  | i, m :: rest => do
    azure.reach name i
    accept m
    let others ← arrive name accept (i + 1) rest
    pure (m :: others)

/-- Refuses an instance without ids. -/
def requireIds (name : String) (m : Member) : Effect ρ Unit :=
  if m.hasIds then pure () else .fail (.instanceWithoutId name)

/-- Lists the instances of a scale set, which must all have ids. -/
def listChecked (group : ResourceGroup) (name : String) : Effect ρ (List Member) := do
  let items ← azure.list group name
  let members ← arrive azure name (requireIds name) 0 items
  emit (.listed name members.length)
  pure members

/-- The body that an update starts from: that of the description if it has one, else a fresh
one. -/
def bodyFor (group : ResourceGroup) (name : String) (current : Option Description) :
    Effect ρ ScaleSetBody :=
  match current.bind (·.body) with
  | some body => pure body
  | none => do
    let (body, _) ← fetch azure group name
    pure body

/-- Changes the capacity of a scale set and waits until that is done. -/
def updateChecked (group : ResourceGroup) (name : String) (capacity : Int)
    (current : Option Description) : Effect ρ Unit := do
  let body ← bodyFor azure group name current
  azure.beginUpdate group name (body.resized capacity)
  azure.finishUpdate name (body.resized capacity)

/-- Deletes instances of a scale set and waits until that is done. -/
def deleteIn (group : ResourceGroup) (name : String) (ids : List String) : Effect ρ Unit := do
  azure.beginDelete group name ids
  azure.finishDelete name ids

/-- The client for the scale sets of one resource group. -/
def checked (group : ResourceGroup) : Client ρ where
  describe := describeChecked azure group
  list := listChecked azure group
  update := updateChecked azure group
  delete := deleteIn azure group

/-- The group that calls of the unchecked client go to. -/
def noGroup : ResourceGroup := .text "-"

/-- Describes a scale set as the remote side does. -/
def describeUnchecked (name : String) : Effect ρ Description := do
  let body ← azure.get noGroup name
  pure ⟨body.name.getD "", body.capacity.getD .null, none⟩

/-- Lists the instances of a scale set as they arrive. -/
def listUnchecked (name : String) : Effect ρ (List Member) := do
  let items ← azure.list noGroup name
  arrive azure name (fun _ => pure ()) 0 items

/-- Changes the capacity of a scale set without looking at it first. -/
def updateUnchecked (name : String) (capacity : Int) : Effect ρ Unit := do
  let sent : ScaleSetBody := ⟨none, some (.int capacity), none⟩
  azure.beginUpdate noGroup name sent
  azure.finishUpdate name sent

/-- A client that believes every answer. -/
def unchecked : Client ρ where
  describe := describeUnchecked azure
  list := listUnchecked azure
  update name capacity _ := updateUnchecked azure name capacity
  delete := deleteIn azure noGroup

end Client
end FleetWarden
