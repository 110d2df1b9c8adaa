import FleetWarden.Cloud.Client
import FleetWarden.Membership.InsertionMap

/-!
# Snapshots of the membership

A snapshot says which fleet each instance belongs to and which instance id it has there. Both maps
cover the same instances. A snapshot is made as a whole and never edited.
-/

namespace FleetWarden

open Numeral

/-- Owners and instance ids of the same instances, and when they were collected. -/
structure Snapshot where
  owners : InsertionMap InstanceRef Fleet
  instanceIds : InsertionMap InstanceRef (Option String)
  covers : ∀ ref, ref ∈ owners.keys ↔ ref ∈ instanceIds.keys
  /-- When the snapshot was made. -/
  builtAt : Binary64
deriving DecidableEq

namespace Snapshot

def empty : Snapshot := ⟨.empty, .empty, fun _ => Iff.rfl, .zero⟩

/-- Whether two maps cover the same instances. -/
def sameKeys {α β : Type} (m : InsertionMap InstanceRef α) (n : InsertionMap InstanceRef β) :
    Bool :=
  m.keys.all n.contains && n.keys.all m.contains

theorem sameKeys_iff {α β : Type} {m : InsertionMap InstanceRef α}
    {n : InsertionMap InstanceRef β} :
    sameKeys m n = true ↔ ∀ ref, ref ∈ m.keys ↔ ref ∈ n.keys := by
  simp only [sameKeys, Bool.and_eq_true, List.all_eq_true, InsertionMap.contains_iff]
  exact ⟨fun h ref => ⟨h.1 ref, h.2 ref⟩, fun h => ⟨fun ref => (h ref).1, fun ref => (h ref).2⟩⟩

/-- The snapshot of two maps, unless they cover different instances. -/
def ofMaps? (owners : InsertionMap InstanceRef Fleet)
    (instanceIds : InsertionMap InstanceRef (Option String)) (builtAt : Binary64) :
    Option Snapshot :=
  if h : sameKeys owners instanceIds = true then
    some ⟨owners, instanceIds, sameKeys_iff.1 h, builtAt⟩
  else none

/-- What is said about maps that cover different instances. -/
def mismatchMessage : String := "owners and instance_ids must cover the same instances"

/-- The instances in the order in which they were first reported. -/
def refs (s : Snapshot) : List InstanceRef := s.owners.keys

def size (s : Snapshot) : Nat := s.refs.length

/-- The fleet that an instance belongs to. -/
def ownerOf? (s : Snapshot) (ref : InstanceRef) : Option Fleet := s.owners.get? ref

/-- The instance id of an instance, if it is there and known. -/
def instanceIdOf? (s : Snapshot) (ref : InstanceRef) : Option String :=
  (s.instanceIds.get? ref).join

def contains (s : Snapshot) (ref : InstanceRef) : Bool := s.owners.contains ref

/-- The instances of a fleet. -/
def membersOf (s : Snapshot) (fleet : Fleet) : List InstanceRef :=
  (s.owners.pairs.filter fun p => p.2 = fleet).map Prod.fst

theorem contains_iff {s : Snapshot} {ref : InstanceRef} :
    s.contains ref = true ↔ ∃ fleet, s.ownerOf? ref = some fleet := by
  rw [contains, InsertionMap.contains_iff, ← Option.ne_none_iff_exists', ownerOf?, ne_eq,
    InsertionMap.get?_eq_none_iff, Decidable.not_not]

theorem contains_eq_false_iff {s : Snapshot} {ref : InstanceRef} :
    s.contains ref = false ↔ s.ownerOf? ref = none := by
  rw [← Bool.not_eq_true, contains_iff, ← Option.ne_none_iff_exists', ne_eq, Decidable.not_not]

end Snapshot
end FleetWarden
