import Mathlib.Data.List.Induction
import FleetWarden.Membership.Rebuild

/-!
# What reports amount to

A report puts an instance under a fleet, with the instance id that it has there. The two maps that
a rebuild fills follow from the list of its reports: instances stand in the order of their first
reports, and the last report of an instance decides about its fleet and its instance id together.

## Implementation notes

Reports are numbered by their place in one list for the whole rebuild, so that the last report of an
instance is found without looking at fleets. Texts without a key have no report.
-/

namespace FleetWarden

open Numeral Rebuild

section
variable {α : Type} [DecidableEq α]

theorem eraseDups_append_singleton (l : List α) (a : α) :
    (l ++ [a]).eraseDups = if a ∈ l then l.eraseDups else l.eraseDups ++ [a] := by
  rw [List.eraseDups_append]
  by_cases h : a ∈ l
  · simp [List.removeAll, h]
  · simp [List.removeAll, h, List.eraseDups_cons]

theorem length_eraseDups_le (l : List α) : l.eraseDups.length ≤ l.length := by
  induction l using List.reverseRecOn with
  | nil => exact Nat.le_refl 0
  | append_singleton l a ih =>
      rw [eraseDups_append_singleton]
      by_cases h : a ∈ l
      · rw [if_pos h, List.length_append]
        omega
      · rw [if_neg h, List.length_append, List.length_append]
        omega

/-- Nothing is lost exactly if nothing was there twice. -/
theorem length_eraseDups_eq_iff {l : List α} : l.eraseDups.length = l.length ↔ l.Nodup := by
  induction l using List.reverseRecOn with
  | nil => exact iff_of_true rfl List.nodup_nil
  | append_singleton l a ih =>
      have hle := length_eraseDups_le l
      rw [eraseDups_append_singleton, (List.perm_append_singleton a l).nodup_iff,
        List.nodup_cons]
      by_cases h : a ∈ l
      · rw [if_pos h, List.length_append, List.length_singleton]
        exact iff_of_false (by omega) fun hnodup => hnodup.1 h
      · rw [if_neg h, List.length_append, List.length_append, Nat.add_right_cancel_iff, ih]
        exact ⟨fun hnodup => ⟨h, hnodup⟩, And.right⟩

theorem filter_eraseDups (p : α → Bool) (l : List α) :
    l.eraseDups.filter p = (l.filter p).eraseDups := by
  induction l using List.reverseRecOn with
  | nil => rfl
  | append_singleton l a ih =>
      rw [eraseDups_append_singleton, List.filter_append]
      by_cases hp : p a = true
      · by_cases h : a ∈ l <;> simp [h, hp, ih, eraseDups_append_singleton]
      · by_cases h : a ∈ l <;> simp [h, hp, ih]

end

namespace InsertionMap
variable {κ α : Type} [DecidableEq κ]

theorem ofList_append_singleton (pairs : List (κ × α)) (p : κ × α) :
    ofList (pairs ++ [p]) = (ofList pairs).put p.1 p.2 := by
  simp [ofList]

theorem keys_ofList (pairs : List (κ × α)) :
    (ofList pairs).keys = (pairs.map Prod.fst).eraseDups := by
  induction pairs using List.reverseRecOn with
  | nil => rfl
  | append_singleton pairs p ih =>
      rw [ofList_append_singleton, keys_put, ih, List.map_append, List.map_singleton,
        eraseDups_append_singleton]
      simp only [List.mem_eraseDups]

end InsertionMap

/-- A report of an instance. -/
structure Sighting where
  ref : InstanceRef
  fleet : Fleet
  instanceId : Option String
deriving DecidableEq

namespace Sighting

/-- The last report of an instance. -/
def last? (seen : List Sighting) (ref : InstanceRef) : Option Sighting :=
  seen.reverse.find? (·.ref = ref)

@[simp] theorem last?_nil (ref : InstanceRef) : last? [] ref = none := rfl

theorem last?_append_singleton (seen : List Sighting) (x : Sighting) (ref : InstanceRef) :
    last? (seen ++ [x]) ref = if ref = x.ref then some x else last? seen ref := by
  by_cases h : ref = x.ref
  · simp [last?, h]
  · simp [last?, h, Ne.symm h]

theorem mem_of_last? {seen : List Sighting} {ref : InstanceRef} {x : Sighting}
    (h : last? seen ref = some x) : x ∈ seen ∧ x.ref = ref :=
  ⟨List.mem_reverse.1 (List.mem_of_find?_eq_some h), by simpa using List.find?_some h⟩

/-- What the reports say last about each instance. -/
def latest {α : Type} (g : Sighting → α) (seen : List Sighting) : InsertionMap InstanceRef α :=
  .ofList (seen.map fun x => (x.ref, g x))

variable {α : Type} (g : Sighting → α)

theorem latest_append_singleton (seen : List Sighting) (x : Sighting) :
    latest g (seen ++ [x]) = (latest g seen).put x.ref (g x) := by
  simp [latest, InsertionMap.ofList_append_singleton]

theorem keys_latest (seen : List Sighting) :
    (latest g seen).keys = (seen.map (·.ref)).eraseDups := by
  simp [latest, InsertionMap.keys_ofList, Function.comp_def]

theorem get?_latest (seen : List Sighting) (ref : InstanceRef) :
    (latest g seen).get? ref = (last? seen ref).map g := by
  induction seen using List.reverseRecOn with
  | nil => rfl
  | append_singleton seen x ih =>
      rw [latest_append_singleton, InsertionMap.get?_put, last?_append_singleton, ih]
      split <;> rfl

end Sighting

namespace Rebuild

/-- What a rebuild has gathered after the given reports. -/
def Progress.ofSightings (seen : List Sighting) : Progress :=
  ⟨Sighting.latest (·.fleet) seen, Sighting.latest (·.instanceId) seen⟩

theorem Progress.take_ofSightings (seen : List Sighting) (x : Sighting) :
    (ofSightings seen).take x.ref x.fleet x.instanceId = ofSightings (seen ++ [x]) := by
  simp [ofSightings, take, Sighting.latest_append_singleton]

end Rebuild

namespace Snapshot

/-- The snapshot that reports amount to. -/
def ofSightings (seen : List Sighting) (builtAt : Binary64) : Snapshot where
  owners := Sighting.latest (·.fleet) seen
  instanceIds := Sighting.latest (·.instanceId) seen
  covers ref := by rw [Sighting.keys_latest, Sighting.keys_latest]
  builtAt := builtAt

variable {seen : List Sighting} {builtAt : Binary64} {ref : InstanceRef}

theorem ownerOf?_ofSightings :
    (ofSightings seen builtAt).ownerOf? ref = (Sighting.last? seen ref).map (·.fleet) :=
  Sighting.get?_latest _ seen ref

theorem get?_instanceIds_ofSightings :
    (ofSightings seen builtAt).instanceIds.get? ref =
      (Sighting.last? seen ref).map (·.instanceId) :=
  Sighting.get?_latest _ seen ref

theorem instanceIdOf?_ofSightings :
    (ofSightings seen builtAt).instanceIdOf? ref =
      (Sighting.last? seen ref).bind (·.instanceId) := by
  rw [instanceIdOf?, get?_instanceIds_ofSightings]
  cases Sighting.last? seen ref <;> rfl

theorem refs_ofSightings : (ofSightings seen builtAt).refs = (seen.map (·.ref)).eraseDups :=
  Sighting.keys_latest _ seen

end Snapshot
end FleetWarden
