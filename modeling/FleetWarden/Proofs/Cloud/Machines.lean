import FleetWarden.Cloud.InMemory
import FleetWarden.Proofs.Invariant

/-!
# Machines and their identity

What a remote side holds, as opposed to what it answers: machines, each in one scale set, where it
has an instance id. Names of scale sets are compared without regard to case.

## Implementation notes

Remote sides are not modelled from the inside, so the machines that one holds are a function of its
state that is given with it, and which machines there ever were is a relation of its own. The latter
speaks of one course of events: another course may well give the same instance id to another
machine.
-/

namespace FleetWarden

open Text

/-- A machine: which one it is, and its instance id in the scale set that it is in. -/
structure Machine where
  ref : InstanceRef
  instanceId : String
deriving DecidableEq

namespace Machine

/-- The machine that a listing tells of, if it says which one it is and gives an instance id. -/
def ofMember? (m : Member) : Option Machine :=
  m.ref?.bind fun ref => m.instanceId.map fun id => ⟨ref, id⟩

theorem ofMember?_eq_some_iff {m : Member} {machine : Machine} :
    ofMember? m = some machine ↔
      m.ref? = some machine.ref ∧ m.instanceId = some machine.instanceId := by
  cases machine
  simp [ofMember?, Option.bind_eq_some_iff, Option.map_eq_some_iff]

/-- Machines that keep their identity, where `held name machine` says that the scale set of that
name held the machine at some time. A machine stays in one scale set and has one instance id there,
and no other machine ever gets this id in the same set. -/
structure KeepIdentity (held : String → Machine → Prop) : Prop where
  one_place {name name' : String} {x y : Machine} : held name x → held name' y → x.ref = y.ref →
    lower name = lower name' ∧ x.instanceId = y.instanceId
  one_use {name name' : String} {x y : Machine} : held name x → held name' y →
    lower name = lower name' → x.instanceId = y.instanceId → x.ref = y.ref

end Machine

/-- A deletion takes exactly those machines out of the named scale set that have one of the instance
ids there, and no machine out of any other set. -/
def Azure.DeletesExactly {ρ : Type} (azure : Azure ρ) (group : ResourceGroup)
    (machines : ρ → String → List Machine) : Prop :=
  ∀ name ids w w', Client.deleteIn azure group name ids w = (.ok (), w') →
    ∀ other, machines w'.remote other =
      if lower other = lower name then
        (machines w.remote other).filter (·.instanceId ∉ ids)
      else machines w.remote other

namespace InMemory

/-- The machines of the scale set found under a name. -/
def machines (r : InMemory) (name : String) : List Machine :=
  match r.sets.find? (·.answersTo name) with
  | some set => set.members.filterMap Machine.ofMember?
  | none => []

theorem set_of_mem_machines {r : InMemory} {name : String} {x : Machine} (h : x ∈ r.machines name) :
    ∃ set ∈ r.sets, lower set.key = lower name ∧ x ∈ set.members.filterMap Machine.ofMember? := by
  rw [machines] at h
  cases hf : r.sets.find? (·.answersTo name) with
  | none =>
      rw [hf] at h
      cases h
  | some set =>
      rw [hf] at h
      have hkey : set.answersTo name = true := by simpa using List.find?_some hf
      exact ⟨set, List.mem_of_find?_eq_some hf, by simpa [RemoteSet.answersTo] using hkey, h⟩

variable {name : String} {sets : List RemoteSet}

theorem find?_modifyFirst {f : RemoteSet → RemoteSet} (hf : ∀ set, (f set).key = set.key)
    (other : String) :
    (modifyFirst name f sets).find? (·.answersTo other) =
      if lower other = lower name then (sets.find? (·.answersTo other)).map f
      else sets.find? (·.answersTo other) := by
  have hanswers : ∀ set, (f set).answersTo other = set.answersTo other := fun set => by
    rw [RemoteSet.answersTo, RemoteSet.answersTo, hf]
  induction sets with
  | nil => simp [modifyFirst]
  | cons set rest ih =>
      by_cases hset : set.answersTo name = true
      · have hkey : lower set.key = lower name := by simpa [RemoteSet.answersTo] using hset
        have hother : set.answersTo other = decide (lower other = lower name) := by
          simp [RemoteSet.answersTo, hkey, eq_comm]
        rw [modifyFirst, if_pos hset, List.find?_cons, List.find?_cons, hanswers, hother]
        by_cases h : lower other = lower name <;> simp [h]
      · rw [modifyFirst, if_neg hset, List.find?_cons, List.find?_cons, ih]
        by_cases h : lower other = lower name
        · have hnot : set.answersTo other = false := by
            simpa [RemoteSet.answersTo, h] using hset
          simp [h, hnot]
        · simp [h]

theorem filterMap_withoutMembers (ids : List String) (set : RemoteSet) :
    (withoutMembers ids set).members.filterMap Machine.ofMember? =
      (set.members.filterMap Machine.ofMember?).filter (·.instanceId ∉ ids) := by
  rw [withoutMembers, List.filterMap_filter, List.filter_filterMap]
  congr 1
  funext m
  cases hm : Machine.ofMember? m with
  | none => simp
  | some machine =>
      have hid := (Machine.ofMember?_eq_some_iff.1 hm).2
      by_cases h : machine.instanceId ∈ ids <;> simp [hid, h, Option.filter]

theorem machines_modifyFirst (ids : List String) (r : InMemory) (other : String) :
    machines { r with sets := modifyFirst name (withoutMembers ids) r.sets } other =
      if lower other = lower name then (machines r other).filter (·.instanceId ∉ ids)
      else machines r other := by
  simp only [machines, find?_modifyFirst (f := withoutMembers ids) (fun _ => rfl)]
  by_cases h : lower other = lower name
  · simp only [h, if_true]
    cases r.sets.find? (·.answersTo other) with
    | none => rfl
    | some set => exact filterMap_withoutMembers ids set
  · simp only [h, if_false]

theorem keeps_sets_record (call : Call) :
    Action.Keeps (fun w => w.remote.sets = sets) (record call) :=
  Action.keeps_change fun _ h => h

theorem keeps_sets_mayFail (point : CallPoint) :
    Action.Keeps (fun w => w.remote.sets = sets) (mayFail point name) := by
  intro w h
  rw [mayFail]
  cases takeFailure point name w.remote.failures <;> exact h

theorem keeps_sets_beginDelete (group : ResourceGroup) (name : String) (ids : List String) :
    Action.Keeps (fun w => w.remote.sets = sets) (azure.beginDelete group name ids) :=
  (keeps_sets_record (.beginDelete group name ids)).bind fun _ => keeps_sets_mayFail _

theorem remote_of_modify {f : RemoteSet → RemoteSet} {w w' : World InMemory}
    (h : modify name f w = (.ok (), w')) :
    w'.remote = { w.remote with sets := modifyFirst name f w.remote.sets } := by
  obtain ⟨set, w₁, hfind, hchange⟩ := Action.bind_eq_ok_iff.1 h
  have hw₁ : w₁.remote = w.remote := by
    rw [find] at hfind
    cases hf : w.remote.sets.find? (·.answersTo name) with
    | none =>
        rw [hf] at hfind
        cases hfind
    | some found =>
        rw [hf] at hfind
        cases hfind
        rfl
  cases hchange
  rw [← hw₁]

/-- The sets in memory lose exactly what a deletion names. -/
theorem deletesExactly (group : ResourceGroup) : azure.DeletesExactly group machines := by
  intro name ids w w' h other
  obtain ⟨_, w₁, hbegin, hfinish⟩ := Action.bind_eq_ok_iff.1 h
  obtain ⟨_, w₂, hrecord, hrest⟩ := Action.bind_eq_ok_iff.1 hfinish
  obtain ⟨_, w₃, hfail, hmodify⟩ := Action.bind_eq_ok_iff.1 hrest
  have hsets : w₃.remote.sets = w.remote.sets := by
    have hw₁ := (keeps_sets_beginDelete group name ids).of_eq rfl hbegin
    have hw₂ := (keeps_sets_record _).of_eq hw₁ hrecord
    exact (keeps_sets_mayFail _).of_eq hw₂ hfail
  rw [remote_of_modify hmodify, machines_modifyFirst]
  simp only [machines, hsets]

end InMemory
end FleetWarden
