import FleetWarden.Cloud.InMemory
import FleetWarden.Proofs.Cloud.Refusals
import FleetWarden.Proofs.Failures
import FleetWarden.Proofs.Manager.Rebuilding

/-!
# Blank resource ids

The checked client refuses instances whose ids are missing or empty. A resource id that consists of
blanks only is neither, and has no key all the same, so it gets past the client and every rebuild
that meets it fails. Apart from that, all faults over the checked client are those of the remote
side, of unusable answers, and of the guards of the manager.
-/

namespace FleetWarden

open Text Rebuild

/-- The resource id of a member is there and not empty, but blank. -/
def Member.IsBlank (m : Member) : Prop :=
  ∃ id, m.resourceId = some id ∧ id ≠ "" ∧ blank id = true

theorem Member.ref?_eq_none_iff_isBlank {m : Member} (h : m.hasIds = true) :
    m.ref? = none ↔ m.IsBlank := by
  simp only [hasIds, Bool.and_eq_true, Option.any_eq_true] at h
  obtain ⟨-, id, hid, hne⟩ := h
  rw [ref?, hid, Option.bind_some, InstanceRef.ofRaw?_eq_none_iff]
  constructor
  · intro hb
    exact ⟨id, hid, by simpa using hne, hb⟩
  · rintro ⟨id', hid', -, hb⟩
    obtain rfl := Option.some.inj (hid.symm.trans hid')
    exact hb

section
variable {ρ : Type} {azure : Azure ρ} {group : ResourceGroup}

/-- Some listing has a member with a blank resource id. -/
def Azure.ListsBlank (azure : Azure ρ) (group : ResourceGroup) : Prop :=
  ∃ name w members w', azure.list group name w = (.ok members, w') ∧ ∃ m ∈ members, m.IsBlank

/-- The faults to reckon with over the checked client. -/
inductive Foreseen (azure : Azure ρ) (group : ResourceGroup) : Fault → Prop
  | describe {name : String} {w w' : World ρ} {e : Fault}
      (h : Client.DescribeFails azure group name w e w') : Foreseen azure group e
  | list {name : String} {w w' : World ρ} {e : Fault}
      (h : Client.ListFails azure group name w e w') : Foreseen azure group e
  | delete {name : String} {ids : List String} {w w' : World ρ} {e : Fault}
      (h : Client.deleteIn azure group name ids w = (.error e, w')) : Foreseen azure group e
  | unmanaged (target : InstanceRef) : Foreseen azure group (.unmanaged target)
  | crossFleet (target : InstanceRef) (expected : String) (actual : Option String) :
      Foreseen azure group (.crossFleet target expected actual)
  | staleId (target : InstanceRef) : Foreseen azure group (.staleId target)
  | blank (h : azure.ListsBlank group) : Foreseen azure group .blankInstance

theorem Foreseen.of_listed {name : String} {w w' : World ρ} {members : List Member}
    (h : Client.listChecked azure group name w = (.ok members, w'))
    (hm : ∃ m ∈ members, m.ref? = none) : Foreseen azure group .blankInstance := by
  obtain ⟨⟨w₁, hl⟩, hids⟩ := Client.listChecked_of_ok h
  obtain ⟨m, hmem, hnone⟩ := hm
  have hblank := (Member.ref?_eq_none_iff_isBlank (hids m hmem)).1 hnone
  exact .blank ⟨name, w, members, w₁, hl, m, hmem, hblank⟩

theorem Foreseen.of_missed {seen : List Sighting} {w w' : World ρ} {fleet : Fleet} {e : Fault}
    (h : Missed (.checked azure group) seen w fleet e w') : Foreseen azure group e := by
  cases h with
  | describe refused => exact .describe (Client.describeChecked_eq_error_iff.1 refused)
  | list described refused => exact .list (Client.listChecked_eq_error_iff.1 refused)
  | @member d good others m _ _ described listed refs blank =>
      exact .of_listed listed ⟨m, by simp, blank⟩

theorem Foreseen.of_halt {seen : List Sighting} {w w' : World ρ} {fleets : List Fleet} {e : Fault}
    (h : Halt (.checked azure group) seen w fleets e w') : Foreseen azure group e := by
  induction h with
  | here missed => exact .of_missed missed
  | later first others ih => exact ih

end

namespace Manager
variable {ρ : Type} {azure : Azure ρ} {group : ResourceGroup}

theorem failsWith_report {P : Fault → Prop} (e : Event) :
    Action.FailsWith P (report e : Operation ρ Unit) :=
  Action.failsWith_change _

theorem failsWith_run (fleets : List Fleet) :
    Action.FailsWith (Foreseen azure group) (Rebuild.run (.checked azure group) fleets) := by
  intro w e w' h
  exact .of_halt (run_eq_error_iff.1 h)

theorem failsWith_rebuild :
    Action.FailsWith (Foreseen azure group) (rebuild (.checked azure group)) := by
  intro s e t h
  obtain ⟨w, hhalt, -⟩ := rebuild_eq_error_iff.1 h
  exact .of_halt hhalt

theorem failsWith_refresh :
    Action.FailsWith (Foreseen azure group) (refresh (.checked azure group)) :=
  failsWith_rebuild.bind fun _ => Action.failsWith_look _

theorem failsWith_findOwner (ref : InstanceRef) :
    Action.FailsWith (Foreseen azure group) (findOwner (.checked azure group) ref) := by
  refine (failsWith_report _).bind fun _ => (Action.failsWith_look _).bind fun cached => ?_
  cases cached with
  | some fleet => exact Action.failsWith_pure _
  | none => exact failsWith_rebuild.onFailure.bind fun _ => Action.failsWith_look _

theorem failsWith_snapshotCovering (targets : List InstanceRef) :
    Action.FailsWith (Foreseen azure group) (snapshotCovering (.checked azure group) targets) := by
  refine (Action.failsWith_look _).bind fun current => ?_
  split
  · exact Action.failsWith_pure current
  · exact failsWith_refresh

theorem idsOf_eq_error_staleId {snapshot : Snapshot} {refs : List InstanceRef} {e : Fault}
    (h : idsOf snapshot refs = .error e) : ∃ ref, e = .staleId ref := by
  induction refs with
  | nil => cases h
  | cons ref rest ih =>
      rw [idsOf] at h
      cases hid : snapshot.instanceIdOf? ref with
      | none =>
          rw [hid] at h
          cases h
          exact ⟨ref, rfl⟩
      | some id =>
          rw [hid] at h
          cases hrest : idsOf snapshot rest with
          | error e' =>
              rw [hrest] at h
              cases h
              exact ih hrest
          | ok ids =>
              rw [hrest] at h
              cases h

/-- A deletion is refused for one of the three documented reasons. -/
theorem foreseen_of_resolve {snapshot : Snapshot} {first : InstanceRef}
    {others : List InstanceRef} {e : Fault} (h : resolve snapshot first others = .error e) :
    Foreseen azure group e := by
  rw [resolve] at h
  cases howner : snapshot.ownerOf? first with
  | none =>
      rw [howner] at h
      cases h
      exact .unmanaged first
  | some fleet =>
      rw [howner] at h
      cases hst : stranger? snapshot fleet others with
      | some ref =>
          simp only [hst] at h
          cases h
          exact .crossFleet ref _ _
      | none =>
          simp only [hst] at h
          cases hids : idsOf snapshot (first :: others) with
          | ok ids =>
              rw [hids] at h
              cases h
          | error e' =>
              rw [hids] at h
              cases h
              obtain ⟨ref, rfl⟩ := idsOf_eq_error_staleId hids
              exact .staleId ref

theorem failsWith_deleteInstances (targets : List InstanceRef) :
    Action.FailsWith (Foreseen azure group) (deleteInstances (.checked azure group) targets) := by
  rw [deleteInstances]
  cases distinct targets with
  | nil => exact Action.failsWith_pure ()
  | cons first others =>
      refine (failsWith_snapshotCovering _).bind fun snapshot =>
        (Action.failsWith_ofExcept fun e he => foreseen_of_resolve he).bind ?_
      rintro ⟨fleet, ids⟩
      refine (failsWith_report _).bind fun _ => Action.FailsWith.lift ?_
      intro w e w' h
      exact .delete h

theorem refsOf_eq_error {members : List Member} {e : Fault} (h : refsOf members = .error e) :
    e = .blankInstance ∧ ∃ m ∈ members, m.ref? = none := by
  induction members with
  | nil => cases h
  | cons m rest ih =>
      rw [refsOf] at h
      cases hm : m.ref? with
      | none =>
          rw [hm] at h
          cases h
          exact ⟨rfl, m, List.mem_cons_self, hm⟩
      | some ref =>
          rw [hm] at h
          cases hrest : refsOf rest with
          | ok refs =>
              rw [hrest] at h
              cases h
          | error e' =>
              rw [hrest] at h
              cases h
              obtain ⟨rfl, m', hmem, hnone⟩ := ih hrest
              exact ⟨rfl, m', List.mem_cons_of_mem _ hmem, hnone⟩

theorem failsWith_fleetInstances (fleet : Fleet) :
    Action.FailsWith (Foreseen azure group) (fleetInstances (.checked azure group) fleet) := by
  have hlist : Action.FailsWith (Foreseen azure group)
      (Effect.lift (Client.listChecked azure group fleet.name)) :=
    Action.FailsWith.lift fun w e w' h => .list (Client.listChecked_eq_error_iff.1 h)
  refine hlist.onFailure.bind_of_answers fun s members t h => ?_
  refine Action.failsWith_ofExcept fun e he => ?_
  obtain ⟨rfl, hm⟩ := refsOf_eq_error he
  obtain ⟨w, hlisted, -⟩ := Effect.lift_eq_iff.1 (Action.onFailure_eq_ok_iff.1 h)
  exact .of_listed hlisted hm

/-- Blank resource ids are all that the checked client lets through. A listing fails at one of its
points of failure, or is exactly what was answered, and then its members have keys but for those
with a blank resource id. Rebuilds, refreshes, lookups, deletions and direct listings end with a
fault of the remote side, a refusal of an answer or of a deletion, or, if some listing has a blank
resource id, with the fault of that. -/
theorem only_blank_ids_get_through (azure : Azure ρ) (group : ResourceGroup) :
    let client := Client.checked azure group
    (∀ name w, (∃ e w', client.list name w = (.error e, w') ∧
        Client.ListFails azure group name w e w') ∨
      ∃ members w₁ w', client.list name w = (.ok members, w') ∧
        azure.list group name w = (.ok members, w₁) ∧
        ∀ m ∈ members, m.ref? = none ↔ m.IsBlank) ∧
    (∀ fleets, Action.FailsWith (Foreseen azure group) (Rebuild.run client fleets)) ∧
    Action.FailsWith (Foreseen azure group) (refresh client) ∧
    (∀ ref, Action.FailsWith (Foreseen azure group) (findOwner client ref)) ∧
    (∀ targets, Action.FailsWith (Foreseen azure group) (deleteInstances client targets)) ∧
    ∀ fleet, Action.FailsWith (Foreseen azure group) (fleetInstances client fleet) := by
  refine ⟨?_, failsWith_run, failsWith_refresh, failsWith_findOwner, failsWith_deleteInstances,
    failsWith_fleetInstances⟩
  intro name w
  rcases h : Client.listChecked azure group name w with ⟨e | members, w'⟩
  · exact Or.inl ⟨e, w', h, Client.listChecked_eq_error_iff.1 h⟩
  · obtain ⟨⟨w₁, hl⟩, hids⟩ := Client.listChecked_of_ok h
    refine Or.inr ⟨members, w₁, w', h, hl, ?_⟩
    intro m hm
    exact Member.ref?_eq_none_iff_isBlank (hids m hm)

section BlankId

def spare : Fleet := ⟨0, ⟨"spare", 0, 1, by decide +kernel, by decide⟩⟩

/-- A manager of one scale set, whose only instance has a blank resource id. -/
def blankOnly : System InMemory :=
  let world : World InMemory := .start (.ofSets [
    ⟨"spare", none, .int 1, true, [⟨some "0", some " "⟩], .zero⟩]) .zero
  (System.start (.fresh (.int 60)) world).register spare

/-- The client lists the instance, and whatever needs its key fails for want of one. -/
theorem blank_id_breaks_everything :
    let client := Client.checked InMemory.azure (.text "rg")
    let ref : InstanceRef := ⟨"azure:///vm/s", "/vm/s", by decide +kernel⟩
    (client.list "spare" blankOnly.world).1 = .ok [⟨some "0", some " "⟩] ∧
    Member.ref? ⟨some "0", some " "⟩ = none ∧
    (Rebuild.run client blankOnly.fleets blankOnly.world).1 = .error .blankInstance ∧
    (refresh client blankOnly).1 = .error .blankInstance ∧
    (findOwner client ref blankOnly).1 = .error .blankInstance ∧
    (deleteInstances client [ref] blankOnly).1 = .error .blankInstance ∧
    (fleetInstances client spare blankOnly).1 = .error .blankInstance ∧
    Fault.blankInstance.kind = .value :=
  ⟨rfl, by decide +kernel, rfl, rfl, rfl, rfl, rfl, rfl⟩

end BlankId

end Manager
end FleetWarden
