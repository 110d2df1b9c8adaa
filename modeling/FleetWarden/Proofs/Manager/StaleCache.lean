import FleetWarden.Proofs.Cloud.Machines
import FleetWarden.Proofs.Manager.Deeds
import FleetWarden.Proofs.Manager.FailedRebuild

/-!
# Deletions from an old snapshot

A snapshot may be out of date in every respect when a deletion is resolved in it, and more so when
the call goes out. What carries a deletion through is that everything in a snapshot was true at some
time, of the scale set that the call goes to, and that machines keep their identity.

## Implementation notes

The name in the call is the one that the owner was registered with, while the instances were listed
under the name that it was found to go by. The two are only known to agree up to case.
-/

namespace FleetWarden

open Text Rebuild

/-- What a visit learned is right: its fleet goes by its own name up to case, and the scale set of
that name held what was listed. -/
structure Visit.Faithful (held : String → Machine → Prop) (v : Visit) : Prop where
  name : lower v.name = lower v.fleet.name
  machines : ∀ x ∈ v.members.filterMap Machine.ofMember?, held v.name x

namespace Snapshot
variable {held : String → Machine → Prop}

/-- The scale set of every owner held the instance at some time, with the instance id that stands
here. -/
def WasTrue (held : String → Machine → Prop) (s : Snapshot) : Prop :=
  ∀ ref fleet id, s.ownerOf? ref = some fleet → s.instanceIdOf? ref = some id →
    ∃ name, lower name = lower fleet.name ∧ held name ⟨ref, id⟩

theorem wasTrue_empty : WasTrue held .empty := by
  intro ref fleet id h
  cases h

theorem wasTrue_ofSightings {visits : List Visit} (h : ∀ v ∈ visits, v.Faithful held)
    (now : Numeral.Binary64) : WasTrue held (.ofSightings (visits.flatMap (·.sightings)) now) := by
  intro ref fleet id howner hid
  rw [ownerOf?_ofSightings] at howner
  obtain ⟨x, hx, rfl⟩ := Option.map_eq_some_iff.1 howner
  rw [instanceIdOf?_ofSightings, hx, Option.bind_some] at hid
  obtain ⟨hmem, rfl⟩ := Sighting.mem_of_last? hx
  obtain ⟨v, hv, hxv⟩ := List.mem_flatMap.1 hmem
  obtain ⟨m, hm, href, hfleet, hmid⟩ := Sighting.mem_ofMembers_iff.1 hxv
  have hmachine : Machine.ofMember? m = some ⟨x.ref, id⟩ :=
    Machine.ofMember?_eq_some_iff.2 ⟨href, hmid.trans hid⟩
  exact ⟨v.name, hfleet ▸ (h v hv).name,
    (h v hv).machines _ (List.mem_filterMap.2 ⟨m, hm, hmachine⟩)⟩

end Snapshot

namespace Manager
variable {ρ : Type} {client : Client ρ}

/-- A deletion with deeds that come in after it is resolved and before its call. -/
def deleteAmid (client : Client ρ) (between : List (Deed ρ)) (targets : List InstanceRef) :
    Operation ρ Unit := do
  let plan ← resolveDeletion client targets
  Action.change (Deed.run client between)
  match plan with
  | none => pure ()
  | some plan => carryOut client plan

/-- If nothing comes in, it is an ordinary deletion. -/
theorem deleteAmid_nil (client : Client ρ) (targets : List InstanceRef) :
    deleteAmid client [] targets = deleteInstances client targets := by
  rw [deleteInstances_eq]
  funext s
  rcases h : resolveDeletion client targets s with ⟨e | plan, t⟩
  · exact (Action.bind_of_error h).trans (Action.bind_of_error h).symm
  · refine (Action.bind_of_ok h).trans (Eq.trans ?_ (Action.bind_of_ok h).symm)
    exact Action.bind_of_ok (Action.change_apply _ t)

variable {held : String → Machine → Prop} {targets : List InstanceRef}

/-- An instance id that an old snapshot has for a target finds that target and no other machine. -/
theorem mem_ids_iff_asked {snapshot : Snapshot} {fleet : Fleet} {ids : List String} {name : String}
    {x : Machine} (identity : Machine.KeepIdentity held) (hsnapshot : snapshot.WasTrue held)
    (howner : ∀ ref ∈ targets, snapshot.ownerOf? ref = some fleet)
    (hids : targets.eraseDups.map snapshot.instanceIdOf? = ids.map some) (hx : held name x) :
    lower name = lower fleet.name ∧ x.instanceId ∈ ids ↔ x.ref ∈ targets := by
  constructor
  · rintro ⟨hname, hid⟩
    have hsome : some x.instanceId ∈ targets.eraseDups.map snapshot.instanceIdOf? :=
      hids ▸ List.mem_map_of_mem hid
    obtain ⟨ref, hmem, href⟩ := List.mem_map.1 hsome
    have htarget := List.mem_eraseDups.1 hmem
    obtain ⟨name', hname', hheld⟩ := hsnapshot ref fleet _ (howner ref htarget) href
    have hsame : x.ref = ref := identity.one_use hx hheld (hname.trans hname'.symm) rfl
    exact hsame ▸ htarget
  · intro htarget
    have hsome : snapshot.instanceIdOf? x.ref ∈ ids.map some :=
      hids ▸ List.mem_map_of_mem (List.mem_eraseDups.2 htarget)
    obtain ⟨id, hid, hsnap⟩ := List.mem_map.1 hsome
    obtain ⟨name', hname', hheld⟩ := hsnapshot x.ref fleet id (howner _ htarget) hsnap.symm
    obtain ⟨hplace, rfl⟩ := identity.one_place hx hheld rfl
    exact ⟨hplace.trans hname', hid⟩

/-- The call of a deletion takes the targets away and nothing else, provided that what it was
resolved in was true at some time. -/
theorem machines_of_carryOut {azure : Azure ρ} {group : ResourceGroup}
    {machines : ρ → String → List Machine} {snapshot : Snapshot} {fleet : Fleet} {ids : List String}
    {s t : System ρ} (identity : Machine.KeepIdentity held)
    (deletes : azure.DeletesExactly group machines) (hsnapshot : snapshot.WasTrue held)
    (howner : ∀ ref ∈ targets, snapshot.ownerOf? ref = some fleet)
    (hids : targets.eraseDups.map snapshot.instanceIdOf? = ids.map some)
    (present : ∀ name, ∀ x ∈ machines s.world.remote name, held name x)
    (h : carryOut (Client.checked azure group) (fleet, ids) s = (.ok (), t)) (name : String) :
    machines t.world.remote name = (machines s.world.remote name).filter (·.ref ∉ targets) := by
  obtain ⟨_, _, hreport, hcall⟩ := Action.bind_eq_ok_iff.1 h
  cases hreport
  obtain ⟨w, hdelete, rfl⟩ := Effect.lift_eq_iff.1 hcall
  have hafter := deletes fleet.name ids _ w hdelete name
  have hasked : ∀ x ∈ machines s.world.remote name, _ := fun x hx =>
    mem_ids_iff_asked identity hsnapshot howner hids (present name x hx)
  by_cases hname : lower name = lower fleet.name
  · rw [if_pos hname] at hafter
    refine hafter.trans (List.filter_congr fun x hx => ?_)
    simpa [hname] using hasked x hx
  · rw [if_neg hname] at hafter
    refine hafter.trans (List.filter_eq_self.2 fun x hx => ?_).symm
    simpa [hname] using hasked x hx

/-- Deletions take exactly what was asked for, however old the snapshot is. After any course of
deeds a deletion is resolved, any further deeds come in, and then the call goes out in a state that
may have nothing to do with the snapshot any more. If the deletion succeeds, every scale set has
lost those of its machines that were asked for and has kept all others. Of the remote side it is
used that machines keep their identity, that rebuilds learn the truth about the time at which they
ask, and what a deletion does. With no deeds in between this is an ordinary deletion. -/
theorem old_snapshot_deletes_targets {azure : Azure ρ} {group : ResourceGroup}
    {machines : ρ → String → List Machine} {held : String → Machine → Prop}
    (identity : Machine.KeepIdentity held) (deletes : azure.DeletesExactly group machines)
    (loop : RefreshLoop) (world : World ρ) (before between : List (Deed ρ))
    (targets : List InstanceRef) :
    let client := Client.checked azure group
    let start := System.start loop world
    let s := Deed.run client before start
    let s' := Deed.run client between (resolveDeletion client targets s).2
    deleteAmid client [] targets = deleteInstances client targets ∧
    (Deed.EveryRebuild client (fun visits => ∀ v ∈ visits, v.Faithful held)
        (before ++ [.resolveDeletion targets]) start →
      (∀ name, ∀ x ∈ machines s'.world.remote name, held name x) →
      ∀ t, deleteAmid client between targets s = (.ok (), t) →
        ∀ name, machines t.world.remote name =
          (machines s'.world.remote name).filter (·.ref ∉ targets)) := by
  intro client start s s'
  refine ⟨deleteAmid_nil client targets, ?_⟩
  intro faithful present t h name
  rcases hr : resolveDeletion client targets s with ⟨e | _ | ⟨fleet, ids⟩, s₁⟩
  · rw [deleteAmid, Action.bind_of_error hr] at h
    cases h
  · have hs' : s' = Deed.run client between s₁ := congrArg (fun r => Deed.run client between r.2) hr
    rw [deleteAmid, Action.bind_of_ok hr] at h
    cases h
    rw [eq_nil_of_resolveDeletion hr, hs']
    exact (List.filter_eq_self.2 fun x _ => by simp).symm
  · have hs' : s' = Deed.run client between s₁ := congrArg (fun r => Deed.run client between r.2) hr
    rw [deleteAmid, Action.bind_of_ok hr] at h
    have hcall : carryOut client (fleet, ids) s' = (.ok (), t) := hs' ▸ h
    have hsnapshot : s₁.snapshot.WasTrue held := by
      have hrun := Deed.snapshot_run Snapshot.wasTrue_empty
        (faithful.mono fun visits hv now => Snapshot.wasTrue_ofSightings hv now)
      rw [Deed.run_append_singleton] at hrun
      change (resolveDeletion client targets s).2.snapshot.WasTrue held at hrun
      rwa [hr] at hrun
    obtain ⟨howner, hids⟩ := of_resolveDeletion hr
    exact machines_of_carryOut identity deletes hsnapshot howner hids present hcall name

section Churn

/-- The pool that is found under the name of the first fleet, which it spells in another way. -/
def churning (members : List Member) : RemoteSet :=
  ⟨"pool-a", some "Pool-A", .int 2, true, members, .zero⟩

/-- The pool has other members all of a sudden. -/
def churn (members : List Member) (w : World InMemory) : World InMemory :=
  { w with remote := { w.remote with sets := [churning members] } }

def refA2 : InstanceRef := ⟨"azure:///vm/a2", "/vm/a2", by decide +kernel⟩

/-- The machines that are in the pool at one time or another. -/
def everInPool : List Machine := [⟨refA0, "0"⟩, ⟨refA1, "1"⟩, ⟨refA2, "2"⟩, ⟨refC0, "3"⟩]

/-- One target is gone and two machines have come since the snapshot was made; the call goes out
with the ids of both targets and spares the new machines. -/
theorem old_snapshot_deletes_targets_churn :
    let client := Client.checked InMemory.azure (.text "rg")
    let before : List (Deed InMemory) := [.register poolA, .refresh, .outside (churn
      [⟨some "1", some "/vm/a1"⟩, ⟨some "2", some "/vm/a2"⟩])]
    let between : List (Deed InMemory) := [.register poolB, .outside (churn
      [⟨some "2", some "/vm/a2"⟩, ⟨some "1", some "/vm/a1"⟩, ⟨some "3", some "/vm/c0"⟩])]
    let start := System.start (.fresh (.int 60)) (World.start
      (.ofSets [churning [⟨some "0", some "/VM/A0"⟩, ⟨some "1", some "/vm/a1"⟩]]) .zero)
    ∃ t, deleteAmid client between [refA0, refA1] (Deed.run client before start) = (.ok (), t) ∧
      t.world.remote.machines "POOL-A" = [⟨refA2, "2"⟩, ⟨refC0, "3"⟩] := by
  intro client before between start
  let held : String → Machine → Prop := fun name x => lower name = "pool-a" ∧ x ∈ everInPool
  have identity : Machine.KeepIdentity held := by
    have hids : ∀ x ∈ everInPool, ∀ y ∈ everInPool,
        x.ref = y.ref ↔ x.instanceId = y.instanceId := by decide +kernel
    constructor
    · rintro name name' x y ⟨hname, hx⟩ ⟨hname', hy⟩ href
      exact ⟨hname.trans hname'.symm, (hids x hx y hy).1 href⟩
    · rintro name name' x y ⟨-, hx⟩ ⟨-, hy⟩ - hid
      exact (hids x hx y hy).2 hid
  have h := old_snapshot_deletes_targets identity (InMemory.deletesExactly (.text "rg"))
    (.fresh (.int 60)) (World.start
      (.ofSets [churning [⟨some "0", some "/VM/A0"⟩, ⟨some "1", some "/vm/a1"⟩]]) .zero)
    before between [refA0, refA1]
  have hdone : deleteAmid client between [refA0, refA1] (Deed.run client before start) =
      (.ok (), _) := Prod.ext rfl rfl
  refine ⟨_, hdone, (h.2 ?_ ?_ _ hdone "POOL-A").trans (by decide +kernel)⟩
  · have hrefs : ∀ m ∈ [(⟨some "0", some "/VM/A0"⟩ : Member), ⟨some "1", some "/vm/a1"⟩],
        m.ref? ≠ none := by decide +kernel
    have hsurvey : Survey client [] (start.register poolA).world [⟨poolA, "Pool-A", _⟩] _ :=
      .cons (.intro (d := ⟨"Pool-A", _, _⟩) rfl rfl hrefs) .nil
    refine ⟨?_, ?_, ?_, ?_, trivial⟩
    · rintro visits w ⟨_, hw, -⟩
      cases hw
    · rintro visits w ⟨_, hw, hs, hf⟩
      cases hw
      obtain ⟨rfl, -⟩ := hs.unique hsurvey hf
      refine List.forall_mem_singleton.2 ⟨by decide +kernel, fun x hx => ⟨by decide +kernel, ?_⟩⟩
      revert x
      decide +kernel
    · rintro visits w ⟨_, hw, -⟩
      cases hw
    · rintro visits w ⟨_, hw, -⟩
      rw [Deed.rebuildsIn, if_pos (by decide +kernel)] at hw
      cases hw
  · intro name x hpresent
    obtain ⟨set, hset, hkey, hx⟩ := InMemory.set_of_mem_machines hpresent
    obtain rfl := List.mem_singleton.1 hset
    refine ⟨hkey.symm.trans (by decide +kernel), ?_⟩
    clear hpresent
    revert x
    decide +kernel

end Churn

end Manager
end FleetWarden
