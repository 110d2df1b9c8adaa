import FleetWarden.Proofs.Invariant
import FleetWarden.Proofs.Manager.Rebuilding

/-!
# The two parts of a deletion

A deletion is first resolved, in one snapshot, to a fleet and instance ids, and then carried out by
one call of the client. Nothing is held between the two parts, so other operations may come in.
-/

namespace FleetWarden
namespace Manager
variable {ρ : Type} {client : Client ρ} {s t : System ρ} {e : Fault} {targets : List InstanceRef}

theorem distinct_eq_eraseDups (targets : List InstanceRef) :
    distinct targets = targets.eraseDups := by
  induction targets with
  | nil => rfl
  | cons ref rest ih =>
      rw [distinct, ih, List.eraseDups_cons, filter_eraseDups]
      simp only [Bool.beq_eq_decide_eq, decide_not, ne_eq]

theorem all_distinct (p : InstanceRef → Bool) (targets : List InstanceRef) :
    (distinct targets).all p = targets.all p := by
  rw [Bool.eq_iff_iff, distinct_eq_eraseDups]
  simp [List.all_eq_true, List.mem_eraseDups]

section Resolve
variable {snapshot : Snapshot} {fleet : Fleet} {ids : List String}

theorem stranger?_eq_none_iff {others : List InstanceRef} :
    stranger? snapshot fleet others = none ↔
      ∀ ref ∈ others, snapshot.ownerOf? ref = some fleet := by
  simp [stranger?]

theorem idsOf_eq_ok_iff {refs : List InstanceRef} :
    idsOf snapshot refs = .ok ids ↔ refs.map snapshot.instanceIdOf? = ids.map some := by
  induction refs generalizing ids with
  | nil =>
      rw [idsOf, List.map_nil, Except.ok.injEq, eq_comm, @eq_comm _ [], List.map_eq_nil_iff]
  | cons ref rest ih =>
      rw [idsOf, List.map_cons]
      cases snapshot.instanceIdOf? ref with
      | none => cases ids <;> simp
      | some id =>
          constructor
          · intro h
            cases hrest : idsOf snapshot rest with
            | error e =>
                rw [hrest] at h
                cases h
            | ok others =>
                rw [hrest] at h
                cases h
                rw [ih.1 hrest, List.map_cons]
          · intro h
            cases ids with
            | nil => cases h
            | cons id' others =>
                obtain ⟨hid, hrest⟩ := List.cons.inj h
                cases hid
                rw [ih.2 hrest]
                rfl

theorem resolve_of_owner {first : InstanceRef} {others : List InstanceRef}
    (h : snapshot.ownerOf? first = some fleet) :
    resolve snapshot first others =
      match stranger? snapshot fleet others with
      | some ref => .error (.crossFleet ref fleet.name ((snapshot.ownerOf? ref).map (·.name)))
      | none => (idsOf snapshot (first :: others)).map (fleet, ·) := by
  cases hst : stranger? snapshot fleet others <;> simp only [resolve, h, hst]

theorem resolve_of_no_owner {first : InstanceRef} {others : List InstanceRef}
    (h : snapshot.ownerOf? first = none) :
    resolve snapshot first others = .error (.unmanaged first) := by
  rw [resolve, h]

/-- A deletion goes through exactly if one fleet owns all targets and all have an instance id. -/
theorem resolve_eq_ok_iff {first : InstanceRef} {others : List InstanceRef} :
    resolve snapshot first others = .ok (fleet, ids) ↔
      (∀ ref ∈ first :: others, snapshot.ownerOf? ref = some fleet) ∧
        (first :: others).map snapshot.instanceIdOf? = ids.map some := by
  rw [← idsOf_eq_ok_iff, List.forall_mem_cons, ← stranger?_eq_none_iff]
  constructor
  · intro h
    cases howner : snapshot.ownerOf? first with
    | none =>
        rw [resolve_of_no_owner howner] at h
        cases h
    | some f =>
        rw [resolve_of_owner howner] at h
        cases hst : stranger? snapshot f others with
        | some ref =>
            rw [hst] at h
            cases h
        | none =>
            rw [hst] at h
            cases hids : idsOf snapshot (first :: others) with
            | error e =>
                rw [hids] at h
                cases h
            | ok found =>
                rw [hids] at h
                cases h
                exact ⟨⟨rfl, hst⟩, rfl⟩
  · rintro ⟨⟨howner, hst⟩, hids⟩
    rw [resolve_of_owner howner, hst, hids]
    rfl

end Resolve

/-- A deletion up to its call: the fleet and the instance ids to delete there, if any. -/
def resolveDeletion (client : Client ρ) (targets : List InstanceRef) :
    Operation ρ (Option (Fleet × List String)) :=
  match distinct targets with
  | [] => pure none
  | first :: others => do
    let snapshot ← snapshotCovering client (first :: others)
    let plan ← Action.ofExcept (resolve snapshot first others)
    pure (some plan)

theorem resolveDeletion_of_nil (h : distinct targets = []) :
    resolveDeletion client targets s = (.ok none, s) := by
  rw [resolveDeletion, h]
  rfl

/-- All decisions of a deletion are made in one snapshot, and nothing is done after it is found. -/
theorem resolveDeletion_of_cons {first : InstanceRef} {others : List InstanceRef}
    (h : distinct targets = first :: others) :
    resolveDeletion client targets s =
      match snapshotCovering client (first :: others) s with
      | (.ok snapshot, t) => ((resolve snapshot first others).map some, t)
      | (.error e, t) => (.error e, t) := by
  rw [resolveDeletion, h]
  change (snapshotCovering client (first :: others) >>= _) s = _
  rcases hs : snapshotCovering client (first :: others) s with ⟨e | snapshot, t⟩
  · exact Action.bind_of_error hs
  · rw [Action.bind_of_ok hs]
    change _ = ((resolve snapshot first others).map some, t)
    cases resolve snapshot first others <;> rfl

theorem snapshot_of_snapshotCovering {snapshot : Snapshot}
    (h : snapshotCovering client targets s = (.ok snapshot, t)) : t.snapshot = snapshot := by
  by_cases hall : targets.all s.snapshot.contains = true
  · rw [snapshotCovering_of_all hall] at h
    cases h
    rfl
  · rw [snapshotCovering_of_not_all hall, refresh_eq] at h
    rcases hr : rebuild client s with ⟨e | _, t'⟩ <;> rw [hr] at h <;> cases h
    rfl

/-- What a deletion is resolved to stands in the snapshot that is current right after. -/
theorem of_resolveDeletion {fleet : Fleet} {ids : List String}
    (h : resolveDeletion client targets s = (.ok (some (fleet, ids)), t)) :
    (∀ ref ∈ targets, t.snapshot.ownerOf? ref = some fleet) ∧
      targets.eraseDups.map t.snapshot.instanceIdOf? = ids.map some := by
  have hdups := distinct_eq_eraseDups targets
  cases hd : distinct targets with
  | nil =>
      rw [resolveDeletion_of_nil hd] at h
      cases h
  | cons first others =>
      rw [resolveDeletion_of_cons hd] at h
      rcases hs : snapshotCovering client (first :: others) s with ⟨e | snapshot, t'⟩
      · rw [hs] at h
        cases h
      · rw [hs] at h
        obtain ⟨hplan, rfl⟩ := Prod.mk.inj h
        cases hr : resolve snapshot first others with
        | error e =>
            rw [hr] at hplan
            cases hplan
        | ok plan =>
            rw [hr] at hplan
            cases hplan
            obtain ⟨howner, hids⟩ := resolve_eq_ok_iff.1 hr
            rw [snapshot_of_snapshotCovering hs, ← hdups, hd]
            refine ⟨fun ref hmem => howner ref ?_, hids⟩
            rwa [← hd, hdups, List.mem_eraseDups]

theorem eq_nil_of_resolveDeletion (h : resolveDeletion client targets s = (.ok none, t)) :
    targets = [] := by
  cases targets with
  | nil => rfl
  | cons first others =>
      rw [resolveDeletion_of_cons rfl] at h
      rcases hs : snapshotCovering client _ s with ⟨e | snapshot, t'⟩
      · rw [hs] at h
        cases h
      · rw [hs] at h
        obtain ⟨hplan, -⟩ := Prod.mk.inj h
        cases hr : resolve snapshot first ((distinct others).filter (· ≠ first)) with
        | error e =>
            rw [hr] at hplan
            cases hplan
        | ok plan =>
            rw [hr] at hplan
            cases hplan

/-- The call of a deletion. -/
def carryOut (client : Client ρ) (plan : Fleet × List String) : Operation ρ Unit := do
  report (.deleting plan.2.length plan.1.name)
  Effect.lift (client.delete plan.1.name plan.2)

theorem deleteInstances_eq (client : Client ρ) (targets : List InstanceRef) :
    deleteInstances client targets = (do
      match ← resolveDeletion client targets with
      | none => pure ()
      | some plan => carryOut client plan) := by
  rw [deleteInstances, resolveDeletion]
  cases distinct targets with
  | nil => rfl
  | cons first others =>
      simp only [bind_assoc, pure_bind]
      rfl

section Keeps
variable {I : System ρ → Prop} (hI : ∀ s w, I s → I { s with world := w })
variable (hc : ∀ s snapshot names, I s → I (s.commit snapshot names))
include hI hc

theorem keeps_resolveDeletion (targets : List InstanceRef) :
    Action.Keeps I (resolveDeletion client targets) := by
  unfold resolveDeletion
  cases distinct targets with
  | nil => exact Action.keeps_pure _
  | cons first others =>
      exact (keeps_snapshotCovering hI hc _).bind fun _ =>
        (Action.keeps_ofExcept _).bind fun _ => Action.keeps_pure _

theorem keeps_deleteInstances (targets : List InstanceRef) :
    Action.Keeps I (deleteInstances client targets) := by
  rw [deleteInstances_eq]
  refine (keeps_resolveDeletion hI hc targets).bind fun plan? => ?_
  cases plan? with
  | none => exact Action.keeps_pure _
  | some plan => exact (keeps_report hI _).bind fun _ => Action.keeps_lift hI _

end Keeps

end Manager
end FleetWarden
