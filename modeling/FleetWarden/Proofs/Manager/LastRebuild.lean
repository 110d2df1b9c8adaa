import FleetWarden.Proofs.Manager.Deeds

/-!
# The last rebuild decides

What a manager knows after any course of deeds comes from the last rebuild that succeeded: the
snapshot as a whole, and the observed names of all fleets that were registered by then. Fleets that
were registered since go by their own names, and without such a rebuild there is no snapshot yet.
-/

namespace FleetWarden

open Rebuild

namespace Deed
variable {ρ : Type} {client : Client ρ}

/-- No rebuild succeeds in a course of deeds. -/
def NoRebuild (client : Client ρ) : List (Deed ρ) → System ρ → Prop :=
  EveryRebuild client fun _ => False

theorem noRebuild_append_singleton {deeds : List (Deed ρ)} {d : Deed ρ} {s : System ρ} :
    NoRebuild client (deeds ++ [d]) s ↔
      NoRebuild client deeds s ∧ ∀ visits w, ¬d.Rebuilds client (run client deeds s) visits w := by
  simp [NoRebuild, everyRebuild_append, EveryRebuild]

/-- A rebuild that succeeds at some point of a course of deeds and has no successor there: its
visits, the world it left, and the deeds before and after. -/
def IsLastRebuild (client : Client ρ) (deeds : List (Deed ρ)) (s : System ρ)
    (before after : List (Deed ρ)) (visits : List Visit) (w : World ρ) : Prop :=
  ∃ d, deeds = before ++ d :: after ∧ d.Rebuilds client (run client before s) visits w ∧
    NoRebuild client after (run client (before ++ [d]) s)

/-- Either no rebuild succeeded, and the records grew by what was registered, or the last one that
did determines them, together with what was registered since. -/
theorem records_run (client : Client ρ) (deeds : List (Deed ρ)) (s : System ρ) :
    (NoRebuild client deeds s ∧
      (run client deeds s).records = s.records.register (deeds.flatMap registered)) ∨
    ∃ before after visits w, IsLastRebuild client deeds s before after visits w ∧
      (run client deeds s).records =
        Records.register ⟨visits.map (·.entry), .ofSightings (visits.flatMap (·.sightings)) w.clock,
          (run client before s).rebuilds + 1⟩ (after.flatMap registered) := by
  induction deeds using List.reverseRecOn with
  | nil => exact Or.inl ⟨trivial, by simp⟩
  | append_singleton deeds d ih =>
      rw [run_append_singleton]
      rcases perform_cases client d (run client deeds s) with ⟨visits, w, hd, h⟩ | ⟨hd, h⟩
      · refine Or.inr ⟨deeds, [], visits, w, ⟨d, rfl, hd, trivial⟩, ?_⟩
        simpa using h
      · rcases ih with ⟨hn, hr⟩ | ⟨before, after, visits, w, ⟨d', rfl, hd', hn⟩, hr⟩
        · refine Or.inl ⟨noRebuild_append_singleton.2 ⟨hn, hd⟩, ?_⟩
          simp [h, hr]
        · have hrun : run client after (run client (before ++ [d']) s) =
              run client (before ++ d' :: after) s := by
            rw [← run_append, List.append_assoc, List.singleton_append]
          refine Or.inr ⟨before, after ++ [d], visits, w, ⟨d', by simp, hd', ?_⟩, ?_⟩
          · exact noRebuild_append_singleton.2 ⟨hn, hrun ▸ hd⟩
          · simp [h, hr]

/-- What every manager knows after every course of deeds. Owners and instance ids cover the same
instances, owners are registered fleets, and the registry lists the registrations in order. Without
a rebuild that succeeded the snapshot is empty. Otherwise the last one decides: the last report of
an instance in its listings gives both its owner and its instance id, a fleet registered before it
goes by the name that it learned, and a fleet registered since goes by its own. -/
theorem manager_follows_last_rebuild (client : Client ρ) (loop : RefreshLoop) (world : World ρ)
    (deeds : List (Deed ρ)) :
    let start := System.start loop world
    let s := run client deeds start
    (∀ ref, ref ∈ s.snapshot.owners.keys ↔ ref ∈ s.snapshot.instanceIds.keys) ∧
    (∀ ref fleet, s.snapshot.ownerOf? ref = some fleet → fleet ∈ deeds.flatMap registered) ∧
    s.fleets = deeds.flatMap registered ∧
    ((NoRebuild client deeds start ∧ s.snapshot = .empty ∧
        s.entries = (deeds.flatMap registered).map fun fleet => ⟨fleet, fleet.name⟩) ∨
      ∃ before after visits w, IsLastRebuild client deeds start before after visits w ∧
        visits.map (·.fleet) = before.flatMap registered ∧
        s.snapshot = .ofSightings (visits.flatMap (·.sightings)) w.clock ∧
        (∀ ref, s.snapshot.ownerOf? ref =
            (Sighting.last? (visits.flatMap (·.sightings)) ref).map (·.fleet) ∧
          s.snapshot.instanceIds.get? ref =
            (Sighting.last? (visits.flatMap (·.sightings)) ref).map (·.instanceId)) ∧
        s.entries = visits.map (fun v => ⟨v.fleet, v.name⟩) ++
          (after.flatMap registered).map fun fleet => ⟨fleet, fleet.name⟩) := by
  intro start s
  have hfleets : s.fleets = deeds.flatMap registered := fleets_run deeds start
  rcases records_run client deeds start with ⟨hn, hr⟩ | ⟨before, after, visits, w, hl, hr⟩
  · have hsnap : s.snapshot = .empty := congrArg Records.snapshot hr
    refine ⟨s.snapshot.covers, ?_, hfleets, Or.inl ⟨hn, hsnap, congrArg Records.entries hr⟩⟩
    intro ref fleet h
    rw [hsnap] at h
    cases h
  · have hsnap : s.snapshot = .ofSightings (visits.flatMap (·.sightings)) w.clock :=
      congrArg Records.snapshot hr
    have hvisits : visits.map (·.fleet) = before.flatMap registered := by
      obtain ⟨d, -, ⟨_, -, -, hf⟩, -⟩ := hl
      exact hf.trans (fleets_run before start)
    refine ⟨s.snapshot.covers, ?_, hfleets, Or.inr ⟨before, after, visits, w, hl, hvisits, hsnap,
      ?_, congrArg Records.entries hr⟩⟩
    · intro ref fleet h
      rw [hsnap, Snapshot.ownerOf?_ofSightings] at h
      obtain ⟨x, hx, rfl⟩ := Option.map_eq_some_iff.1 h
      have hmem : x.fleet ∈ before.flatMap registered := hvisits ▸ fleet_mem_of_last? hx
      obtain ⟨d, rfl, -⟩ := hl
      rw [List.flatMap_append]
      exact List.mem_append_left _ hmem
    · intro ref
      rw [hsnap]
      exact ⟨Snapshot.ownerOf?_ofSightings, Snapshot.get?_instanceIds_ofSightings⟩

end Deed
end FleetWarden
