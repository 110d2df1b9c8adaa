import FleetWarden.Proofs.Manager.Deletion

/-!
# Courses of deeds

A deed is anything that is done to a manager or happens around it. `perform_cases` says all that a
deed can do to what the manager knows: replace it by a survey, add entries, or nothing. What holds
after every course of deeds follows from it.

## Implementation notes

Operations that hold the lock for all of their work are one deed each. A deletion lets go of the
lock before its call, so its first part is a deed of its own too, and the call counts as something
that happens outside.
-/

namespace FleetWarden

open Rebuild

/-- What a manager knows, as opposed to its loop and its world. -/
structure Records where
  entries : List Entry
  snapshot : Snapshot
  rebuilds : Nat

namespace Records

/-- The records with entries for further fleets. -/
def register (r : Records) (fleets : List Fleet) : Records :=
  { r with entries := r.entries ++ fleets.map Entry.fresh }

@[simp] theorem register_nil (r : Records) : r.register [] = r := by
  simp [register]

@[simp] theorem register_register (r : Records) (first second : List Fleet) :
    (r.register first).register second = r.register (first ++ second) := by
  simp [register]

end Records

def System.records {ρ : Type} (s : System ρ) : Records := ⟨s.entries, s.snapshot, s.rebuilds⟩

/-- Something that is done to a manager or happens around it. -/
inductive Deed (ρ : Type) where
  | register (fleet : Fleet)
  | refresh
  | findOwner (ref : InstanceRef)
  | deleteInstances (targets : List InstanceRef)
  /-- A deletion up to its call. -/
  | resolveDeletion (targets : List InstanceRef)
  | setSize (fleet : Fleet) (target : Int)
  | getSize (fleet : Fleet)
  | fleetInstances (fleet : Fleet)
  | startLoop
  | wakeLoop
  | stopLoop
  /-- A change of the world: of the remote side, by time passing, or by a call of the client that
  the manager has no part in. -/
  | outside (change : World ρ → World ρ)

namespace Deed
variable {ρ : Type}

/-- The manager after the deed, whether or not the deed succeeds. -/
def perform (client : Client ρ) : Deed ρ → System ρ → System ρ
  | register fleet, s => s.register fleet
  | refresh, s => (Manager.refresh client s).2
  | findOwner ref, s => (Manager.findOwner client ref s).2
  | deleteInstances targets, s => (Manager.deleteInstances client targets s).2
  | resolveDeletion targets, s => (Manager.resolveDeletion client targets s).2
  | setSize fleet target, s => (Manager.setSize client fleet target s).2
  | getSize fleet, s => (Manager.getSize client fleet s).2
  | fleetInstances fleet, s => (Manager.fleetInstances client fleet s).2
  | startLoop, s => (Manager.startLoop client s).2
  | wakeLoop, s => s.wake (Manager.rebuild client)
  | stopLoop, s => s.stopLoop
  | outside change, s => { s with world := change s.world }

/-- The fleets that the deed registers. -/
def registered : Deed ρ → List Fleet
  | register fleet => [fleet]
  | _ => []

/-- The world in which the deed begins a rebuild, if it makes one. -/
def rebuildsIn : Deed ρ → System ρ → Option (World ρ)
  | refresh, s => some s.world
  | findOwner ref, s =>
    if s.snapshot.contains ref then none else some (s.world.report (.lookingFor ref))
  | deleteInstances targets, s =>
    if targets.all s.snapshot.contains then none else some s.world
  | resolveDeletion targets, s =>
    if targets.all s.snapshot.contains then none else some s.world
  | startLoop, s =>
    match s.loop.checkStart with
    | .ok _ => if s.world.threads.spawns then some { s.world with log := [] } else none
    | .error _ => none
  | wakeLoop, s => if s.loop.isRunning then some { s.world with log := [] } else none
  | _, _ => none

/-- The deed makes a rebuild, which succeeds with these visits in this world. -/
def Rebuilds (client : Client ρ) (d : Deed ρ) (s : System ρ) (visits : List Visit)
    (w : World ρ) : Prop :=
  ∃ w₀, d.rebuildsIn s = some w₀ ∧ Survey client [] w₀ visits w ∧
    visits.map (·.fleet) = s.fleets

variable {client : Client ρ} {s : System ρ} {w : World ρ}

theorem records_tick (s : System ρ) :
    (s.tick (Manager.rebuild client)).records =
      (Manager.rebuild client { s with world := { s.world with log := [] } }).2.records := by
  rw [System.tick]
  rcases Manager.rebuild client { s with world := { s.world with log := [] } } with ⟨_ | _, t⟩ <;>
    rfl

theorem records_carryOut (plan : Fleet × List String) (s : System ρ) :
    (Manager.carryOut client plan s).2.records = s.records := rfl

theorem records_snapshotCovering (targets : List InstanceRef) (s : System ρ) :
    (Manager.snapshotCovering client targets s).2.records =
      if targets.all s.snapshot.contains then s.records
      else (Manager.rebuild client s).2.records := by
  split
  next h => rw [Manager.snapshotCovering_of_all h]
  next h =>
    rw [Manager.snapshotCovering_of_not_all h, Manager.refresh_eq]
    rcases Manager.rebuild client s with ⟨_ | _, t⟩ <;> rfl

theorem records_resolveDeletion (targets : List InstanceRef) (s : System ρ) :
    (Manager.resolveDeletion client targets s).2.records =
      if targets.all s.snapshot.contains then s.records
      else (Manager.rebuild client s).2.records := by
  rw [← Manager.all_distinct]
  cases hd : Manager.distinct targets with
  | nil => rw [Manager.resolveDeletion_of_nil hd, List.all_nil, if_pos rfl]
  | cons first others =>
      rw [← records_snapshotCovering, Manager.resolveDeletion_of_cons hd]
      rcases Manager.snapshotCovering client (first :: others) s with ⟨_ | _, t⟩ <;> rfl

theorem records_deleteInstances (targets : List InstanceRef) (s : System ρ) :
    (Manager.deleteInstances client targets s).2.records =
      if targets.all s.snapshot.contains then s.records
      else (Manager.rebuild client s).2.records := by
  rw [← records_resolveDeletion, Manager.deleteInstances_eq]
  rcases h : Manager.resolveDeletion client targets s with ⟨e | _ | plan, t⟩
  · rw [Action.bind_of_error h]
  · rw [Action.bind_of_ok h]
    rfl
  · rw [Action.bind_of_ok h]
    exact records_carryOut plan t

theorem records_findOwner (ref : InstanceRef) (s : System ρ) :
    (Manager.findOwner client ref s).2.records =
      if s.snapshot.contains ref then s.records
      else (Manager.rebuild client (s.report (.lookingFor ref))).2.records := by
  cases h : s.snapshot.ownerOf? ref with
  | some fleet =>
      rw [Manager.findOwner_of_owner h, if_pos (Snapshot.contains_iff.2 ⟨fleet, h⟩)]
      rfl
  | none =>
      have hc : ¬s.snapshot.contains ref = true := by
        rw [Snapshot.contains_eq_false_iff.2 h]
        exact Bool.false_ne_true
      rw [Manager.findOwner_of_no_owner h, if_neg hc]
      rcases Manager.rebuild client (s.report (.lookingFor ref)) with ⟨_ | _, t⟩ <;> rfl

theorem records_startLoop (s : System ρ) :
    (Manager.startLoop client s).2.records =
      match s.loop.checkStart with
      | .ok _ =>
        if s.world.threads.spawns then (s.tick (Manager.rebuild client)).records else s.records
      | .error _ => s.records := by
  cases h : s.loop.checkStart with
  | error e => rw [Manager.startLoop_of_refused h]
  | ok u =>
      cases hspawns : s.world.threads.spawns with
      | false =>
          rw [Manager.startLoop_of_not_spawns h hspawns]
          rfl
      | true =>
          rw [Manager.startLoop_of_spawns h hspawns]
          cases s.loop.interval.wholeText? <;> rfl

theorem records_wake (s : System ρ) :
    (s.wake (Manager.rebuild client)).records =
      if s.loop.isRunning then (s.tick (Manager.rebuild client)).records else s.records := by
  rw [System.wake]
  split <;> rfl

theorem records_stopLoop (s : System ρ) : s.stopLoop.records = s.records := by
  rw [System.stopLoop]
  split
  · rfl
  · split <;> rfl

theorem records_setSize (fleet : Fleet) (target : Int) (s : System ρ) :
    (Manager.setSize client fleet target s).2.records = s.records :=
  Manager.keeps_setSize (I := (·.records = s.records)) (fun _ _ h => h) fleet target s rfl

theorem records_getSize (fleet : Fleet) (s : System ρ) :
    (Manager.getSize client fleet s).2.records = s.records :=
  Manager.keeps_getSize (I := (·.records = s.records)) (fun _ _ h => h) fleet s rfl

theorem records_fleetInstances (fleet : Fleet) (s : System ρ) :
    (Manager.fleetInstances client fleet s).2.records = s.records :=
  Manager.keeps_fleetInstances (I := (·.records = s.records)) (fun _ _ h => h) fleet s rfl

/-- A deed that makes a rebuild does to the records what the rebuild does; any other deed adds the
entries that it registers, and nothing else. -/
theorem records_perform (d : Deed ρ) (s : System ρ) :
    (d.perform client s).records =
      match d.rebuildsIn s with
      | none => s.records.register d.registered
      | some w => (Manager.rebuild client { s with world := w }).2.records := by
  have hs : s.records.register [] = s.records := Records.register_nil _
  cases d with
  | register fleet => rfl
  | refresh =>
      rw [perform, Manager.refresh_eq]
      change _ = (Manager.rebuild client s).2.records
      rcases Manager.rebuild client s with ⟨_ | _, t⟩ <;> rfl
  | findOwner ref =>
      rw [perform, records_findOwner, rebuildsIn]
      by_cases h : s.snapshot.contains ref = true
      · rw [if_pos h, if_pos h]
        exact hs.symm
      · rw [if_neg h, if_neg h]
        rfl
  | deleteInstances targets =>
      rw [perform, records_deleteInstances, rebuildsIn]
      by_cases h : targets.all s.snapshot.contains = true
      · rw [if_pos h, if_pos h]
        exact hs.symm
      · rw [if_neg h, if_neg h]
  | resolveDeletion targets =>
      rw [perform, records_resolveDeletion, rebuildsIn]
      by_cases h : targets.all s.snapshot.contains = true
      · rw [if_pos h, if_pos h]
        exact hs.symm
      · rw [if_neg h, if_neg h]
  | setSize fleet target => exact (records_setSize fleet target s).trans hs.symm
  | getSize fleet => exact (records_getSize fleet s).trans hs.symm
  | fleetInstances fleet => exact (records_fleetInstances fleet s).trans hs.symm
  | startLoop =>
      rw [perform, records_startLoop, rebuildsIn]
      cases s.loop.checkStart with
      | error e => exact hs.symm
      | ok u =>
          cases s.world.threads.spawns with
          | false => exact hs.symm
          | true => exact records_tick s
  | wakeLoop =>
      rw [perform, records_wake, rebuildsIn]
      by_cases h : s.loop.isRunning = true
      · rw [if_pos h, if_pos h]
        exact records_tick s
      · rw [if_neg h, if_neg h]
        exact hs.symm
  | stopLoop => exact (records_stopLoop s).trans hs.symm
  | outside change => exact hs.symm

theorem registered_of_rebuildsIn {d : Deed ρ} (h : d.rebuildsIn s = some w) :
    d.registered = [] := by
  cases d <;> first | rfl | cases h

/-- All that a deed can do to the records: either a survey replaces them, or no rebuild succeeds and
all that happens is that fleets are registered. -/
theorem perform_cases (client : Client ρ) (d : Deed ρ) (s : System ρ) :
    (∃ visits w, d.Rebuilds client s visits w ∧
      (d.perform client s).records =
        ⟨visits.map (·.entry), .ofSightings (visits.flatMap (·.sightings)) w.clock,
          s.rebuilds + 1⟩) ∨
    ((∀ visits w, ¬d.Rebuilds client s visits w) ∧
      (d.perform client s).records = s.records.register d.registered) := by
  have hp : (d.perform client s).records = _ := records_perform d s
  cases hd : d.rebuildsIn s with
  | none =>
      rw [hd] at hp
      refine Or.inr ⟨?_, hp⟩
      rintro visits w ⟨w₀, hw, -⟩
      rw [hd] at hw
      cases hw
  | some w₀ =>
      rw [hd] at hp
      change _ = (Manager.rebuild client { s with world := w₀ }).2.records at hp
      rcases hr : Manager.rebuild client { s with world := w₀ } with ⟨e | u, t⟩
      · refine Or.inr ⟨?_, ?_⟩
        · rintro visits w ⟨_, hw, hs, hf⟩
          obtain rfl := Option.some.inj (hd.symm.trans hw)
          have hok := (Manager.rebuild_eq_ok_iff (s := { s with world := w₀ })).2
            ⟨visits, w, hs, hf, rfl⟩
          cases hr.symm.trans hok
        · obtain ⟨w, -, rfl⟩ := Manager.rebuild_eq_error_iff.1 hr
          rw [hp, hr, registered_of_rebuildsIn hd, Records.register_nil]
          rfl
      · obtain ⟨visits, w, hs, hf, rfl⟩ := Manager.rebuild_eq_ok_iff.1 hr
        refine Or.inl ⟨visits, w, ⟨w₀, hd, hs, hf⟩, ?_⟩
        rw [hp, hr]
        rfl

theorem fleets_perform (d : Deed ρ) (s : System ρ) :
    (d.perform client s).fleets = s.fleets ++ d.registered := by
  change (d.perform client s).records.entries.map (·.fleet) = _
  rcases perform_cases client d s with ⟨visits, w, ⟨w₀, hw, -, hf⟩, h⟩ | ⟨-, h⟩
  · rw [h, registered_of_rebuildsIn hw, List.append_nil, ← hf]
    simp [Visit.entry]
  · rw [h]
    simp [Records.register, System.records, System.fleets, Function.comp_def]

/-- The manager after deeds that are done one after the other. -/
def run (client : Client ρ) (deeds : List (Deed ρ)) (s : System ρ) : System ρ :=
  deeds.foldl (fun s d => d.perform client s) s

@[simp] theorem run_nil (s : System ρ) : run client [] s = s := rfl

theorem run_cons (d : Deed ρ) (rest : List (Deed ρ)) (s : System ρ) :
    run client (d :: rest) s = run client rest (d.perform client s) := rfl

theorem run_append (first second : List (Deed ρ)) (s : System ρ) :
    run client (first ++ second) s = run client second (run client first s) :=
  List.foldl_append

theorem run_append_singleton (deeds : List (Deed ρ)) (d : Deed ρ) (s : System ρ) :
    run client (deeds ++ [d]) s = d.perform client (run client deeds s) := by
  rw [run_append, run_cons, run_nil]

/-- The registry lists the registrations in their order, repetitions included. -/
theorem fleets_run (deeds : List (Deed ρ)) (s : System ρ) :
    (run client deeds s).fleets = s.fleets ++ deeds.flatMap registered := by
  induction deeds generalizing s with
  | nil => simp
  | cons d rest ih => rw [run_cons, ih, fleets_perform, List.flatMap_cons, List.append_assoc]

/-- The visits of every rebuild that succeeds in a course of deeds meet a condition. -/
def EveryRebuild (client : Client ρ) (P : List Visit → Prop) : List (Deed ρ) → System ρ → Prop
  | [], _ => True
  | d :: rest, s =>
    (∀ visits w, d.Rebuilds client s visits w → P visits) ∧
      EveryRebuild client P rest (d.perform client s)

theorem everyRebuild_append {P : List Visit → Prop} {first second : List (Deed ρ)} :
    EveryRebuild client P (first ++ second) s ↔
      EveryRebuild client P first s ∧ EveryRebuild client P second (run client first s) := by
  induction first generalizing s with
  | nil => simp [EveryRebuild]
  | cons d rest ih => simp [EveryRebuild, ih, run_cons, and_assoc]

theorem EveryRebuild.mono {P Q : List Visit → Prop} (hPQ : ∀ visits, P visits → Q visits)
    {deeds : List (Deed ρ)} (h : EveryRebuild client P deeds s) :
    EveryRebuild client Q deeds s := by
  induction deeds generalizing s with
  | nil => trivial
  | cons d rest ih => exact ⟨fun visits w hd => hPQ visits (h.1 visits w hd), ih h.2⟩

/-- What holds of the snapshot at first and of what every rebuild leaves holds of it ever after. -/
theorem snapshot_run {Q : Snapshot → Prop} {deeds : List (Deed ρ)} (hs : Q s.snapshot)
    (h : EveryRebuild client
      (fun visits => ∀ now, Q (.ofSightings (visits.flatMap (·.sightings)) now)) deeds s) :
    Q (run client deeds s).snapshot := by
  induction deeds generalizing s with
  | nil => exact hs
  | cons d rest ih =>
      refine ih ?_ h.2
      change Q (d.perform client s).records.snapshot
      rcases perform_cases client d s with ⟨visits, w, hd, hr⟩ | ⟨-, hr⟩
      · rw [hr]
        exact h.1 visits w hd w.clock
      · rw [hr]
        exact hs

end Deed
end FleetWarden
