import FleetWarden.Manager.Operations
import FleetWarden.Proofs.Membership.Survey

/-!
# Operations by the rebuilds they make

A rebuild of a manager either replaces entries and snapshot together or changes nothing but the
world. Every operation that rebuilds is described by the state in which it begins to, so nothing
below needs to open the rebuild again.
-/

namespace FleetWarden

open Numeral Rebuild

theorem Effect.lift_eq_iff {ρ α : Type} {x : Effect ρ α} {s t : System ρ} {o : Except Fault α} :
    Effect.lift x s = (o, t) ↔ ∃ w, x s.world = (o, w) ∧ t = { s with world := w } := by
  constructor
  · intro h
    cases h
    exact ⟨_, rfl, rfl⟩
  · rintro ⟨w, hx, rfl⟩
    simp [Effect.lift, Action.within, hx]

namespace System
variable {ρ : Type}

/-- What a survey leaves: entries and snapshot both come from its visits. -/
def renewed (s : System ρ) (visits : List Visit) (w : World ρ) : System ρ :=
  let snapshot := Snapshot.ofSightings (visits.flatMap (·.sightings)) w.clock
  { s with
    entries := visits.map (·.entry)
    snapshot
    rebuilds := s.rebuilds + 1
    world := w.report (.rebuilt snapshot.size visits.length (w.clock.sub s.world.clock)) }

theorem zipWith_names {entries : List Entry} {visits : List Visit}
    (h : visits.map (·.fleet) = entries.map (·.fleet)) :
    entries.zipWith (fun entry name => { entry with observedName := name })
      (visits.map (·.name)) = visits.map (·.entry) := by
  induction visits generalizing entries with
  | nil => simp
  | cons v rest ih =>
      cases entries with
      | nil => cases h
      | cons entry others =>
          obtain ⟨hv, hrest⟩ := List.cons.inj h
          have he : { entry with observedName := v.name } = v.entry := by
            simp [Visit.entry, hv]
          simp [he, ih hrest]

/-- A loop that may not be started is left alone. -/
theorem startLoop_of_refused {refresh : Operation ρ Unit} {s : System ρ} {reason : LoopError}
    (h : s.loop.checkStart = .error reason) : startLoop refresh s = (.error reason, s) := by
  rw [startLoop, Action.bind_of_ok (Action.look_apply _ s), h]
  exact Action.bind_of_error (Action.fail_apply reason s)

theorem beginLoop_of_spawns {refresh : Operation ρ Unit} {s : System ρ}
    (h : s.world.threads.spawns = true) : beginLoop refresh s = (.ok (), s.tick refresh) := by
  rw [beginLoop, Action.bind_of_ok (Action.look_apply _ s), if_pos h, Action.change_apply]

theorem beginLoop_of_not_spawns {refresh : Operation ρ Unit} {s : System ρ}
    (h : s.world.threads.spawns = false) :
    beginLoop refresh s = (.error .noThread, s.withoutThread) := by
  rw [beginLoop, Action.bind_of_ok (Action.look_apply _ s), h]
  exact Action.bind_of_ok (Action.change_apply _ s)

/-- The first round comes before the interval is told. -/
theorem startLoop_of_spawns {refresh : Operation ρ Unit} {s : System ρ}
    (h : s.loop.checkStart = .ok ()) (hspawns : s.world.threads.spawns = true) :
    startLoop refresh s =
      match s.loop.interval.wholeText? with
      | some text => (.ok (), (s.tick refresh).report (.loopStarted text))
      | none => (.error .intervalOverflow, s.tick refresh) := by
  rw [startLoop, Action.bind_of_ok (Action.look_apply _ s), h]
  change (beginLoop refresh >>= _) s = _
  rw [Action.bind_of_ok (beginLoop_of_spawns hspawns)]
  cases s.loop.interval.wholeText? <;> rfl

theorem startLoop_of_not_spawns {refresh : Operation ρ Unit} {s : System ρ}
    (h : s.loop.checkStart = .ok ()) (hspawns : s.world.threads.spawns = false) :
    startLoop refresh s = (.error .noThread, s.withoutThread) := by
  rw [startLoop, Action.bind_of_ok (Action.look_apply _ s), h]
  change (beginLoop refresh >>= _) s = _
  exact Action.bind_of_error (beginLoop_of_not_spawns hspawns)

end System

namespace Manager
variable {ρ : Type} {client : Client ρ} {s t : System ρ} {e : Fault}

theorem rebuild_eq_ok_iff :
    rebuild client s = (.ok (), t) ↔
      ∃ visits w, Survey client [] s.world visits w ∧ visits.map (·.fleet) = s.fleets ∧
        t = s.renewed visits w := by
  simp only [rebuild, report, Action.bind_eq_ok_iff, Action.look_apply, Action.change_apply,
    Effect.lift_eq_iff, Prod.mk.injEq, Except.ok.injEq]
  constructor
  · rintro ⟨_, _, ⟨rfl, rfl⟩, _, _, ⟨rfl, rfl⟩, ⟨snapshot, names⟩, _, ⟨w, hr, rfl⟩, _, _,
      ⟨-, rfl⟩, _, _, ⟨rfl, rfl⟩, -, rfl⟩
    obtain ⟨visits, hs, hf, rfl, rfl⟩ := run_eq_ok_iff.1 hr
    refine ⟨visits, w, hs, hf, ?_⟩
    simp [System.renewed, System.commit, System.report, System.zipWith_names hf, ← hf]
  · rintro ⟨visits, w, hs, hf, rfl⟩
    have hr := run_eq_ok_iff.2 ⟨visits, hs, hf, rfl, rfl⟩
    refine ⟨_, _, ⟨rfl, rfl⟩, _, _, ⟨rfl, rfl⟩, _, _, ⟨w, hr, rfl⟩, (), _, ⟨trivial, rfl⟩, _, _,
      ⟨rfl, rfl⟩, trivial, ?_⟩
    simp [System.renewed, System.commit, System.report, System.zipWith_names hf, ← hf]

/-- A rebuild that fails leaves everything but the world as it was. -/
theorem rebuild_eq_error_iff :
    rebuild client s = (.error e, t) ↔
      ∃ w, Halt client [] s.world s.fleets e w ∧ t = { s with world := w } := by
  simp only [rebuild, report, Action.bind_eq_error_iff, Action.look_apply, Action.change_apply,
    Effect.lift_eq_iff, Prod.mk.injEq, Except.ok.injEq, reduceCtorEq, false_and, false_or,
    and_false, or_false, exists_false, run_eq_error_iff]
  constructor
  · rintro ⟨_, _, ⟨rfl, rfl⟩, _, _, ⟨rfl, rfl⟩, h⟩
    exact h
  · intro h
    exact ⟨_, _, ⟨rfl, rfl⟩, _, _, ⟨rfl, rfl⟩, h⟩

theorem refresh_eq (client : Client ρ) (s : System ρ) :
    refresh client s =
      match rebuild client s with
      | (.ok _, t) => (.ok t.snapshot, t)
      | (.error e, t) => (.error e, t) := by
  rcases h : rebuild client s with ⟨e | _, t⟩
  · exact Action.bind_of_error h
  · exact Action.bind_of_ok h

variable {ref : InstanceRef}

theorem findOwner_of_owner {fleet : Fleet} (h : s.snapshot.ownerOf? ref = some fleet) :
    findOwner client ref s = (.ok (some fleet), s.report (.lookingFor ref)) := by
  have hr : (s.report (.lookingFor ref)).snapshot.ownerOf? ref = some fleet := h
  rw [findOwner, report, Action.bind_of_ok (Action.change_apply _ s),
    Action.bind_of_ok (Action.look_apply _ _), hr]
  rfl

theorem findOwner_of_no_owner (h : s.snapshot.ownerOf? ref = none) :
    findOwner client ref s =
      match rebuild client (s.report (.lookingFor ref)) with
      | (.ok _, t) => (.ok (t.snapshot.ownerOf? ref), t)
      | (.error e, t) => (.error e, t.report (.lookupFailed ref e.message)) := by
  have hr : (s.report (.lookingFor ref)).snapshot.ownerOf? ref = none := h
  rw [findOwner, report, Action.bind_of_ok (Action.change_apply _ s),
    Action.bind_of_ok (Action.look_apply _ _), hr]
  rcases h : rebuild client (s.report (.lookingFor ref)) with ⟨e | _, t⟩
  · exact Action.bind_of_error (Action.onFailure_eq_error_iff.2 ⟨t, h, rfl⟩)
  · exact Action.bind_of_ok (Action.onFailure_eq_ok_iff.2 h)

variable {targets : List InstanceRef}

theorem snapshotCovering_of_all (h : targets.all s.snapshot.contains = true) :
    snapshotCovering client targets s = (.ok s.snapshot, s) := by
  rw [snapshotCovering, Action.bind_of_ok (Action.look_apply _ s), if_pos h, Action.pure_apply]

theorem snapshotCovering_of_not_all (h : ¬targets.all s.snapshot.contains = true) :
    snapshotCovering client targets s = refresh client s := by
  rw [snapshotCovering, Action.bind_of_ok (Action.look_apply _ s), if_neg h, refresh]

theorem snapshotCovering_of_unknown (h : ∃ ref ∈ targets, s.snapshot.contains ref = false) :
    snapshotCovering client targets s = refresh client s :=
  snapshotCovering_of_not_all (by simpa using h)

variable {reason : LoopError}

/-- A loop that may not be started stays as it was, and so does all else. -/
theorem startLoop_of_refused (h : s.loop.checkStart = .error reason) :
    startLoop client s = (.error (.ofLoop reason), s) := by
  rw [startLoop, Action.mapError, System.startLoop_of_refused h]
  rfl

/-- A loop that may be started makes its first round if there is a thread for it, whatever is said
about it afterwards. -/
theorem startLoop_of_spawns (h : s.loop.checkStart = .ok ())
    (hspawns : s.world.threads.spawns = true) :
    startLoop client s =
      match s.loop.interval.wholeText? with
      | some text => (.ok (), (s.tick (rebuild client)).report (.loopStarted text))
      | none => (.error (.broke .intervalOverflow), s.tick (rebuild client)) := by
  rw [startLoop, Action.mapError, System.startLoop_of_spawns h hspawns]
  cases s.loop.interval.wholeText? <;> rfl

theorem startLoop_of_not_spawns (h : s.loop.checkStart = .ok ())
    (hspawns : s.world.threads.spawns = false) :
    startLoop client s = (.error (.broke .noThread), s.withoutThread) := by
  rw [startLoop, Action.mapError, System.startLoop_of_not_spawns h hspawns]
  rfl

end Manager
end FleetWarden
