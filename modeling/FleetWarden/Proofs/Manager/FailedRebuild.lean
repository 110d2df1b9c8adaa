import FleetWarden.Cloud.InMemory
import FleetWarden.Proofs.Cloud.Refusals
import FleetWarden.Proofs.Manager.Deletion

/-!
# Rebuilds that fail

A rebuild that comes to an end before its time is as if it had not been begun: whoever asked for it
gets the fault of the point where it ended, and only the world shows that there was a rebuild.
-/

namespace FleetWarden

open Rebuild

namespace Manager
variable {ρ : Type} {client : Client ρ} {s : System ρ} {e : Fault} {w : World ρ}

theorem rebuild_of_halt (h : Halt client [] s.world s.fleets e w) :
    rebuild client s = (.error e, { s with world := w }) :=
  rebuild_eq_error_iff.2 ⟨w, h, rfl⟩

theorem refresh_of_halt (h : Halt client [] s.world s.fleets e w) :
    refresh client s = (.error e, { s with world := w }) := by
  rw [refresh_eq, rebuild_of_halt h]

theorem findOwner_of_halt {ref : InstanceRef} (hr : s.snapshot.ownerOf? ref = none)
    (h : Halt client [] (s.world.report (.lookingFor ref)) s.fleets e w) :
    findOwner client ref s =
      (.error e, { s with world := w.report (.lookupFailed ref e.message) }) := by
  rw [findOwner_of_no_owner hr, rebuild_of_halt (s := s.report (.lookingFor ref)) h]
  rfl

theorem resolveDeletion_of_halt {targets : List InstanceRef}
    (hr : ∃ ref ∈ targets, s.snapshot.ownerOf? ref = none)
    (h : Halt client [] s.world s.fleets e w) :
    resolveDeletion client targets s = (.error e, { s with world := w }) := by
  have hunknown : ∃ ref ∈ distinct targets, s.snapshot.contains ref = false := by
    obtain ⟨ref, hmem, hr⟩ := hr
    rw [distinct_eq_eraseDups]
    exact ⟨ref, List.mem_eraseDups.2 hmem, Snapshot.contains_eq_false_iff.2 hr⟩
  cases hd : distinct targets with
  | nil => simp [hd] at hunknown
  | cons first others =>
      rw [hd] at hunknown
      rw [resolveDeletion_of_cons hd, snapshotCovering_of_unknown hunknown, refresh_of_halt h]

theorem deleteInstances_of_halt {targets : List InstanceRef}
    (hr : ∃ ref ∈ targets, s.snapshot.ownerOf? ref = none)
    (h : Halt client [] s.world s.fleets e w) :
    deleteInstances client targets s = (.error e, { s with world := w }) := by
  rw [deleteInstances_eq, Action.bind_of_error (resolveDeletion_of_halt hr h)]

theorem tick_of_halt (h : Halt client [] { s.world with log := [] } s.fleets e w) :
    s.tick (rebuild client) =
      { s with
        loop := { s.loop with ticks := s.loop.ticks + 1, lastError := some e }.beginWait w.threads
        world := s.world.handOver (w.report (.tickFailed e.message)) } := by
  have hq := rebuild_of_halt (s := { s with world := { s.world with log := [] } }) h
  simp only [System.tick]
  rw [hq]
  rfl

/-- A rebuild that fails is atomic for all who make one. `refresh`, a lookup that misses and a
deletion with an unknown target answer with the very fault of the point where the rebuild ended, and
leave entries, observed names and snapshot as they were; the world is the one that the failed
question left, so nothing is asked after it. A round of the loop ends in the same records, remembers
the fault, and counts. No rebuild fails in any other way, and for the checked client the points are
those of `DescribeFails` and `ListFails`, besides a member without a key. -/
theorem failed_rebuild_changes_nothing (client : Client ρ) (s : System ρ) :
    (∀ e w, Halt client [] s.world s.fleets e w →
      refresh client s = (.error e, { s with world := w })) ∧
    (∀ ref e w, s.snapshot.ownerOf? ref = none →
      Halt client [] (s.world.report (.lookingFor ref)) s.fleets e w →
      findOwner client ref s =
        (.error e, { s with world := w.report (.lookupFailed ref e.message) })) ∧
    (∀ targets e w, (∃ ref ∈ targets, s.snapshot.ownerOf? ref = none) →
      Halt client [] s.world s.fleets e w →
      deleteInstances client targets s = (.error e, { s with world := w })) ∧
    (∀ e w, Halt client [] { s.world with log := [] } s.fleets e w →
      let t := s.tick (rebuild client)
      t.entries = s.entries ∧ t.snapshot = s.snapshot ∧ t.rebuilds = s.rebuilds ∧
        t.world.remote = w.remote ∧ t.loop.lastError = some e ∧
        t.loop.lastSuccess = s.loop.lastSuccess ∧ t.loop.ticks = s.loop.ticks + 1) ∧
    (∀ e t, rebuild client s = (.error e, t) →
      ∃ w, Halt client [] s.world s.fleets e w ∧ t = { s with world := w }) ∧
    ∀ azure group, client = Client.checked azure group → ∀ name w e w',
      (client.describe name w = (.error e, w') ↔
        Client.DescribeFails azure group name w e w') ∧
      (client.list name w = (.error e, w') ↔ Client.ListFails azure group name w e w') := by
  refine ⟨fun e w h => refresh_of_halt h, fun ref e w hr h => findOwner_of_halt hr h,
    fun targets e w hr h => deleteInstances_of_halt hr h, ?_,
    fun e t h => rebuild_eq_error_iff.1 h, ?_⟩
  · intro e w h
    rw [tick_of_halt h]
    exact ⟨rfl, rfl, rfl, rfl, rfl, rfl, rfl⟩
  · rintro azure group rfl name w e w'
    exact ⟨Client.describeChecked_eq_error_iff, Client.listChecked_eq_error_iff⟩

section TwoPools

/-- Two scale sets with three instances. -/
def twoPools : World InMemory :=
  .start (.ofSets [
    ⟨"pool-a", none, .int 2, true, [⟨some "0", some "/vm/a0"⟩, ⟨some "1", some "/vm/a1"⟩], .zero⟩,
    ⟨"pool-b", none, .int 1, true, [⟨some "0", some "/vm/b0"⟩], .zero⟩]) .zero

def poolA : Fleet := ⟨0, ⟨"pool-a", 0, 3, by decide +kernel, by decide⟩⟩

def poolB : Fleet := ⟨1, ⟨"pool-b", 0, 3, by decide +kernel, by decide⟩⟩

def refA0 : InstanceRef := ⟨"azure:///vm/a0", "/vm/a0", by decide +kernel⟩

def refA1 : InstanceRef := ⟨"azure:///vm/a1", "/vm/a1", by decide +kernel⟩

def refB0 : InstanceRef := ⟨"azure:///vm/b0", "/vm/b0", by decide +kernel⟩

/-- An instance of neither pool. -/
def refC0 : InstanceRef := ⟨"azure:///vm/c0", "/vm/c0", by decide +kernel⟩

/-- A manager of both pools after a rebuild, since when the second pool cannot be described. -/
def halfBroken : System InMemory :=
  let loop : RefreshLoop := { RefreshLoop.fresh (.int 60) with stage := .waiting, ticks := 4 }
  let s := ((System.start loop twoPools).register poolA).register poolB
  let t := (refresh (Client.checked InMemory.azure (.text "rg")) s).2
  let failures : List Failure := [⟨.get, some "pool-b", .raised (.azure .response) "busy", none⟩]
  { t with world := { t.world with remote := { t.world.remote with failures } } }

/-- The first pool was described and listed by then, and none of it shows. -/
theorem failed_rebuild_changes_nothing_halfBroken :
    let client := Client.checked InMemory.azure (.text "rg")
    let busy : Fault := .raised (.azure .response) "busy"
    halfBroken.snapshot.refs = [refA0, refA1, refB0] ∧
    (∃ w, refresh client halfBroken = (.error busy, { halfBroken with world := w })) ∧
    (∃ w, findOwner client refC0 halfBroken = (.error busy, { halfBroken with world := w })) ∧
    (∃ w, deleteInstances client [refA0, refC0] halfBroken =
      (.error busy, { halfBroken with world := w })) ∧
    (halfBroken.tick (rebuild client)).loop.lastError = some busy := by
  intro client busy
  have hrefresh : Halt client [] halfBroken.world halfBroken.fleets busy _ :=
    run_eq_error_iff.1 (Prod.ext rfl rfl)
  have hlookup : Halt client [] (halfBroken.world.report (.lookingFor refC0)) halfBroken.fleets
      busy _ := run_eq_error_iff.1 (Prod.ext rfl rfl)
  have htick : Halt client [] { halfBroken.world with log := [] } halfBroken.fleets busy _ :=
    run_eq_error_iff.1 (Prod.ext rfl rfl)
  have hunknown : halfBroken.snapshot.ownerOf? refC0 = none := by decide +kernel
  have h := failed_rebuild_changes_nothing client halfBroken
  refine ⟨by decide +kernel, ⟨_, h.1 _ _ hrefresh⟩, ⟨_, h.2.1 _ _ _ hunknown hlookup⟩,
    ⟨_, h.2.2.1 _ _ _ ⟨refC0, ?_, hunknown⟩ hrefresh⟩, (h.2.2.2.1 _ _ htick).2.2.2.2.1⟩
  exact List.mem_cons_of_mem _ List.mem_cons_self

end TwoPools

end Manager
end FleetWarden
