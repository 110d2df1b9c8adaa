import FleetWarden.Manager.LoopScript
import FleetWarden.Proofs.Manager.Lifecycle
import FleetWarden.Proofs.Numeral.Rounding

/-!
# Starts that fail

A start that is refused leaves everything as it was, and one that returns has begun the loop. Two
failures come too late for that. If no thread can be created, the loop is left without the one that
it was to have: from then on it cannot be started, and the first stop fails. And a whole number
beyond all double-precision numbers cannot be told as the interval. By the time that this fails, the
loop is begun and has made its first round, and whether it goes on depends on whether so long a wait
can be begun.
-/

namespace FleetWarden

open Numeral Binary64

/-- Intervals that cannot be told. -/
theorem Numeral.Quantity.wholeText?_eq_none_iff {q : Quantity} :
    q.wholeText? = none ↔ ∃ n, q = .int n ∧ twoTo 1024 - twoTo 970 ≤ n.natAbs := by
  rw [wholeText?, Option.map_eq_none_iff]
  cases q with
  | int n => simp [number?, ofInt?_eq_none_iff]
  | float x => simp [number?]
  | truth b => simp [number?]

namespace System
variable {ρ : Type} {s : System ρ}

/-- The loop's thread is created between the two states. -/
def Begins (s t : System ρ) : Prop :=
  s.loop.stage.hasThread = false ∧ t.loop.stage.hasThread = true

/-- A start that fails does nothing, and one that returns begins the loop. -/
def StartsWhole {ε : Type} (start : Action (System ρ) ε Unit) (s : System ρ) : Prop :=
  match start s with
  | (.ok _, t) => s.Begins t
  | (.error _, t) => t = s

/-- The loop may be started, but there is no thread for it. -/
def LacksThread (s : System ρ) : Prop :=
  s.loop.checkStart = .ok () ∧ s.world.threads.spawns = false

/-- The loop may be started with a thread, but its interval cannot be told. -/
def StartsTooLarge (s : System ρ) : Prop :=
  s.loop.checkStart = .ok () ∧ s.world.threads.spawns = true ∧
    ∃ n, s.loop.interval = .int n ∧ twoTo 1024 - twoTo 970 ≤ n.natAbs

/-- The loop has no thread and cannot get one, and the first stop fails. -/
structure Stranded (s : System ρ) : Prop where
  not_hasThread : s.loop.stage.hasThread = false
  not_running : s.loop.isRunning = false
  not_startable : s.loop.checkStart = .error .alreadyStarted
  not_stoppable : (shutDown s).1 = .error .neverBegun

theorem begins_tick (refresh : Operation ρ Unit) (h : s.loop.checkStart = .ok ()) :
    s.Begins (s.tick refresh) :=
  ⟨congrArg (·.hasThread) (RefreshLoop.checkStart_eq_ok_iff.1 h).2,
    RefreshLoop.hasThread_beginWait _ _⟩

theorem stranded_withoutThread (h : s.loop.checkStart = .ok ()) : s.withoutThread.Stranded := by
  have hstopped := (RefreshLoop.checkStart_eq_ok_iff.1 h).1
  constructor
  · rfl
  · rfl
  · exact RefreshLoop.checkStart_of_started hstopped nofun
  · simp [shutDown, joinsNone, withoutThread, hstopped]

theorem withoutThread_ne (h : s.loop.checkStart = .ok ()) : s.withoutThread ≠ s := by
  intro hsame
  have hstage := congrArg (·.loop.stage) hsame
  cases hstage.trans (RefreshLoop.checkStart_eq_ok_iff.1 h).2

theorem startLoop_of_tooLarge (refresh : Operation ρ Unit) (h : s.StartsTooLarge) :
    startLoop refresh s = (.error .intervalOverflow, s.tick refresh) := by
  rw [startLoop_of_spawns h.1 h.2.1, Quantity.wholeText?_eq_none_iff.2 h.2.2]

theorem startsWhole_startLoop (refresh : Operation ρ Unit) (hthread : ¬s.LacksThread)
    (hlarge : ¬s.StartsTooLarge) : StartsWhole (startLoop refresh) s := by
  rw [StartsWhole]
  cases hc : s.loop.checkStart with
  | error reason => rw [startLoop_of_refused hc]
  | ok u =>
      have hspawns : s.world.threads.spawns = true :=
        Bool.eq_true_of_not_eq_false fun hno => hthread ⟨hc, hno⟩
      cases htext : s.loop.interval.wholeText? with
      | none => exact absurd ⟨hc, hspawns, Quantity.wholeText?_eq_none_iff.1 htext⟩ hlarge
      | some text =>
          rw [startLoop_of_spawns hc hspawns, htext]
          exact begins_tick refresh hc

/-- Telling a failure differently makes no difference to what a start does. -/
theorem StartsWhole.mapError {ε ε' : Type} {start : Action (System ρ) ε Unit} (f : ε → ε')
    (h : StartsWhole start s) : StartsWhole (start.mapError f) s := by
  rw [StartsWhole] at h ⊢
  rw [Action.mapError]
  rcases hstart : start s with ⟨e | u, t⟩ <;> rwa [hstart] at h

end System

namespace Manager
variable {ρ : Type}

/-- A start of the loop, or of its manager, does all or nothing, except in two cases. If the loop
may be started and no thread can be created for it, the start fails and leaves the loop stranded. If
it may be started with a thread, but its interval is a whole number that rounds to no
double-precision number, the start fails when the loop was begun; in a manager that has made its
first round by then, and it is running if a wait of that length can be begun. -/
theorem starts_whole_unless_late (s : System ρ) :
    (∀ refresh : Operation ρ Unit,
      (¬s.LacksThread → ¬s.StartsTooLarge →
        System.StartsWhole (System.startLoop refresh) s) ∧
      (s.LacksThread →
        System.startLoop refresh s = (.error .noThread, s.withoutThread) ∧
          s.withoutThread ≠ s ∧ s.withoutThread.Stranded) ∧
      (s.StartsTooLarge →
        System.startLoop refresh s = (.error .intervalOverflow, s.tick refresh) ∧
          s.Begins (s.tick refresh))) ∧
    ∀ client : Client ρ,
      (¬s.LacksThread → ¬s.StartsTooLarge → System.StartsWhole (startLoop client) s) ∧
      (s.LacksThread →
        startLoop client s = (.error (.broke .noThread), s.withoutThread)) ∧
      (s.StartsTooLarge →
        let t := s.tick (rebuild client)
        startLoop client s = (.error (.broke .intervalOverflow), t) ∧ s.Begins t ∧
          t.loop.isRunning = t.world.threads.canWait s.loop.interval ∧
          t.loop.ticks = s.loop.ticks + 1) := by
  refine ⟨fun refresh => ⟨System.startsWhole_startLoop refresh, fun h => ?_, fun h => ?_⟩,
    fun client => ⟨fun hthread hlarge => ?_, fun h => ?_, fun h => ?_⟩⟩
  · exact ⟨System.startLoop_of_not_spawns h.1 h.2, System.withoutThread_ne h.1,
      System.stranded_withoutThread h.1⟩
  · exact ⟨System.startLoop_of_tooLarge refresh h, System.begins_tick refresh h.1⟩
  · exact (System.startsWhole_startLoop (rebuild client) hthread hlarge).mapError StartError.ofLoop
  · exact startLoop_of_not_spawns h.1 h.2
  · intro t
    have hstart : startLoop client s = (.error (.broke .intervalOverflow), t) := by
      rw [startLoop, Action.mapError, System.startLoop_of_tooLarge _ h]
      rfl
    have hstopped := (RefreshLoop.checkStart_eq_ok_iff.1 h.1).1
    have hthreads : t.world.threads =
        (Attempt.ofRebuild client s { s.world with log := [] }).threads :=
      Deed.threads_tick client s
    refine ⟨hstart, System.begins_tick _ h.1, ?_, ?_⟩
    · rw [hthreads, Deed.loop_tick, RefreshLoop.isRunning, RefreshLoop.stage_round, hstopped]
      cases (Attempt.ofRebuild client s _).threads.canWait s.loop.interval <;> rfl
    · rw [Deed.loop_tick, RefreshLoop.ticks_round]

/-- A loop that has yet to make its first round, with an interval of 2¹⁰²⁴ seconds. -/
def endless (threads : ThreadHost) : LoopScript.Stage :=
  System.start (.fresh (.int (twoTo 1024))) ⟨[], .zero, [], [], threads⟩

/-- Its start fails after its first round. Where a wait may be as long as it likes the loop goes on,
and elsewhere it ends. -/
theorem start_leaves_endless_begun :
    LoopScript.make (.int (twoTo 1024)) [] .zero = .ok (endless .patient) ∧
    (∀ host ∈ [ThreadHost.patient, ThreadHost.standard],
      (System.startLoop LoopScript.refresh (endless host)).1 = .error .intervalOverflow ∧
      (System.startLoop LoopScript.refresh (endless host)).2.loop.ticks = 1 ∧
      ¬System.StartsWhole (System.startLoop LoopScript.refresh) (endless host)) ∧
    (System.startLoop LoopScript.refresh (endless .patient)).2.loop.isRunning = true ∧
    (System.startLoop LoopScript.refresh (endless .standard)).2.loop.isRunning = false := by
  have hlarge : ∀ host ∈ [ThreadHost.patient, ThreadHost.standard],
      (endless host).StartsTooLarge := by
    simp only [List.mem_cons, List.not_mem_nil, or_false]
    rintro host (rfl | rfl) <;> exact ⟨rfl, rfl, _, rfl, by decide +kernel⟩
  have hstart := fun host hmem =>
    System.startLoop_of_tooLarge LoopScript.refresh (hlarge host hmem)
  refine ⟨?_, fun host hmem => ⟨?_, ?_, ?_⟩, ?_, ?_⟩
  · have hpositive : (Quantity.int (twoTo 1024)).atMostZero = false := by decide +kernel
    rw [LoopScript.make, RefreshLoop.make, hpositive]
    rfl
  · rw [hstart host hmem]
  · rw [hstart host hmem]
    rfl
  · rw [System.StartsWhole, hstart host hmem]
    intro hsame
    have hticks := congrArg (·.loop.ticks) hsame
    cases hticks
  · rw [hstart _ (by simp)]
    decide +kernel
  · rw [hstart _ (by simp)]
    decide +kernel

end Manager
end FleetWarden
