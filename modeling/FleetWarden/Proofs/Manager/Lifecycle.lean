import FleetWarden.Proofs.Manager.Deeds
import FleetWarden.Proofs.Manager.FailedRebuild

/-!
# The life of a refresh loop

Of all deeds only starts, wake-ups and stops touch the loop of a manager; `loopStep_perform` says
what each of them does to it. Two things are carried through every course of deeds from there: where
the loop stands follows from the starts and stops so far (`Follows`), and what it shows of itself
follows from its attempts to rebuild (`Shows`).

## Implementation notes

A stop waits for a round that is under way, so such a round stands before the stop in a course of
deeds.
-/

namespace FleetWarden

open Numeral

/-- An attempt of the loop to rebuild: what came of it, when it was over, and what there is to be
had of threads by then. -/
structure Attempt where
  outcome : Except Fault Unit
  endedAt : Binary64
  threads : ThreadHost

namespace Attempt

/-- The attempt that a manager makes in a world. -/
def ofRebuild {ρ : Type} (client : Client ρ) (s : System ρ) (w : World ρ) : Attempt :=
  let rebuilt := Manager.rebuild client { s with world := w }
  ⟨rebuilt.1, rebuilt.2.world.clock, rebuilt.2.world.threads⟩

def fault? (a : Attempt) : Option Fault :=
  match a.outcome with
  | .ok _ => none
  | .error e => some e

def succeeded (a : Attempt) : Bool := a.outcome.isOk

theorem fault?_eq_none_iff {a : Attempt} : a.fault? = none ↔ a.outcome = .ok () := by
  obtain ⟨e | u, now, threads⟩ := a <;> simp [fault?]

end Attempt

namespace RefreshLoop
variable {interval : Quantity} {l : RefreshLoop}

/-- The loop after one more round. -/
def round (l : RefreshLoop) (a : Attempt) : RefreshLoop :=
  (l.noteTick a.endedAt a.outcome).beginWait a.threads

theorem stopped_round (l : RefreshLoop) (a : Attempt) : (l.round a).stopped = l.stopped := by
  obtain ⟨_ | _, now, threads⟩ := a <;> rfl

theorem stage_round (l : RefreshLoop) (a : Attempt) :
    (l.round a).stage =
      if !l.stopped && a.threads.canWait l.interval then .waiting else .ended := by
  obtain ⟨_ | _, now, threads⟩ := a <;> rfl

/-- Whoever waits, or has found out that no wait can be begun, has a thread. -/
theorem hasThread_beginWait (threads : ThreadHost) (l : RefreshLoop) :
    (l.beginWait threads).stage.hasThread = true := by
  rw [beginWait]
  dsimp only
  split <;> rfl

theorem hasThread_round (l : RefreshLoop) (a : Attempt) : (l.round a).stage.hasThread = true :=
  hasThread_beginWait _ _

theorem ticks_round (l : RefreshLoop) (a : Attempt) : (l.round a).ticks = l.ticks + 1 := by
  obtain ⟨_ | _, now, threads⟩ := a <;> rfl

theorem stage_round_ne_idle (l : RefreshLoop) (a : Attempt) : (l.round a).stage ≠ .idle := by
  rw [stage_round]
  split <;> exact nofun

theorem hasThread_stop (l : RefreshLoop) : l.stop.stage.hasThread = l.stage.hasThread := by
  rw [stop]
  cases h : l.stage <;> rfl

/-- What a loop with this interval shows of itself after these attempts. -/
structure Shows (interval : Quantity) (tried : List Attempt) (l : RefreshLoop) : Prop where
  interval_eq : l.interval = interval
  ticks_eq : l.ticks = tried.length
  lastError_eq : l.lastError = tried.getLast?.bind (·.fault?)
  lastSuccess_eq : l.lastSuccess = (tried.filter (·.succeeded)).getLast?.map (·.endedAt)
  waits_eq : l.waits = List.replicate tried.length interval

theorem make_eq_ok_iff :
    make interval = .ok l ↔
      interval.atMostZero = false ∧ l = fresh interval := by
  rw [make]
  cases interval.atMostZero <;> simp [eq_comm]

theorem stage_of_make (h : make interval = .ok l) : l.stage = .idle := by
  obtain ⟨-, rfl⟩ := make_eq_ok_iff.1 h
  rfl

theorem Shows.of_make (h : make interval = .ok l) : Shows interval [] l := by
  obtain ⟨-, rfl⟩ := make_eq_ok_iff.1 h
  exact ⟨rfl, rfl, rfl, rfl, rfl⟩

theorem Shows.round {tried : List Attempt} (h : Shows interval tried l) (a : Attempt) :
    Shows interval (tried ++ [a]) (l.round a) := by
  obtain ⟨outcome, now, threads⟩ := a
  have hwaits : l.waits ++ [l.interval] = List.replicate (tried.length + 1) interval := by
    rw [h.waits_eq, h.interval_eq, List.replicate_succ']
  cases outcome with
  | error e =>
      constructor
      · exact h.interval_eq
      · simp [RefreshLoop.round, noteTick, beginWait, h.ticks_eq]
      · simp [RefreshLoop.round, noteTick, beginWait, Attempt.fault?]
      · simpa [RefreshLoop.round, noteTick, beginWait, Attempt.succeeded, Except.isOk,
          Except.toBool] using h.lastSuccess_eq
      · simpa [RefreshLoop.round, noteTick, beginWait] using hwaits
  | ok u =>
      constructor
      · exact h.interval_eq
      · simp [RefreshLoop.round, noteTick, beginWait, h.ticks_eq]
      · simp [RefreshLoop.round, noteTick, beginWait, Attempt.fault?]
      · simp [RefreshLoop.round, noteTick, beginWait, Attempt.succeeded, Except.isOk, Except.toBool]
      · simpa [RefreshLoop.round, noteTick, beginWait] using hwaits

theorem checkStart_eq_ok_iff : l.checkStart = .ok () ↔ l.stopped = false ∧ l.stage = .idle := by
  unfold checkStart
  cases l.stopped <;> simp

theorem checkStart_of_stopped (h : l.stopped = true) : l.checkStart = .error .afterStop := by
  rw [checkStart, if_pos h]

theorem checkStart_of_started (hstopped : l.stopped = false) (hstage : l.stage ≠ .idle) :
    l.checkStart = .error .alreadyStarted := by
  simp [checkStart, hstopped, hstage]

end RefreshLoop

namespace Deed
variable {ρ : Type} {client : Client ρ} {s : System ρ} {l l' : RefreshLoop}

/-- The deed has the loop make a round, if it makes any. -/
def isRound : Deed ρ → Bool
  | startLoop => true
  | wakeLoop => true
  | _ => false

/-- The attempt to rebuild that the loop makes in the deed, if it makes one. -/
def attempt? (client : Client ρ) (d : Deed ρ) (s : System ρ) : Option Attempt :=
  if d.isRound then (d.rebuildsIn s).map (.ofRebuild client s) else none

/-- The world in which the deed creates the loop's thread: there is none before it, and one
after. -/
def thread? (client : Client ρ) (d : Deed ρ) (s : System ρ) : Option (World ρ) :=
  if !s.loop.stage.hasThread && (d.perform client s).loop.stage.hasThread then some s.world
  else none

/-- What there is to be recorded in a course of deeds, each deed in the state that it finds. -/
def recorded {α : Type} (client : Client ρ) (f : Deed ρ → System ρ → Option α) :
    List (Deed ρ) → System ρ → List α
  | [], _ => []
  | d :: rest, s => (f d s).toList ++ recorded client f rest (d.perform client s)

theorem recorded_append {α : Type} (f : Deed ρ → System ρ → Option α) (first second : List (Deed ρ))
    (s : System ρ) :
    recorded client f (first ++ second) s =
      recorded client f first s ++ recorded client f second (run client first s) := by
  induction first generalizing s with
  | nil => rfl
  | cons d rest ih => simp [recorded, ih, run_cons]

theorem recorded_append_singleton {α : Type} (f : Deed ρ → System ρ → Option α)
    (deeds : List (Deed ρ)) (d : Deed ρ) (s : System ρ) :
    recorded client f (deeds ++ [d]) s =
      recorded client f deeds s ++ (f d (run client deeds s)).toList := by
  simp [recorded_append, recorded]

/-- The attempts that the loop makes in a course of deeds. -/
def attempts (client : Client ρ) : List (Deed ρ) → System ρ → List Attempt :=
  recorded client (attempt? client)

/-- The worlds in which threads of the loop are created in a course of deeds. -/
def threads (client : Client ρ) : List (Deed ρ) → System ρ → List (World ρ) :=
  recorded client (thread? client)

/-- All that a deed can do to the loop: a start begins a loop that is neither started nor stopped,
or leaves it without a thread, a wake-up has a waiting one do another round, a stop ends one that is
not stopped yet, and nothing else has any effect. -/
inductive LoopStep : Deed ρ → RefreshLoop → Option Attempt → RefreshLoop → Prop
  | begin {l : RefreshLoop} (a : Attempt) (hstopped : l.stopped = false)
      (hstage : l.stage = .idle) : LoopStep startLoop l (some a) (l.round a)
  | giveUp {l : RefreshLoop} (hstopped : l.stopped = false) (hstage : l.stage = .idle) :
      LoopStep startLoop l none { l with stage := .threadless }
  | goOn {l : RefreshLoop} (a : Attempt) (hstage : l.stage = .waiting) :
      LoopStep wakeLoop l (some a) (l.round a)
  | stop {l : RefreshLoop} (hstopped : l.stopped = false) : LoopStep stopLoop l none l.stop
  | rest {l : RefreshLoop} {d : Deed ρ}
      (hstart : d = startLoop → l.stopped = true ∨ l.stage ≠ .idle)
      (hwake : d = wakeLoop → l.stage ≠ .waiting) (hstop : d = stopLoop → l.stopped = true) :
      LoopStep d l none l

theorem loop_tick (s : System ρ) :
    (s.tick (Manager.rebuild client)).loop =
      s.loop.round (.ofRebuild client s { s.world with log := [] }) := by
  have hkeeps : Action.Keeps (·.loop = s.loop) (Manager.rebuild client) :=
    Manager.keeps_rebuild (fun _ _ h => h) fun _ _ _ h => h
  rw [System.tick, Attempt.ofRebuild]
  rcases hr : Manager.rebuild client { s with world := { s.world with log := [] } } with ⟨o, t⟩
  have ht : t.loop = s.loop := hkeeps.of_eq (by rfl) hr
  rw [RefreshLoop.round, ← ht]
  cases o <;> rfl

theorem threads_tick (client : Client ρ) (s : System ρ) :
    (s.tick (Manager.rebuild client)).world.threads =
      (Attempt.ofRebuild client s { s.world with log := [] }).threads := by
  rw [System.tick, Attempt.ofRebuild]
  rcases Manager.rebuild client { s with world := { s.world with log := [] } } with ⟨_ | _, t⟩ <;>
    rfl

/-- A start makes the loop's first round, whether or not the interval can be told. -/
theorem loop_startLoop (h : s.loop.checkStart = .ok ()) (hspawns : s.world.threads.spawns = true) :
    (startLoop.perform client s).loop =
      s.loop.round (.ofRebuild client s { s.world with log := [] }) := by
  rw [perform, Manager.startLoop_of_spawns h hspawns, ← loop_tick]
  cases s.loop.interval.wholeText? <;> rfl

theorem loopStep_startLoop (client : Client ρ) (s : System ρ) :
    LoopStep (startLoop : Deed ρ) s.loop (startLoop.attempt? client s)
      (startLoop.perform client s).loop := by
  cases hc : s.loop.checkStart with
  | error e =>
      have ha : startLoop.attempt? client s = none := by
        simp [attempt?, isRound, rebuildsIn, hc]
      have hp : (startLoop.perform client s).loop = s.loop := by
        rw [perform, Manager.startLoop_of_refused hc]
      rw [ha, hp]
      apply LoopStep.rest
      · intro _
        by_cases hs : s.loop.stopped = true
        · exact Or.inl hs
        · refine Or.inr fun hi => ?_
          have hok := RefreshLoop.checkStart_eq_ok_iff.2 ⟨Bool.eq_false_iff.2 hs, hi⟩
          cases hok.symm.trans hc
      · intro hwake
        cases hwake
      · intro hstop
        cases hstop
  | ok u =>
      obtain ⟨hstopped, hstage⟩ := RefreshLoop.checkStart_eq_ok_iff.1 hc
      cases hspawns : s.world.threads.spawns with
      | false =>
          have ha : startLoop.attempt? client s = none := by
            simp [attempt?, isRound, rebuildsIn, hc, hspawns]
          rw [ha, perform, Manager.startLoop_of_not_spawns hc hspawns]
          exact .giveUp hstopped hstage
      | true =>
          have ha : startLoop.attempt? client s =
              some (.ofRebuild client s { s.world with log := [] }) := by
            simp [attempt?, isRound, rebuildsIn, hc, hspawns]
          rw [ha, loop_startLoop hc hspawns]
          exact .begin _ hstopped hstage

theorem loopStep_wakeLoop (client : Client ρ) (s : System ρ) :
    LoopStep (wakeLoop : Deed ρ) s.loop (wakeLoop.attempt? client s)
      (wakeLoop.perform client s).loop := by
  cases hr : s.loop.isRunning with
  | false =>
      have ha : wakeLoop.attempt? client s = none := by
        simp [attempt?, isRound, rebuildsIn, hr]
      have hp : (wakeLoop.perform client s).loop = s.loop := by
        simp [perform, System.wake, hr]
      rw [ha, hp]
      apply LoopStep.rest
      · intro hstart
        cases hstart
      · intro _
        exact of_decide_eq_false hr
      · intro hstop
        cases hstop
  | true =>
      have ha : wakeLoop.attempt? client s =
          some (.ofRebuild client s { s.world with log := [] }) := by
        simp [attempt?, isRound, rebuildsIn, hr]
      have hp : (wakeLoop.perform client s).loop = (s.tick (Manager.rebuild client)).loop := by
        simp [perform, System.wake, hr]
      rw [ha, hp, loop_tick]
      exact .goOn _ (of_decide_eq_true hr)

theorem loopStep_stopLoop (client : Client ρ) (s : System ρ) :
    LoopStep (stopLoop : Deed ρ) s.loop (stopLoop.attempt? client s)
      (stopLoop.perform client s).loop := by
  cases hs : s.loop.stopped with
  | false =>
      have hp : (stopLoop.perform client s).loop = s.loop.stop := by
        rw [perform, System.stopLoop, hs, if_neg Bool.false_ne_true]
        split <;> rfl
      exact hp ▸ .stop hs
  | true =>
      rw [perform, System.stopLoop, if_pos hs]
      apply LoopStep.rest
      · intro hstart
        cases hstart
      · intro hwake
        cases hwake
      · intro _
        exact hs

/-- A deed that is neither a start nor a wake-up nor a stop. -/
theorem LoopStep.of_keeps {d : Deed ρ} (hd : d.isRound = false) (hstop : d ≠ stopLoop)
    (hl : l' = l) : LoopStep d l none l' := by
  subst hl
  refine .rest ?_ ?_ fun h => absurd h hstop
  · rintro rfl
    cases hd
  · rintro rfl
    cases hd

theorem loopStep_perform (client : Client ρ) (d : Deed ρ) (s : System ρ) :
    LoopStep d s.loop (d.attempt? client s) (d.perform client s).loop := by
  have hI : ∀ (t : System ρ) (w : World ρ), t.loop = s.loop → { t with world := w }.loop = s.loop :=
    fun _ _ h => h
  have hc : ∀ (t : System ρ) snapshot names, t.loop = s.loop →
      (t.commit snapshot names).loop = s.loop := fun _ _ _ h => h
  cases d with
  | startLoop => exact loopStep_startLoop client s
  | wakeLoop => exact loopStep_wakeLoop client s
  | stopLoop => exact loopStep_stopLoop client s
  | register fleet => exact .of_keeps rfl nofun rfl
  | refresh => exact .of_keeps rfl nofun (Manager.keeps_refresh hI hc s rfl)
  | findOwner ref => exact .of_keeps rfl nofun (Manager.keeps_findOwner hI hc ref s rfl)
  | deleteInstances targets =>
      exact .of_keeps rfl nofun (Manager.keeps_deleteInstances hI hc targets s rfl)
  | resolveDeletion targets =>
      exact .of_keeps rfl nofun (Manager.keeps_resolveDeletion hI hc targets s rfl)
  | setSize fleet target => exact .of_keeps rfl nofun (Manager.keeps_setSize hI fleet target s rfl)
  | getSize fleet => exact .of_keeps rfl nofun (Manager.keeps_getSize hI fleet s rfl)
  | fleetInstances fleet => exact .of_keeps rfl nofun (Manager.keeps_fleetInstances hI fleet s rfl)
  | outside change => exact .of_keeps rfl nofun rfl

/-- Where a loop stands after these deeds. -/
structure Follows (deeds : List (Deed ρ)) (l : RefreshLoop) : Prop where
  stopped_iff : l.stopped = true ↔ stopLoop ∈ deeds
  idle : startLoop ∉ deeds → l.stage = .idle
  begun : startLoop ∈ deeds → stopLoop ∉ deeds → l.stage ≠ .idle
  resting : stopLoop ∈ deeds → l.stage ≠ .waiting

theorem Follows.of_make {interval : Quantity} (h : RefreshLoop.make interval = .ok l) :
    Follows ([] : List (Deed ρ)) l := by
  obtain ⟨-, rfl⟩ := RefreshLoop.make_eq_ok_iff.1 h
  constructor
  · exact iff_of_false Bool.false_ne_true List.not_mem_nil
  · intro _
    rfl
  · intro hmem
    cases hmem
  · intro hmem
    cases hmem

theorem Follows.step {deeds : List (Deed ρ)} {d : Deed ρ} {a? : Option Attempt}
    (h : Follows deeds l) (hstep : LoopStep d l a? l') : Follows (deeds ++ [d]) l' := by
  have hfalse : l.stopped = false ↔ stopLoop ∉ deeds := by
    rw [← h.stopped_iff, Bool.not_eq_true]
  cases hstep with
  | begin a hstopped hstage =>
      have hno := hfalse.1 hstopped
      constructor
      · simp [RefreshLoop.stopped_round, hstopped, hno]
      · simp
      · exact fun _ _ => RefreshLoop.stage_round_ne_idle l a
      · simp [hno]
  | giveUp hstopped hstage =>
      have hno := hfalse.1 hstopped
      constructor <;> simp [hstopped, hno]
  | goOn a hstage =>
      have hno : stopLoop ∉ deeds := fun hmem => h.resting hmem hstage
      have hstopped := hfalse.2 hno
      have hyes : startLoop ∈ deeds := by
        by_contra hn
        cases hstage.symm.trans (h.idle hn)
      constructor
      · simp [RefreshLoop.stopped_round, hstopped, hno]
      · simp [hyes]
      · exact fun _ _ => RefreshLoop.stage_round_ne_idle l a
      · simp [hno]
  | stop hstopped =>
      constructor
      · simp [RefreshLoop.stop]
      · intro hmem
        have hidle := h.idle fun hs => hmem (List.mem_append_left _ hs)
        simp [RefreshLoop.stop, hidle]
      · simp
      · intro _ hw
        simp only [RefreshLoop.stop] at hw
        split at hw
        · cases hw
        · exact absurd hw ‹_›
  | rest hstart hwake hstop =>
      constructor
      · rw [h.stopped_iff, List.mem_append, List.mem_singleton]
        refine ⟨Or.inl, ?_⟩
        rintro (hmem | hd)
        · exact hmem
        · exact h.stopped_iff.1 (hstop hd.symm)
      · intro hmem
        exact h.idle fun hs => hmem (List.mem_append_left _ hs)
      · intro hs hn
        have hno : stopLoop ∉ deeds := fun hmem => hn (List.mem_append_left _ hmem)
        refine h.begun ?_ hno
        rcases List.mem_append.1 hs with hs | hs
        · exact hs
        · by_contra hidle
          obtain hd | hd := hstart (List.mem_singleton.1 hs).symm
          · exact hno (h.stopped_iff.1 hd)
          · exact hd (h.idle hidle)
      · intro hmem
        refine h.resting ?_
        rcases List.mem_append.1 hmem with hs | hs
        · exact hs
        · exact h.stopped_iff.1 (hstop (List.mem_singleton.1 hs).symm)

theorem Shows.step {interval : Quantity} {tried : List Attempt} {d : Deed ρ} {a? : Option Attempt}
    (h : l.Shows interval tried) (hstep : LoopStep d l a? l') :
    l'.Shows interval (tried ++ a?.toList) := by
  cases hstep with
  | begin a => exact h.round a
  | goOn a => exact h.round a
  | giveUp =>
      rw [Option.toList_none, List.append_nil]
      exact ⟨h.interval_eq, h.ticks_eq, h.lastError_eq, h.lastSuccess_eq, h.waits_eq⟩
  | stop =>
      rw [Option.toList_none, List.append_nil]
      exact ⟨h.interval_eq, h.ticks_eq, h.lastError_eq, h.lastSuccess_eq, h.waits_eq⟩
  | rest =>
      rw [Option.toList_none, List.append_nil]
      exact h

section Run
variable {interval : Quantity} {start : System ρ}

theorem follows_run (client : Client ρ) (h : RefreshLoop.make interval = .ok start.loop)
    (deeds : List (Deed ρ)) :
    Follows deeds (run client deeds start).loop := by
  induction deeds using List.reverseRecOn with
  | nil => exact .of_make h
  | append_singleton deeds d ih =>
      rw [run_append_singleton]
      exact ih.step (loopStep_perform client d _)

theorem shows_run (client : Client ρ) (h : RefreshLoop.make interval = .ok start.loop)
    (deeds : List (Deed ρ)) :
    (run client deeds start).loop.Shows interval (attempts client deeds start) := by
  induction deeds using List.reverseRecOn with
  | nil => exact .of_make h
  | append_singleton deeds d ih =>
      rw [run_append_singleton, attempts, recorded_append_singleton]
      exact Shows.step ih (loopStep_perform client d _)

theorem LoopStep.stage_ne_idle {d : Deed ρ} {a? : Option Attempt} (h : LoopStep d l a? l')
    (hl : l.stage ≠ .idle) : l'.stage ≠ .idle := by
  cases h with
  | begin a hstopped hstage => exact absurd hstage hl
  | giveUp hstopped hstage => exact absurd hstage hl
  | goOn a hstage => exact RefreshLoop.stage_round_ne_idle l a
  | stop hstopped =>
      simp only [RefreshLoop.stop]
      split
      · exact nofun
      · exact hl
  | rest hstart hwake hstop => exact hl

/-- Once a loop is not idle any more, it has a thread then or never. -/
theorem LoopStep.hasThread_eq {d : Deed ρ} {a? : Option Attempt} (h : LoopStep d l a? l')
    (hl : l.stage ≠ .idle) : l'.stage.hasThread = l.stage.hasThread := by
  cases h with
  | begin a hstopped hstage => exact absurd hstage hl
  | giveUp hstopped hstage => exact absurd hstage hl
  | goOn a hstage =>
      rw [RefreshLoop.hasThread_round, hstage]
      rfl
  | stop hstopped => exact l.hasThread_stop
  | rest hstart hwake hstop => rfl

theorem threads_of_begun (h : s.loop.stage ≠ .idle) (deeds : List (Deed ρ)) :
    threads client deeds s = [] := by
  induction deeds generalizing s with
  | nil => rfl
  | cons d rest ih =>
      have hstep := loopStep_perform client d s
      have hnone : d.thread? client s = none := by
        rw [thread?, hstep.hasThread_eq h]
        cases s.loop.stage.hasThread <;> rfl
      rw [threads, recorded.eq_def, ← threads]
      simp [hnone, ih (hstep.stage_ne_idle h)]

/-- As many threads are created as the loop has in the end. -/
theorem length_threads (client : Client ρ) (h : start.loop.stage = .idle) (deeds : List (Deed ρ)) :
    (threads client deeds start).length = (run client deeds start).loop.stage.hasThread.toNat := by
  induction deeds using List.reverseRecOn with
  | nil => simp [threads, recorded, h, LoopStage.hasThread]
  | append_singleton deeds d ih =>
      rw [run_append_singleton, threads, recorded_append_singleton, ← threads, List.length_append,
        ih]
      have hstep := loopStep_perform client d (run client deeds start)
      by_cases hi : (run client deeds start).loop.stage = .idle
      · rw [thread?, hi]
        cases (d.perform client (run client deeds start)).loop.stage.hasThread <;> rfl
      · rw [thread?, hstep.hasThread_eq hi]
        cases (run client deeds start).loop.stage.hasThread <;> rfl

theorem LoopStep.of_stopped {d : Deed ρ} {a? : Option Attempt} (h : LoopStep d l a? l')
    (hstopped : l.stopped = true) (hstage : l.stage ≠ .waiting) : a? = none ∧ l' = l := by
  cases h with
  | begin a hs => cases hs.symm.trans hstopped
  | giveUp hs => cases hs.symm.trans hstopped
  | goOn a hw => exact absurd hw hstage
  | stop hs => cases hs.symm.trans hstopped
  | rest => exact ⟨rfl, rfl⟩

theorem run_of_stopped (client : Client ρ) (hstopped : s.loop.stopped = true)
    (hstage : s.loop.stage ≠ .waiting) (deeds : List (Deed ρ)) :
    attempts client deeds s = [] ∧ (run client deeds s).loop = s.loop := by
  induction deeds generalizing s with
  | nil => exact ⟨rfl, rfl⟩
  | cons d rest ih =>
      obtain ⟨ha, hl⟩ := (loopStep_perform client d s).of_stopped hstopped hstage
      obtain ⟨hrest, hrun⟩ := ih (s := d.perform client s) (hl ▸ hstopped) (hl ▸ hstage)
      rw [run_cons, hrun, hl, attempts, recorded, ha, ← attempts, hrest]
      exact ⟨rfl, rfl⟩

theorem LoopStep.of_idle {d : Deed ρ} {a? : Option Attempt} (h : LoopStep d l a? l')
    (hstage : l.stage = .idle) (hd : d ≠ startLoop) : a? = none := by
  cases h with
  | begin => exact absurd rfl hd
  | giveUp => rfl
  | goOn a hw => cases hstage.symm.trans hw
  | stop => rfl
  | rest => rfl

/-- A loop whose thread could not be created never gets one. -/
theorem LoopStep.of_threadless {d : Deed ρ} {a? : Option Attempt} (h : LoopStep d l a? l')
    (hstage : l.stage = .threadless) : a? = none ∧ l'.stage = .threadless := by
  cases h with
  | begin a hs hi => cases hstage.symm.trans hi
  | giveUp hs hi => cases hstage.symm.trans hi
  | goOn a hw => cases hstage.symm.trans hw
  | stop => exact ⟨rfl, by simp [RefreshLoop.stop, hstage]⟩
  | rest => exact ⟨rfl, hstage⟩

theorem attempts_of_threadless (h : s.loop.stage = .threadless) (deeds : List (Deed ρ)) :
    attempts client deeds s = [] := by
  induction deeds generalizing s with
  | nil => rfl
  | cons d rest ih =>
      obtain ⟨ha, hstage⟩ := (loopStep_perform client d s).of_threadless h
      rw [attempts, recorded, ha, ← attempts, ih hstage]
      rfl

theorem attempts_of_not_started (h : RefreshLoop.make interval = .ok start.loop)
    {deeds : List (Deed ρ)} (hno : startLoop ∉ deeds) : attempts client deeds start = [] := by
  induction deeds using List.reverseRecOn with
  | nil => rfl
  | append_singleton deeds d ih =>
      rw [List.mem_append, List.mem_singleton, not_or] at hno
      have hidle := (follows_run client h deeds).idle hno.1
      have ha := (loopStep_perform client d _).of_idle hidle (Ne.symm hno.2)
      rw [attempts, recorded_append_singleton, ← attempts, ih hno.1, ha]
      rfl

/-- A start makes the first attempt, if it makes one. -/
theorem attempts_of_first_start (h : RefreshLoop.make interval = .ok start.loop)
    {before : List (Deed ρ)} (hstart : startLoop ∉ before) (after : List (Deed ρ)) :
    let t := run client before start
    attempts client (before ++ startLoop :: after) start =
      (startLoop.attempt? client t).toList ++
        attempts client after (startLoop.perform client t) := by
  intro t
  calc attempts client (before ++ startLoop :: after) start
      = attempts client before start ++ attempts client (startLoop :: after) t :=
        recorded_append _ _ _ _
    _ = _ := by
        rw [attempts_of_not_started h hstart]
        rfl

/-- The first start creates the only thread, if it creates one. -/
theorem threads_of_first_start (h : RefreshLoop.make interval = .ok start.loop)
    {before : List (Deed ρ)} (hstart : startLoop ∉ before) (hstop : stopLoop ∉ before)
    (after : List (Deed ρ)) :
    threads client (before ++ startLoop :: after) start =
      (startLoop.thread? client (run client before start)).toList := by
  let t := run client before start
  have hf : Follows before t.loop := follows_run client h before
  have hbegun : (startLoop.perform client t).loop.stage ≠ .idle :=
    (hf.step (loopStep_perform client startLoop t)).begun (by simp) (by simpa using hstop)
  have hbefore : threads client before start = [] := by
    rw [← List.length_eq_zero_iff, length_threads client (RefreshLoop.stage_of_make h)]
    exact congrArg (·.hasThread.toNat) (hf.idle hstart)
  calc threads client (before ++ startLoop :: after) start
      = threads client before start ++ threads client (startLoop :: after) t :=
        recorded_append _ _ _ _
    _ = (startLoop.thread? client t).toList ++
          threads client after (startLoop.perform client t) := by
        rw [hbefore]
        rfl
    _ = (startLoop.thread? client t).toList := by
        rw [threads_of_begun hbegun, List.append_nil]

/-- The first start that no stop precedes creates the one thread and makes the first attempt, both
in the world that it finds. If no thread can be created there, there is neither then nor later. -/
theorem first_round (h : RefreshLoop.make interval = .ok start.loop) {before : List (Deed ρ)}
    (hstart : startLoop ∉ before) (hstop : stopLoop ∉ before) (after : List (Deed ρ)) :
    let t := run client before start
    let deeds := before ++ startLoop :: after
    (t.world.threads.spawns = true →
      threads client deeds start = [t.world] ∧
        (attempts client deeds start).head? =
          some (.ofRebuild client t { t.world with log := [] })) ∧
    (t.world.threads.spawns = false →
      threads client deeds start = [] ∧ attempts client deeds start = []) := by
  intro t deeds
  have hf : Follows before t.loop := follows_run client h before
  have hidle : t.loop.stage = .idle := hf.idle hstart
  have hstopped : t.loop.stopped = false :=
    Bool.eq_false_iff.2 fun hs => hstop (hf.stopped_iff.1 hs)
  have hchecked := RefreshLoop.checkStart_eq_ok_iff.2 ⟨hstopped, hidle⟩
  rw [threads_of_first_start h hstart hstop, attempts_of_first_start h hstart]
  constructor
  · intro hspawns
    have ha : startLoop.attempt? client t =
        some (.ofRebuild client t { t.world with log := [] }) := by
      simp [attempt?, isRound, rebuildsIn, hchecked, hspawns]
    have hround : (startLoop.perform client t).loop.stage.hasThread = true := by
      rw [loop_startLoop hchecked hspawns]
      exact RefreshLoop.hasThread_round _ _
    have hthread : startLoop.thread? client t = some t.world := by
      rw [thread?, hidle, hround]
      rfl
    rw [ha, hthread]
    exact ⟨rfl, rfl⟩
  · intro hspawns
    have ha : startLoop.attempt? client t = none := by
      simp [attempt?, isRound, rebuildsIn, hchecked, hspawns]
    have hstage : (startLoop.perform client t).loop.stage = .threadless := by
      rw [perform, Manager.startLoop_of_not_spawns hchecked hspawns]
      rfl
    have hthread : startLoop.thread? client t = none := by
      rw [thread?, hidle, hstage]
      rfl
    rw [ha, hthread, attempts_of_threadless hstage]
    exact ⟨rfl, rfl⟩

/-- The manager refuses a start in its own name, with this message, and nothing changes. -/
def RefusesStart (client : Client ρ) (s : System ρ) (message : String) : Prop :=
  ∃ e, Manager.startLoop client s = (.error e, s) ∧ e.kind = .manager ∧ e.message = message

theorem refusesStart_of_started (hstopped : s.loop.stopped = false)
    (hstage : s.loop.stage ≠ .idle) : RefusesStart client s "Periodic refresh already started" :=
  ⟨_, Manager.startLoop_of_refused (RefreshLoop.checkStart_of_started hstopped hstage), rfl, rfl⟩

theorem refusesStart_of_stopped (h : s.loop.stopped = true) :
    RefusesStart client s "Periodic refresh cannot be restarted after stop" :=
  ⟨_, Manager.startLoop_of_refused (RefreshLoop.checkStart_of_stopped h), rfl, rfl⟩

theorem perform_of_stopped (hstopped : s.loop.stopped = true) (hstage : s.loop.stage ≠ .waiting)
    {d : Deed ρ} (hd : d ∈ [startLoop, wakeLoop, stopLoop]) : d.perform client s = s := by
  simp only [List.mem_cons, List.not_mem_nil, or_false] at hd
  obtain rfl | rfl | rfl := hd
  · rw [perform, Manager.startLoop_of_refused (RefreshLoop.checkStart_of_stopped hstopped)]
  · rw [perform, System.wake, RefreshLoop.isRunning, if_neg]
    simpa using hstage
  · rw [perform, System.stopLoop, if_pos hstopped]

/-- The life of a loop through every course of deeds. It gets at most one thread. The first start
that no stop precedes creates it and makes the first attempt to rebuild in the world that it finds,
before any wait; without a start there is neither, nor if that one finds no thread. A manager that
was started or stopped refuses to start in its own name, with a message for each, and nothing
changes. Once it was stopped, neither starts nor wake-ups nor stops change anything, and from the
first stop on there are no further attempts, whatever else is done. At all times the loop counts its
attempts, knows the fault of the latest one if that failed, and the time when the latest successful
one was over. -/
theorem refresh_loop_lifecycle (client : Client ρ)
    (h : RefreshLoop.make interval = .ok start.loop) (deeds : List (Deed ρ)) :
    let s := run client deeds start
    let tried := attempts client deeds start
    (threads client deeds start).length ≤ 1 ∧
    (startLoop ∉ deeds → threads client deeds start = [] ∧ tried = []) ∧
    (∀ before after, deeds = before ++ startLoop :: after →
      startLoop ∉ before → stopLoop ∉ before →
      let t := run client before start
      t.loop.waits = [] ∧
        (t.world.threads.spawns = true → threads client deeds start = [t.world] ∧
          tried.head? = some (.ofRebuild client t { t.world with log := [] })) ∧
        (t.world.threads.spawns = false → threads client deeds start = [] ∧ tried = [])) ∧
    (startLoop ∈ deeds → stopLoop ∉ deeds →
      RefusesStart client s "Periodic refresh already started") ∧
    (stopLoop ∈ deeds →
      RefusesStart client s "Periodic refresh cannot be restarted after stop" ∧
        ∀ d ∈ [startLoop, wakeLoop, stopLoop], d.perform client s = s) ∧
    (∀ before after, deeds = before ++ stopLoop :: after →
      tried = attempts client before start ∧
        s.loop = (run client (before ++ [stopLoop]) start).loop) ∧
    s.loop.ticks = tried.length ∧
    s.loop.lastError = tried.getLast?.bind (·.fault?) ∧
    (s.loop.lastError = none ↔ ∀ a, tried.getLast? = some a → a.outcome = .ok ()) ∧
    s.loop.lastSuccess = (tried.filter (·.succeeded)).getLast?.map (·.endedAt) := by
  intro s tried
  have hf : Follows deeds s.loop := follows_run client h deeds
  have hshows : s.loop.Shows interval tried := shows_run client h deeds
  have hthreads := length_threads client (RefreshLoop.stage_of_make h) deeds
  refine ⟨?_, ?_, ?_, ?_, ?_, ?_, hshows.ticks_eq, hshows.lastError_eq, ?_, hshows.lastSuccess_eq⟩
  · rw [hthreads]
    exact Bool.toNat_le _
  · intro hno
    rw [hf.idle hno] at hthreads
    exact ⟨List.length_eq_zero_iff.1 hthreads, attempts_of_not_started h hno⟩
  · rintro before after rfl hstart hstop t
    have hwaits := (shows_run client h before).waits_eq
    rw [attempts_of_not_started h hstart] at hwaits
    exact ⟨hwaits, first_round h hstart hstop after⟩
  · intro hstart hstop
    have hstopped : s.loop.stopped = false :=
      Bool.eq_false_iff.2 fun hs => hstop (hf.stopped_iff.1 hs)
    exact refusesStart_of_started hstopped (hf.begun hstart hstop)
  · intro hstop
    have hstopped := hf.stopped_iff.2 hstop
    exact ⟨refusesStart_of_stopped hstopped,
      fun d hd => perform_of_stopped hstopped (hf.resting hstop) hd⟩
  · rintro before after rfl
    have hstop : stopLoop ∈ before ++ [stopLoop] := List.mem_append_right _ List.mem_cons_self
    have hb := follows_run client h (before ++ [stopLoop])
    obtain ⟨hnone, hsame⟩ := run_of_stopped client (hb.stopped_iff.2 hstop)
      (hb.resting hstop) after
    have hsplit : before ++ stopLoop :: after = (before ++ [stopLoop]) ++ after := by simp
    constructor
    · calc attempts client (before ++ stopLoop :: after) start
          = attempts client (before ++ [stopLoop]) start ++ [] := by
            rw [hsplit, ← hnone]
            exact recorded_append _ _ _ _
        _ = attempts client before start := by
            rw [List.append_nil, attempts, recorded_append_singleton]
            exact List.append_nil _
    · change (run client (before ++ stopLoop :: after) start).loop = _
      rw [hsplit, run_append, hsame]
  · rw [hshows.lastError_eq]
    cases tried.getLast? with
    | none => simp
    | some a => simp [Attempt.fault?_eq_none_iff]

end Run

section TwoPools
open Manager

/-- The first pool cannot be described when the loop is started, and can be when it wakes up. -/
def shakyStart : List (Deed InMemory) :=
  let fails (failures : List Failure) : Deed InMemory :=
    outside fun w => { w with remote := { w.remote with failures } }
  [register poolA, fails [⟨.get, some "pool-a", .raised (.azure .response) "busy", none⟩],
    startLoop, fails [], wakeLoop, findOwner refA0, stopLoop, wakeLoop]

theorem refresh_loop_lifecycle_shakyStart :
    let client := Client.checked InMemory.azure (.text "rg")
    let start := System.start (.fresh (.int 60)) twoPools
    let s := run client shakyStart start
    RefreshLoop.make (.int 60) = .ok start.loop ∧
    RefusesStart client s "Periodic refresh cannot be restarted after stop" ∧
    (attempts client shakyStart start).map (·.fault?) =
      [some (.raised (.azure .response) "busy"), none] ∧
    s.loop.ticks = 2 ∧ s.loop.lastError = none := by
  intro client start s
  have hmake : RefreshLoop.make (.int 60) = .ok start.loop := by decide
  have h := refresh_loop_lifecycle client hmake shakyStart
  obtain ⟨-, -, -, -, hstopped, -, hticks, herror, -⟩ := h
  have hfaults : (attempts client shakyStart start).map (·.fault?) =
      [some (.raised (.azure .response) "busy"), none] := by decide +kernel
  refine ⟨hmake, (hstopped (by simp [shakyStart])).1, hfaults, ?_, ?_⟩
  · rw [hticks, ← List.length_map, hfaults]
    rfl
  · rw [herror]
    decide +kernel

end TwoPools

end Deed
end FleetWarden
