import FleetWarden.Proofs.Cloud.Notes
import FleetWarden.Scenario
import FleetWarden.Proofs.Pairs

/-!
# Descriptions that are used again

A description may be kept and used for any number of updates, also after one that failed. Each of
these leaves its own capacity in the body of the description (`Basis.spend`), so what a later one
finds there depends on what was done before. It makes no difference: an update overwrites it before
anything is sent.

An errand is one call on the client, to describe or to update. Its notes are told by `Updated`; what
the sets are after a course of errands is told by the updates that succeeded (`lastWritten?`).
-/

namespace FleetWarden

open Text

namespace Basis

/-- The description that is passed on, out of those that were kept. -/
def description? (kept : List (String × Description)) : Basis → Option Description
  | .fresh => none
  | .withoutBody => some ⟨"", .null, none⟩
  | .kept key => kept.lookup key

/-- The kept descriptions after an update to a capacity was tried with one of them. -/
def spend (capacity : Int) (kept : List (String × Description)) :
    Basis → List (String × Description)
  | .kept key => kept.map fun p => if p.1 = key then (p.1, p.2.afterUpdate capacity) else p
  | _ => kept

end Basis

/-- A call on a client to describe a set, which may be kept under a key, or to update one. -/
inductive Errand where
  | describe (name : String) (keepAs : Option String)
  | update (name : String) (capacity : Int) (basis : Basis)

/-- The world, and the descriptions that were kept. -/
structure Shelf (ρ : Type) where
  world : World ρ
  kept : List (String × Description)

namespace Shelf
variable {ρ : Type}

/-- The name and the capacity that the description under a key shows. -/
def shown (u : Shelf ρ) (key : String) : Option (String × Value) :=
  (u.kept.lookup key).map fun d => (d.name, d.capacity)

/-- The shelf without the notes. -/
def withoutNotes (u : Shelf (Noted ρ)) : Shelf ρ := ⟨u.world.withoutNotes, u.kept⟩

end Shelf

/-- The kept descriptions after another one was kept under a key or was not. -/
def keepDescription (d : Description) (kept : List (String × Description)) :
    Option String → List (String × Description)
  | some key => putPair key d kept
  | none => kept

namespace Errand
variable {ρ : Type}

/-- A call of the client beside the kept descriptions. -/
def call {α : Type} (x : Effect ρ α) : Action (Shelf ρ) Fault α :=
  Action.within (·.world) (fun u w => { u with world := w }) x

/-- Runs an errand. -/
def perform (client : Client ρ) : Errand → Action (Shelf ρ) Fault Unit
  | describe name keepAs => do
    let d ← call (client.describe name)
    Action.change fun u => { u with kept := keepDescription d u.kept keepAs }
  | update name capacity basis => do
    let current ← Action.look fun u => basis.description? u.kept
    Action.change fun u => { u with kept := basis.spend capacity u.kept }
    call (client.update name capacity current)

/-- Runs errands one after the other, whatever comes of them. -/
def run (client : Client ρ) :
    List Errand → Shelf ρ → List (Errand × Except Fault Unit) × Shelf ρ
  | [], u => ([], u)
  | e :: rest, u =>
    let (answer, v) := e.perform client u
    let (log, v') := run client rest v
    ((e, answer) :: log, v')

/-- The step of a scenario that an errand is. -/
def toStep : Errand → Step
  | describe name keepAs => .describe name keepAs
  | update name capacity basis => .update name capacity basis

/-- The capacity that an errand wrote into the set of a name. -/
def written? (name : String) : Errand × Except Fault Unit → Option Int
  | (update other capacity _, .ok ()) => if lower name = lower other then some capacity else none
  | _ => none

/-- The capacity that the last successful update of a set wrote. -/
def lastWritten? (name : String) (log : List (Errand × Except Fault Unit)) : Option Int :=
  (log.filterMap (written? name)).getLast?

/-- A set after a capacity was written into it, or after none was. -/
def rewritten (set : Option RemoteSet) : Option Int → Option RemoteSet
  | some capacity => set.map fun s => { s with capacity := .int capacity }
  | none => set

section Equations
variable {client : Client ρ} {u : Shelf ρ} {w : World ρ} {name : String}

theorem call_of_eq {α : Type} {x : Effect ρ α} {answer : Except Fault α}
    (h : x u.world = (answer, w)) : call x u = (answer, { u with world := w }) := by
  rw [call, Action.within, h]

theorem perform_describe_of_error {f : Fault} (keepAs : Option String)
    (h : client.describe name u.world = (.error f, w)) :
    (describe name keepAs).perform client u = (.error f, { u with world := w }) := by
  rw [perform, Action.bind_of_error (call_of_eq h)]

theorem perform_describe_of_ok {d : Description} (keepAs : Option String)
    (h : client.describe name u.world = (.ok d, w)) :
    (describe name keepAs).perform client u = (.ok (), ⟨w, keepDescription d u.kept keepAs⟩) := by
  rw [perform, Action.bind_of_ok (call_of_eq h)]
  rfl

theorem perform_update_of_eq {capacity : Int} {basis : Basis} {answer : Except Fault Unit}
    (h : client.update name capacity (basis.description? u.kept) u.world = (answer, w)) :
    (update name capacity basis).perform client u = (answer, ⟨w, basis.spend capacity u.kept⟩) := by
  -- the description is passed on as it was before it is spent
  change call _ { u with kept := basis.spend capacity u.kept } = _
  exact call_of_eq h

end Equations

section Scenario
variable {α : Type} {s : Scenario} {answer : Except Fault α} {w : World InMemory}

theorem operate_of_eq {x : Effect InMemory α} (h : x s.system.world = (answer, w)) :
    Scenario.operate (Effect.lift x) s =
      (answer.mapError .fault, { s with system := { s.system with world := w } }) := by
  rw [Scenario.operate, Effect.lift, Action.within, h]
  cases answer <;> rfl

/-- Errands do what the steps of a scenario do. -/
theorem perform_toStep (e : Errand) (s : Scenario) :
    let (answer, v) := e.perform s.client ⟨s.system.world, s.kept⟩
    (Scenario.perform e.toStep s).1.map (fun _ => ()) = answer.mapError .fault ∧
      (Scenario.perform e.toStep s).2 =
        { s with system := { s.system with world := v.world }, kept := v.kept } := by
  cases e with
  | describe name keepAs =>
      rcases hd : s.client.describe name s.system.world with ⟨f | d, w⟩
      · have hoperate : Scenario.call (·.describe name) s = _ := operate_of_eq hd
        rw [perform_describe_of_error keepAs hd, toStep, Scenario.perform,
          Action.bind_of_error hoperate]
        exact ⟨rfl, rfl⟩
      · have hoperate : Scenario.call (·.describe name) s = _ := operate_of_eq hd
        rw [perform_describe_of_ok keepAs hd, toStep, Scenario.perform, Action.bind_of_ok hoperate]
        cases keepAs <;> exact ⟨rfl, rfl⟩
  | update name capacity basis =>
      have hcurrent : s.basisOf basis = basis.description? s.kept := by
        cases basis <;> rfl
      have hspent : Scenario.spendBasis capacity basis s =
          { s with kept := basis.spend capacity s.kept } := by
        cases basis <;> rfl
      rcases hu : s.client.update name capacity (basis.description? s.kept) s.system.world with
        ⟨answer, w⟩
      have hperform : (update name capacity basis).perform s.client ⟨s.system.world, s.kept⟩ =
          (answer, ⟨w, basis.spend capacity s.kept⟩) := perform_update_of_eq hu
      have hoperate : Scenario.perform (toStep (update name capacity basis)) s =
          (do
            Scenario.operate (Effect.lift (s.client.update name capacity
              (basis.description? s.kept)))
            pure Answer.nothing) { s with kept := basis.spend capacity s.kept } := by
        rw [← hspent, ← hcurrent]
        rfl
      have hdone : Scenario.operate (Effect.lift (s.client.update name capacity
          (basis.description? s.kept))) { s with kept := basis.spend capacity s.kept } = _ :=
        operate_of_eq hu
      rw [hperform, hoperate]
      cases answer with
      | error f =>
          rw [Action.bind_of_error hdone]
          exact ⟨rfl, rfl⟩
      | ok _ =>
          rw [Action.bind_of_ok hdone]
          exact ⟨rfl, rfl⟩

end Scenario

section Step
variable {client : Client ρ} {e : Errand} {u v : Shelf ρ} {answer : Except Fault Unit}

theorem describe_of_perform {name : String} {keepAs : Option String}
    (h : (describe name keepAs).perform client u = (answer, v)) :
    ∃ described, client.describe name u.world = (described, v.world) ∧
      (v.kept = u.kept ∨ ∃ d, v.kept = keepDescription d u.kept keepAs) := by
  rcases hd : client.describe name u.world with ⟨f | d, w⟩
  · rw [perform_describe_of_error keepAs hd] at h
    cases h
    exact ⟨_, rfl, .inl rfl⟩
  · rw [perform_describe_of_ok keepAs hd] at h
    cases h
    exact ⟨_, rfl, .inr ⟨d, rfl⟩⟩

theorem update_of_perform {name : String} {capacity : Int} {basis : Basis}
    (h : (update name capacity basis).perform client u = (answer, v)) :
    client.update name capacity (basis.description? u.kept) u.world = (answer, v.world) ∧
      v.kept = basis.spend capacity u.kept := by
  rcases hu : client.update name capacity (basis.description? u.kept) u.world with ⟨answer', w⟩
  rw [perform_update_of_eq hu] at h
  cases h
  exact ⟨rfl, rfl⟩

/-- Using a description leaves name and capacity of it as they were. -/
theorem lookup_spend (capacity : Int) (kept : List (String × Description)) (basis : Basis)
    (key : String) : ((basis.spend capacity kept).lookup key).map (fun d => (d.name, d.capacity)) =
      (kept.lookup key).map fun d => (d.name, d.capacity) := by
  cases basis with
  | fresh => rfl
  | withoutBody => rfl
  | kept other =>
      rw [Basis.spend, lookup_map (fun p => by split_ifs <;> rfl), Option.map_map]
      refine congrArg (Option.map · _) (funext fun d => ?_)
      dsimp only [Function.comp_apply]
      split_ifs <;> rfl

/-- What is shown under a key changes only when another description is kept there. -/
theorem shown_of_perform (h : e.perform client u = (answer, v)) {key : String}
    (hkey : ∀ name, e ≠ describe name (some key)) : v.shown key = u.shown key := by
  cases e with
  | describe name keepAs =>
      obtain ⟨-, -, hkept | ⟨d, hkept⟩⟩ := describe_of_perform h
      · rw [Shelf.shown, hkept, Shelf.shown]
      · rw [Shelf.shown, hkept, Shelf.shown]
        cases keepAs with
        | none => rfl
        | some other =>
            have hother : ¬key = other := by
              rintro rfl
              exact hkey name rfl
            rw [keepDescription, lookup_putPair, if_neg hother]
  | update name capacity basis =>
      rw [Shelf.shown, (update_of_perform h).2, lookup_spend, Shelf.shown]

end Step

section Noted
variable {azure : Azure ρ} {group : ResourceGroup} {found : ρ → String → Option RemoteSet}
  {e : Errand} {u v : Shelf (Noted ρ)} {answer : Except Fault Unit}

theorem foundAfter_eq (found : String → Option RemoteSet) (name : String) (capacity : Int)
    (basis : Basis) (answer : Except Fault Unit) (other : String) :
    foundAfter found name capacity answer other =
      rewritten (found other) (written? other (update name capacity basis, answer)) := by
  cases answer with
  | error f => rfl
  | ok _ =>
      rw [foundAfter, resizedIn, written?]
      split_ifs <;> rfl

/-- An errand changes the one set that it wrote to, and only if it succeeded. -/
theorem found_of_perform (hholds : azure.Holds group found)
    (h : e.perform (.checked azure.noted group) u = (answer, v)) (name : String) :
    found v.world.remote.remote name =
      rewritten (found u.world.remote.remote name) (written? name (e, answer)) := by
  cases e with
  | describe other keepAs =>
      obtain ⟨described, hdescribe, -⟩ := describe_of_perform h
      obtain ⟨got, fetched, hget, -⟩ := Client.describe_noted hdescribe
      exact congrFun (hholds.get hget) name
  | update other capacity basis =>
      rw [← foundAfter_eq]
      exact congrFun (Client.found_of_updateChecked (update_of_perform h).1 hholds) name

/-- What is noted of an errand, out of the descriptions that were kept. -/
def Notes (group : ResourceGroup) (kept : List (String × Description)) (notes : List Note)
    (answer : Except Fault Unit) : Errand → Prop
  | describe name _ => ∃ got, notes = [.got group name got]
  | update name capacity basis =>
    Updated group name capacity ((basis.description? kept).bind (·.body)) notes answer

theorem notes_of_perform (h : e.perform (.checked azure.noted group) u = (answer, v)) :
    ∃ notes, v.world.remote.notes = u.world.remote.notes ++ notes ∧
      e.Notes group u.kept notes answer := by
  cases e with
  | describe other keepAs =>
      obtain ⟨described, hdescribe, -⟩ := describe_of_perform h
      obtain ⟨got, fetched, -, hnotes, -⟩ := Client.describe_noted hdescribe
      exact ⟨_, hnotes, got, rfl⟩
  | update other capacity basis => exact Client.updated_of_updateChecked (update_of_perform h).1

theorem projects_call {α : Type} {x : Effect (Noted ρ) α} {y : Effect ρ α}
    (h : Action.Projects World.withoutNotes x y) :
    Action.Projects Shelf.withoutNotes (call x) (call y) :=
  h.within (fun _ => rfl) fun _ _ => rfl

/-- The notes make no difference to an errand. -/
theorem projects_perform (azure : Azure ρ) (group : ResourceGroup) (e : Errand) :
    Action.Projects Shelf.withoutNotes (e.perform (.checked azure.noted group))
      (e.perform (.checked azure group)) := by
  cases e with
  | describe name keepAs =>
      exact (projects_call (Client.projects_describeChecked azure group name)).bind fun _ =>
        Action.projects_change fun _ => rfl
  | update name capacity basis =>
      exact (Action.projects_look fun _ => rfl).bind fun current =>
        Action.Projects.bind (Action.projects_change fun _ => rfl) fun _ =>
          projects_call (Client.projects_updateChecked azure group name capacity current)

end Noted

/-! ## Courses of errands -/

theorem run_cons {client : Client ρ} {e : Errand} {u v : Shelf ρ} {answer : Except Fault Unit}
    (rest : List Errand) (h : e.perform client u = (answer, v)) :
    run client (e :: rest) u = ((e, answer) :: (run client rest v).1, (run client rest v).2) := by
  rw [run, h]

theorem run_append (client : Client ρ) (before after : List Errand) (u : Shelf ρ) :
    run client (before ++ after) u =
      ((run client before u).1 ++ (run client after (run client before u).2).1,
        (run client after (run client before u).2).2) := by
  induction before generalizing u with
  | nil => rfl
  | cons e rest ih =>
      rcases h : e.perform client u with ⟨answer, v⟩
      rw [List.cons_append, run_cons _ h, run_cons _ h, ih]
      rfl

theorem lastWritten?_cons (name : String) (entry : Errand × Except Fault Unit)
    (log : List (Errand × Except Fault Unit)) :
    lastWritten? name (entry :: log) = (lastWritten? name log).or (written? name entry) := by
  rw [lastWritten?, lastWritten?, List.filterMap_cons]
  cases written? name entry with
  | none => rw [Option.or_none]
  | some capacity =>
      rw [List.getLast?_cons]
      cases (log.filterMap (written? name)).getLast? <;> rfl

/-- Of two capacities that are written one after the other the later one stays. -/
theorem rewritten_rewritten (set : Option RemoteSet) (first second : Option Int) :
    rewritten (rewritten set first) second = rewritten set (second.or first) := by
  cases second with
  | none => cases first <;> rfl
  | some capacity =>
      cases first with
      | none => rfl
      | some _ => cases set <;> rfl

theorem shown_of_run (client : Client ρ) {errands : List Errand} {key : String}
    (hkey : ∀ name, describe name (some key) ∉ errands) (u : Shelf ρ) :
    (run client errands u).2.shown key = u.shown key := by
  induction errands generalizing u with
  | nil => rfl
  | cons e rest ih =>
      rcases h : e.perform client u with ⟨answer, v⟩
      rw [run_cons rest h]
      have hrest := ih (fun name hmem => hkey name (List.mem_cons_of_mem _ hmem)) v
      refine hrest.trans (shown_of_perform h fun name => ?_)
      rintro rfl
      exact hkey name List.mem_cons_self

section Course
variable {azure : Azure ρ} {group : ResourceGroup} {found : ρ → String → Option RemoteSet}

theorem found_of_run (hholds : azure.Holds group found) (errands : List Errand)
    (u : Shelf (Noted ρ)) (name : String) :
    found (run (.checked azure.noted group) errands u).2.world.remote.remote name =
      rewritten (found u.world.remote.remote name)
        (lastWritten? name (run (.checked azure.noted group) errands u).1) := by
  induction errands generalizing u with
  | nil => rfl
  | cons e rest ih =>
      rcases h : e.perform (.checked azure.noted group) u with ⟨answer, v⟩
      rw [run_cons rest h, lastWritten?_cons, ← rewritten_rewritten, ← found_of_perform hholds h]
      exact ih v

theorem run_withoutNotes (azure : Azure ρ) (group : ResourceGroup) (errands : List Errand)
    (u : Shelf (Noted ρ)) :
    run (.checked azure group) errands u.withoutNotes =
      ((run (.checked azure.noted group) errands u).1,
        (run (.checked azure.noted group) errands u).2.withoutNotes) := by
  induction errands generalizing u with
  | nil => rfl
  | cons e rest ih =>
      rcases h : e.perform (.checked azure.noted group) u with ⟨answer, v⟩
      have hplain := projects_perform azure group e u
      rw [h] at hplain
      rw [run_cons rest h, run_cons rest hplain, ih]

/-- Descriptions may be used again in any order and any number of times, also after updates that
failed. Every update still sends the capacity that it was asked for and no provisioning state, and
fetches the set, before all else, exactly if it was passed no body. After the whole course each set
has the capacity of the last update to it that was acknowledged, and the one from before if there
was none. What a kept description shows stays as it was until another one is kept in its place. -/
theorem reused_descriptions_write_what_is_asked (hholds : azure.Holds group found)
    (errands : List Errand) (u : Shelf (Noted ρ)) :
    let client := Client.checked azure.noted group
    let (log, v) := run client errands u
    run (.checked azure group) errands u.withoutNotes = (log, v.withoutNotes) ∧
      (∀ before e after, errands = before ++ e :: after →
        let middle := (run client before u).2
        let (answer, next) := e.perform client middle
        log = (run client before u).1 ++ (e, answer) :: (run client after next).1 ∧
          ∃ notes, next.world.remote.notes = middle.world.remote.notes ++ notes ∧
            match e with
            | describe name _ => ∃ got, notes = [.got group name got]
            | update name capacity basis =>
              let passed := (basis.description? middle.kept).bind (·.body)
              Updated group name capacity passed notes answer ∧
                (∀ group' name' body answer', .updateBegun group' name' body answer' ∈ notes →
                  group' = group ∧ name' = name ∧ body.capacity = some (.int capacity) ∧
                    body.provisioningState = none) ∧
                ((∃ got rest, notes = .got group name got :: rest) ↔ passed = none)) ∧
      (∀ name, found v.world.remote.remote name =
        match lastWritten? name log with
        | some capacity => (found u.world.remote.remote name).map fun set =>
            { set with capacity := .int capacity }
        | none => found u.world.remote.remote name) ∧
      ∀ key, (∀ name, describe name (some key) ∉ errands) → v.shown key = u.shown key := by
  intro client
  rcases hrun : run client errands u with ⟨log, v⟩
  have hlog : (run client errands u).1 = log := congrArg Prod.fst hrun
  have hlast : (run client errands u).2 = v := congrArg Prod.snd hrun
  refine ⟨?_, ?_, ?_, ?_⟩
  · rw [run_withoutNotes, hlog, hlast]
  · rintro before e after rfl
    intro middle
    rcases hperform : e.perform client middle with ⟨answer, next⟩
    obtain ⟨notes, hnotes, hshape⟩ := notes_of_perform hperform
    refine ⟨?_, notes, hnotes, ?_⟩
    · rw [← hlog, run_append, run_cons after hperform]
    · cases e with
      | describe name keepAs => exact hshape
      | update name capacity basis =>
          exact ⟨hshape, fun _ _ _ _ hmem => hshape.sends hmem, hshape.fetches_iff⟩
  · intro name
    rw [← hlast, ← hlog, found_of_run hholds]
    cases lastWritten? name (run client errands u).1 <;> rfl
  · intro key hkey
    rw [← hlast]
    exact shown_of_run client hkey u

/-- A description that was used for an update that failed when it was waited for, and then for one
that succeeded; its capacity goes on showing as 2. -/
theorem reused_descriptions_write_what_is_asked_twice :
    let busy : Failure := ⟨.finishUpdate, none, .raised (.azure .response) "busy", some 1⟩
    let pool : RemoteSet := ⟨"pool-a", none, .int 2, true, [], .zero⟩
    let world : World InMemory := .start ⟨[pool], [busy], []⟩ .zero
    let kept : Description := ⟨"pool-a", .int 2, some (InMemory.body pool)⟩
    let u : Shelf (Noted InMemory) := ⟨world.withNotes [], [("a", kept)]⟩
    let errands := [update "pool-a" 5 (.kept "a"), update "POOL-A" 4 (.kept "a")]
    let v := (run (.checked InMemory.azure.noted (.text "rg")) errands u).2
    InMemory.azure.Holds (.text "rg") InMemory.found ∧
      v.world.remote.notes.length = 4 ∧
      InMemory.found v.world.remote.remote "Pool-A" = some { pool with capacity := .int 4 } ∧
      v.shown "a" = some ("pool-a", .int 2) := by
  intro busy pool world kept u errands v
  have hlength : v.world.remote.notes.length = 4 := by decide +kernel
  have hpool : InMemory.found u.world.remote.remote "Pool-A" = some pool :=
    List.find?_cons_of_pos (by decide +kernel)
  have hlast : lastWritten? "Pool-A"
      (run (.checked InMemory.azure.noted (.text "rg")) errands u).1 = some 4 := by
    decide +kernel
  have h := reused_descriptions_write_what_is_asked (InMemory.holds (.text "rg")) errands u
  rcases hrun : run (.checked InMemory.azure.noted (.text "rg")) errands u with ⟨log, final⟩
  dsimp only at h
  rw [hrun] at h hlast
  obtain ⟨-, -, hfound, hshown⟩ := h
  obtain rfl : v = final := congrArg Prod.snd hrun
  refine ⟨InMemory.holds _, hlength, ?_, hshown "a" (by simp [errands])⟩
  rw [hfound "Pool-A", hlast, hpool]
  rfl

end Course

end Errand

end FleetWarden
