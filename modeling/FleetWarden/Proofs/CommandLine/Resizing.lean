import FleetWarden.Proofs.Cloud.Acknowledged
import FleetWarden.Proofs.CommandLine.Reaching

/-!
# The exit status of a change of capacity

The command that changes a capacity says so at the end, and looks for tags in what it says. So exit
code 0 means that the update was acknowledged, but an acknowledged update does not mean exit code 0:
the name on the command line may hold tags that cannot be shown. `exitCode_of_sizeSet` says that
there is no other way for the exit code and the update to differ, and no such way for a name without
brackets and backslashes.
-/

namespace FleetWarden.CommandLine

open Text Numeral

variable {ρ : Type}

namespace Desk

/-- A name stands for a fleet of this name, up to case. -/
theorem Named.lower_eq {s : System ρ} {name : String} {fleet : Fleet} (h : Named s name fleet) :
    lower fleet.name = lower name := by
  cases h.addresses with
  | registered first => exact first.1
  | unregistered _ same => exact congrArg lower same

/-- What is said at the end of a change of capacity. -/
def resizedText (name : String) (target : Nat) : String :=
  coloured "green" (name ++ " capacity set to " ++ Whole.text target)

/-- What is said about a name without tags can always be shown. -/
theorem plain_resizedText {name : String} (h : Console.IsTagFree name.toList) (target : Nat) :
    ∃ cs, Console.plain (resizedText name target) = .ok cs := by
  have hopening : '[' ∉ (" capacity set to " ++ Whole.text target).toList := by
    simp [FleetSpec.notMem_text]
  have hclosing : ']' ∉ (" capacity set to " ++ Whole.text target).toList := by
    simp [FleetSpec.notMem_text]
  have hfree : Console.IsTagFree (name ++ " capacity set to " ++ Whole.text target).toList := by
    rw [String.append_assoc, String.toList_append]
    exact h.append (Console.isTagFree_of_not_mem hopening) (Console.untilBracket?_eq_none hclosing)
  exact Console.exists_plain_of_colour Console.isColour_green hfree

/-- What a change of capacity does once the bounds were looked at. -/
def resize (client : Client ρ) (name : String) (target : Nat) (fleet : Fleet) : Act ρ Unit := do
  operate (.ofFault ("Failed to set size of " ++ name)) (Manager.setSize client fleet target)
  writeMarkup (resizedText name target)

/-- The acknowledged updates are one: that of the fleet of the name, to the target. -/
def Wrote (s : System ρ) (name : String) (target : Nat)
    (acknowledged : List (String × ScaleSetBody)) : Prop :=
  ∃ fleet body, Named s name fleet ∧ lower fleet.name = lower name ∧
    acknowledged = [(fleet.name, body)] ∧ body.capacity = some (.int target)

/-- How the command ends that changes a capacity, with the updates acknowledged meanwhile. -/
inductive ResizeEnd (s : System ρ) (name : String) (target : Nat) :
    List (String × ScaleSetBody) → Except Stop Unit → Prop
  | done {acknowledged : List (String × ScaleSetBody)} {cs : List Char}
      (wrote : Wrote s name target acknowledged)
      (shown : Console.plain (resizedText name target) = .ok cs) :
      ResizeEnd s name target acknowledged (.ok ())
  /-- The capacity was changed, but this cannot be said. -/
  | unsaid {acknowledged : List (String × ScaleSetBody)} {e : Console.MarkupError}
      (wrote : Wrote s name target acknowledged)
      (h : Console.plain (resizedText name target) = .error e) :
      ResizeEnd s name target acknowledged (.error (.escaped (.markup e)))
  | stopped {stop : Stop} (h : stop.exitCode = 1) : ResizeEnd s name target [] (.error stop)

section
variable {azure : Azure ρ} {group : ResourceGroup} {name : String}

theorem resizeEnd_of_named {fleet : Fleet} {d : Desk (Acknowledging ρ)} (target : Nat)
    (hnamed : Named d.system name fleet) :
    let x := resize (.checked azure.acknowledging group) name target fleet
    ∃ acknowledged,
      (x d).2.system.world.remote.updates = d.system.world.remote.updates ++ acknowledged ∧
        ResizeEnd d.system name target acknowledged (x d).1 := by
  intro x
  rcases hrun : Manager.setSize (.checked azure.acknowledging group) fleet target d.system with
    ⟨f | done, s⟩
  · have hx : x d = (.error _, { d with system := s }) :=
      Action.bind_of_error (operate_of_error hrun)
    refine ⟨[], ?_, ?_⟩
    · rw [hx, List.append_nil]
      exact Manager.updates_of_failedSetSize hrun
    · rw [hx]
      exact .stopped (Stop.exitCode_ofFault _ f)
  · have hx : x d = writeMarkup (resizedText name target) { d with system := s } :=
      Action.bind_of_ok (operate_of_ok hrun)
    obtain ⟨body, hbody⟩ := Manager.updates_of_setSize hrun
    have hwrote : Wrote d.system name target [(fleet.name, body.resized target)] :=
      ⟨fleet, _, hnamed, hnamed.lower_eq, rfl, rfl⟩
    refine ⟨[(fleet.name, body.resized target)], ?_⟩
    rw [hx]
    cases hplain : Console.plain (resizedText name target) with
    | ok cs =>
        rw [writeMarkup_of_ok hplain]
        exact ⟨hbody, .done hwrote hplain⟩
    | error e =>
        rw [writeMarkup_of_error hplain]
        exact ⟨hbody, .unsaid hwrote hplain⟩

theorem resizeEnd_sizeSet (azure : Azure ρ) (group : ResourceGroup) (name : String) (target : Nat)
    (d : Desk (Acknowledging ρ)) :
    ∃ acknowledged,
      (sizeSet (.checked azure.acknowledging group) name target d).2.system.world.remote.updates =
          d.system.world.remote.updates ++ acknowledged ∧
        ResizeEnd d.system name target acknowledged
          (sizeSet (.checked azure.acknowledging group) name target d).1 := by
  rw [sizeSet]
  obtain ⟨fleet, hnamed⟩ | ⟨hblank, hfails⟩ := named_or_blank d.system name
  · rw [Action.bind_of_ok (hnamed d.terminal)]
    dsimp only
    split_ifs with hbounds
    · exact resizeEnd_of_named target hnamed
    · obtain ⟨terminal, hwritten⟩ | ⟨e, -, hfailed⟩ | ⟨-, hfailed⟩ :=
        warn_cases name fleet.spec target d
      · rw [Action.bind_of_ok hwritten]
        exact resizeEnd_of_named (d := ⟨terminal, d.system⟩) target hnamed
      · rw [Action.bind_of_error hfailed]
        exact ⟨[], (List.append_nil _).symm, .stopped rfl⟩
      · rw [Action.bind_of_error hfailed]
        exact ⟨[], (List.append_nil _).symm, .stopped rfl⟩
  · rw [Action.bind_of_error (hfails d.terminal)]
    exact ⟨[], (List.append_nil _).symm, .stopped rfl⟩

end
end Desk

/-- The acknowledged updates are one, which wrote the target to the fleet that the name stands for
with a manager that the surroundings provide. -/
def Surroundings.Wrote (around : Surroundings ρ) (path : Option String) (disk : Disk)
    (name : String) (target : Nat) (acknowledged : List (String × ScaleSetBody)) : Prop :=
  ∃ system, around.supply.Provides around.environment path disk system ∧
    Desk.Wrote system name target acknowledged

theorem Surroundings.Wrote.ne_nil {around : Surroundings ρ} {path : Option String} {disk : Disk}
    {name : String} {target : Nat} {acknowledged : List (String × ScaleSetBody)}
    (h : around.Wrote path disk name target acknowledged) : acknowledged ≠ [] := by
  obtain ⟨system, -, fleet, body, -, -, rfl, -⟩ := h
  exact List.cons_ne_nil _ _

open Shell

/-- An invocation that changes a capacity is done, or it was done but cannot say so, or nothing was
acknowledged. -/
theorem invoke_sizeSet_cases {azure : Azure ρ} {around : Surroundings (Acknowledging ρ)}
    (hserved : around.supply.ServedBy fun client =>
      ∃ group, client = .checked azure.acknowledging group)
    (input : String) {disk : Disk} {args : List String} {p : Parsed} {name : String} {target : Nat}
    (hcalls : Calls around.environment disk args p (.sizeSet name target)) :
    let o := invoke around input disk args
    let path := configNamed around.environment p
    ∃ acknowledged,
      o.shell.world.remote.updates = around.supply.world.remote.updates ++ acknowledged ∧
      (o.exitCode = 0 ∧ around.Wrote path disk name target acknowledged ∧
          (∃ cs, Console.plain (Desk.resizedText name target) = .ok cs) ∨
        o.exitCode = 1 ∧ around.Wrote path disk name target acknowledged ∧
          (∃ e, Console.plain (Desk.resizedText name target) = .error e ∧
            o.escaped = some (.markup e)) ∨
        o.exitCode = 1 ∧ acknowledged = []) := by
  intro o path
  obtain ⟨system, client, watch, s, hprovides, ⟨group, rfl⟩, hremote, hinvoke⟩ |
    ⟨stop, s, hcode, hremote, hinvoke⟩ := invoke_reaches hserved input hcalls
  · obtain ⟨acknowledged, hupdates, hend⟩ :=
      Desk.resizeEnd_sizeSet azure group name target ⟨.withInput input, system⟩
    refine ⟨acknowledged, ?_⟩
    rw [hremote] at hupdates
    rcases hrun : Desk.sizeSet (.checked azure.acknowledging group) name target
      ⟨.withInput input, system⟩ with ⟨outcome, d⟩
    change o = .ofDesk watch s (Desk.sizeSet _ name target ⟨.withInput input, system⟩) at hinvoke
    rw [hrun] at hupdates hend hinvoke
    rw [hinvoke]
    cases hend with
    | done wrote shown => exact ⟨hupdates, .inl ⟨rfl, ⟨system, hprovides, wrote⟩, _, shown⟩⟩
    | unsaid wrote hplain =>
        exact ⟨hupdates, .inr (.inl ⟨rfl, ⟨system, hprovides, wrote⟩, _, hplain, rfl⟩)⟩
    | stopped hcode =>
        rw [Outcome.ofDesk, settle_of_exitCode (by rw [hcode]; decide)]
        exact ⟨hupdates, .inr (.inr ⟨hcode, rfl⟩)⟩
  · refine ⟨[], ?_, .inr (.inr ⟨?_, rfl⟩)⟩
    · change (invoke around input disk args).shell.world.remote.updates = _
      rw [hinvoke, List.append_nil]
      exact congrArg Acknowledging.updates hremote
    · change (invoke around input disk args).exitCode = 1
      rw [hinvoke]
      exact hcode

/-- Exit code 0 means exactly that one update was acknowledged, of the target to the fleet that the
name stands for up to case, and that this could be said. At any other end no update was
acknowledged, except that an acknowledged one cannot be said: then the exit code is 1, and the
error of the tags is passed on. This does not happen to names without brackets that open and without
backslashes. -/
theorem exitCode_of_sizeSet {azure : Azure ρ} {around : Surroundings (Acknowledging ρ)}
    (hserved : around.supply.ServedBy fun client =>
      ∃ group, client = .checked azure.acknowledging group)
    (input : String) {disk : Disk} {args : List String} {p : Parsed} {name : String} {target : Nat}
    (hcalls : Calls around.environment disk args p (.sizeSet name target)) :
    let o := invoke around input disk args
    let path := configNamed around.environment p
    ∃ acknowledged,
      o.shell.world.remote.updates = around.supply.world.remote.updates ++ acknowledged ∧
      (o.exitCode = 0 ↔ around.Wrote path disk name target acknowledged ∧
        ∃ cs, Console.plain (Desk.resizedText name target) = .ok cs) ∧
      (o.exitCode ≠ 0 → acknowledged = [] ∨ around.Wrote path disk name target acknowledged ∧
        o.exitCode = 1 ∧ ∃ e, Console.plain (Desk.resizedText name target) = .error e ∧
          o.escaped = some (.markup e)) ∧
      (Console.IsBare name.toList →
        (o.exitCode = 0 ↔ around.Wrote path disk name target acknowledged) ∧
        (o.exitCode ≠ 0 → acknowledged = [])) := by
  intro o path
  obtain ⟨acknowledged, hupdates, hcases⟩ := invoke_sizeSet_cases hserved input hcalls
  refine ⟨acknowledged, hupdates, ?_⟩
  obtain ⟨hcode, hwrote, cs, hshown⟩ | ⟨hcode, hwrote, e, hplain, hescaped⟩ | ⟨hcode, rfl⟩ := hcases
  · refine ⟨⟨fun _ => ⟨hwrote, cs, hshown⟩, fun _ => hcode⟩, fun hne => absurd hcode hne,
      fun _ => ?_⟩
    exact ⟨⟨fun _ => hwrote, fun _ => hcode⟩, fun hne => absurd hcode hne⟩
  · have hne : o.exitCode ≠ 0 := by
      change (invoke around input disk args).exitCode ≠ 0
      omega
    refine ⟨⟨fun h => absurd h hne, ?_⟩, fun _ => .inr ⟨hwrote, hcode, e, hplain, hescaped⟩, ?_⟩
    · rintro ⟨-, cs, hshown⟩
      cases hplain.symm.trans hshown
    · intro hbare
      obtain ⟨cs, hshown⟩ := Desk.plain_resizedText hbare.isTagFree target
      cases hplain.symm.trans hshown
  · have hne : o.exitCode ≠ 0 := by
      change (invoke around input disk args).exitCode ≠ 0
      omega
    refine ⟨⟨fun h => absurd h hne, fun h => absurd rfl h.1.ne_nil⟩, fun _ => .inl rfl, fun _ => ?_⟩
    exact ⟨⟨fun h => absurd h hne, fun h => absurd rfl h.ne_nil⟩, fun _ => rfl⟩

section Obliging

/-- A manager of one fleet on an obliging remote side, whose acknowledged updates are written
down. -/
def atObliging : Surroundings (Acknowledging Unit) where
  environment := []
  supply :=
    let loop := RefreshLoop.fresh (.int 60)
    .given ((System.start loop (.start ⟨(), []⟩ .zero)).register Manager.spare)
      (.checked obliging.acknowledging (.text "rg"))
  interruptAt := 0

theorem servedBy_atObliging : atObliging.supply.ServedBy fun client =>
    ∃ group, client = .checked obliging.acknowledging group :=
  .given _ ⟨_, rfl⟩

/-- The fleet is registered as `spare`, and it is this fleet that is changed. -/
theorem exitCode_of_sizeSet_capitals :
    let args := ["size", "set", "SPARE", "3"]
    Calls [] .empty args ⟨[], args⟩ (.sizeSet "SPARE" 3) ∧
      ∃ o, o = invoke atObliging "" .empty args ∧ o.exitCode = 0 ∧
        o.shell.world.remote.updates.map (·.1) = ["spare"] ∧
        atObliging.Wrote none .empty "SPARE" 3 o.shell.world.remote.updates := by
  intro args
  have hcalls : Calls [] .empty args ⟨[], args⟩ (.sizeSet "SPARE" 3) :=
    ⟨⟨rfl, rfl, rfl, rfl⟩, _, _, .size, rfl, rfl, .size rfl rfl rfl rfl rfl rfl⟩
  have hcode : (invoke atObliging "" .empty args).exitCode = 0 := by decide +kernel
  obtain ⟨acknowledged, hupdates, hdone, -⟩ :=
    exitCode_of_sizeSet servedBy_atObliging "" hcalls
  have hnone : atObliging.supply.world.remote.updates = [] := rfl
  rw [hnone, List.nil_append] at hupdates
  have hwrote := (hdone.1 hcode).1
  rw [← hupdates] at hwrote
  exact ⟨hcalls, _, rfl, hcode, by decide +kernel, hwrote⟩

/-- The remote side acknowledges the update, and the exit code is 1. -/
theorem resized_without_a_word :
    let args := ["size", "set", "[/]", "5"]
    Calls [] .empty args ⟨[], args⟩ (.sizeSet "[/]" 5) ∧
      ∃ o, o = invoke atObliging "" .empty args ∧
        o.shell.world.remote.updates.map (fun u => (u.1, u.2.capacity.map (·.shown))) =
          [("[/]", some "5")] ∧
        o.exitCode = 1 ∧ o.escaped = some (.markup .unmatched) := by
  refine ⟨⟨⟨rfl, rfl, rfl, rfl⟩, _, _, .size, rfl, rfl, .size rfl rfl rfl rfl rfl rfl⟩, _, rfl, ?_⟩
  decide +kernel

end Obliging

end FleetWarden.CommandLine
