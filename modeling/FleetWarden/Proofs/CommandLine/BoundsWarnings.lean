import FleetWarden.Proofs.CommandLine.Resizing

/-!
# Warnings about bounds

The command that changes a capacity warns about a target outside the bounds of the fleet, and then
changes the capacity all the same. Only a registered fleet with a largest size has bounds: a largest
size of 0 stands for none. `warning_of_sizeSet` says when there is a warning, and that the rest of
the invocation is what it would be without one. A warning about a bound that is too long to be
written is the one that gets in the way (`sizeSet_of_unwritable`).
-/

namespace FleetWarden

open Text Numeral

theorem Value.isWritable_int_iff {n : Nat} :
    Value.isWritable (.int n) = true ↔ (Whole.digits n).length ≤ Whole.digitLimit := by
  rw [isWritable, Whole.write?, Int.natAbs_natCast]
  split_ifs with hshort
  · exact iff_of_true rfl hshort
  · exact iff_of_false Bool.false_ne_true hshort

namespace CommandLine

variable {ρ : Type}

namespace Desk

theorem FirstOfName.named {s : System ρ} {name : String} {fleet : Fleet}
    (h : FirstOfName s.fleets name fleet) : Named s name fleet := by
  intro terminal
  rw [fleetNamed, registeredFleet?_eq_some_iff.2 h]

/-- The target lies outside the bounds of a fleet that has bounds. -/
def OutOfBounds (spec : FleetSpec) (target : Nat) : Prop :=
  spec.maxSize ≠ 0 ∧ (target < spec.minSize ∨ spec.maxSize < target)

/-- The text was printed for this markup. -/
def Printed (markup text : String) : Prop :=
  ∃ cs, Console.plain markup = .ok cs ∧ text = Console.printed Terminal.columns cs

theorem Printed.ne_empty {markup text : String} (h : Printed markup text) : text ≠ "" := by
  obtain ⟨cs, -, rfl⟩ := h
  exact Console.printed_ne_empty _ cs

theorem withinBounds_eq_false_iff {spec : FleetSpec} {target : Nat} :
    withinBounds spec target = false ↔ OutOfBounds spec target := by
  simp only [withinBounds, OutOfBounds, Bool.or_eq_false_iff, Bool.and_eq_false_iff,
    decide_eq_false_iff_not, Nat.not_le, ne_eq]

theorem allWritable_warnedSizes_iff {spec : FleetSpec} {target : Nat} :
    Value.allWritable (warnedSizes spec target) = true ↔
      (Whole.digits target).length ≤ Whole.digitLimit ∧
        (Whole.digits spec.maxSize).length ≤ Whole.digitLimit := by
  simp only [warnedSizes, Value.allWritable, Bool.and_eq_true, Value.isWritable_int_iff,
    and_true]
  refine and_congr_right fun _ => and_iff_right_of_imp fun hmax => ?_
  exact (Whole.length_digits_le spec.min_le_max).trans hmax

/-- A warning about a name without tags can always be shown. -/
theorem plain_boundsWarning {name : String} (h : Console.IsTagFree name.toList) (spec : FleetSpec)
    (target : Nat) : ∃ cs, Console.plain (boundsWarning name spec target) = .ok cs := by
  have hfront : '[' ∉ ("Warning: " ++ Whole.text target ++ " is outside the registered bounds " ++
      Whole.text spec.minSize ++ ".." ++ Whole.text spec.maxSize ++ " of ").toList := by
    simp [FleetSpec.notMem_text]
  have hfree : Console.IsTagFree ("Warning: " ++ Whole.text target ++
      " is outside the registered bounds " ++ Whole.text spec.minSize ++ ".." ++
      Whole.text spec.maxSize ++ " of " ++ name).toList := by
    rw [String.toList_append]
    exact Console.isTagFree_append_of_not_mem hfront h
  exact Console.exists_plain_of_colour Console.isColour_yellow hfree

section
variable {client : Client ρ} {name : String} {target : Nat} {fleet : Fleet} {d : Desk ρ}

/-- A target within the bounds is not talked about. -/
theorem sizeSet_of_within (hnamed : Named d.system name fleet)
    (h : ¬ OutOfBounds fleet.spec target) :
    sizeSet client name target d = resize client name target fleet d := by
  have hwithin : withinBounds fleet.spec target = true :=
    eq_true_of_ne_false (mt withinBounds_eq_false_iff.1 h)
  rw [sizeSet, Action.bind_of_ok (hnamed d.terminal)]
  dsimp only
  rw [if_pos hwithin]
  rfl

/-- A target outside the bounds is warned about, and nothing else changes. -/
theorem sizeSet_of_outside (hnamed : Named d.system name fleet) (h : OutOfBounds fleet.spec target)
    (hwritable : Value.allWritable (warnedSizes fleet.spec target) = true) {warning : String}
    (hwarning : Printed (boundsWarning name fleet.spec target) warning) :
    sizeSet client name target d =
      resize client name target fleet { d with terminal := d.terminal.write warning } := by
  obtain ⟨cs, hplain, rfl⟩ := hwarning
  have hwarn : warn name fleet.spec target d = _ :=
    (congrFun (if_pos hwritable) d).trans (writeMarkup_of_ok hplain d)
  rw [sizeSet, Action.bind_of_ok (hnamed d.terminal)]
  dsimp only
  rw [withinBounds_eq_false_iff.2 h, if_neg Bool.false_ne_true, Action.bind_of_ok hwarn]
  rfl

/-- A bound that is too long to be written gets in the way of the change. -/
theorem sizeSet_of_unwritable (hnamed : Named d.system name fleet)
    (h : OutOfBounds fleet.spec target)
    (hunwritable : Value.allWritable (warnedSizes fleet.spec target) = false) :
    sizeSet client name target d = (.error (.escaped (.fault .unwritable)), d) := by
  have hwarn : (warn name fleet.spec target : Act ρ Unit) d =
      (.error (.escaped (.fault .unwritable)), d) :=
    congrFun (if_neg (Bool.eq_false_iff.1 hunwritable)) d
  rw [sizeSet, Action.bind_of_ok (hnamed d.terminal)]
  dsimp only
  rw [withinBounds_eq_false_iff.2 h, if_neg Bool.false_ne_true, Action.bind_of_error hwarn]

end
end Desk

section Arguments
variable {name : String} {target : Nat}

theorem length_digits_of_readTarget {raw : String} (h : readTarget raw = .ok target) :
    (Whole.digits target).length ≤ Whole.digitLimit := by
  rw [readTarget] at h
  split at h
  · cases h
  · rename_i n hread
    split_ifs at h with hnegative
    cases h
    have hnat : n.natAbs = n.toNat := by omega
    exact hnat ▸ Whole.length_digits_of_read hread

theorem length_digits_of_command {p : Parsed} {v : Verb}
    (h : v.command p = .ok (.sizeSet name target)) :
    (Whole.digits target).length ≤ Whole.digitLimit := by
  cases v with
  | sizeSet =>
      obtain ⟨⟨fleet, rest⟩, -, h⟩ := except_bind_eq_ok_iff.1 h
      obtain ⟨⟨raw, extra⟩, -, h⟩ := except_bind_eq_ok_iff.1 h
      obtain ⟨n, hread, h⟩ := except_bind_eq_ok_iff.1 h
      obtain ⟨-, -, h⟩ := except_bind_eq_ok_iff.1 h
      cases h
      exact length_digits_of_readTarget hread
  | watch =>
      rw [Verb.command] at h
      split at h <;> simp [except_bind_eq_ok_iff, except_map_eq_ok_iff, Functor.map] at h
  | _ => simp [Verb.command, except_map_eq_ok_iff, Functor.map] at h

end Arguments

/-- How an invocation ends once the manager has changed a capacity, or has failed to: it says so
behind what was written before. -/
def Outcome.Tells (o : Outcome ρ) (before : Terminal) (name : String) (target : Nat) :
    Except Fault Unit × System ρ → Prop
  | (.ok _, changed) => ∃ s report, o = ⟨0, none, s⟩ ∧
      Desk.Printed (Desk.resizedText name target) report ∧ s.terminal = before.write report ∧
      s.world = changed.world
  | (.error f, changed) => ∃ s, o = .ofStop (.ofFault ("Failed to set size of " ++ name) f) s ∧
      s.terminal = before ∧ s.world = changed.world

theorem tells_ofDesk {client : Client ρ} {name : String} (hfree : Console.IsTagFree name.toList)
    (target : Nat) (fleet : Fleet) (watch : CommandSpec) (s : Shell ρ) (d : Desk ρ) :
    (Outcome.ofDesk watch s (Desk.resize client name target fleet d)).Tells d.terminal name target
      (Manager.setSize client fleet target d.system) := by
  rcases hrun : Manager.setSize client fleet target d.system with ⟨f | done, changed⟩
  · rw [Desk.resize, Action.bind_of_error (Desk.operate_of_error hrun), Outcome.ofDesk,
      Shell.settle_of_exitCode (by rw [Stop.exitCode_ofFault]; decide)]
    exact ⟨_, rfl, rfl, rfl⟩
  · obtain ⟨cs, hplain⟩ := Desk.plain_resizedText hfree target
    rw [Desk.resize, Action.bind_of_ok (Desk.operate_of_ok hrun), Desk.writeMarkup_of_ok hplain]
    exact ⟨_, _, rfl, ⟨cs, hplain, rfl⟩, rfl, rfl⟩

open Shell

/-- The command addresses the first fleet that was registered under the name, up to case, or else
one of exactly this name. It writes a warning exactly if that fleet is registered, has bounds, and
the target lies outside them; no bounds of registered fleets are too long to be written. Whether
there is a warning or not, the manager is told to change the capacity of the fleet, and the
invocation ends as the manager does. -/
theorem warning_of_sizeSet {around : Surroundings ρ} {input : String} {disk : Disk}
    {args : List String} {p : Parsed} {name : String} {target : Nat} {system : System ρ}
    {client : Client ρ} (hcalls : Calls around.environment disk args p (.sizeSet name target))
    (hfinds : around.Finds input disk p system client) (hname : blank name = false)
    (hfree : Console.IsTagFree name.toList)
    (hshort : ∀ fleet ∈ system.fleets,
      (Whole.digits fleet.spec.maxSize).length ≤ Whole.digitLimit) :
    ∃ fleet warning, Desk.Addresses system.fleets name fleet ∧
      (warning ≠ "" ↔ Desk.FirstOfName system.fleets name fleet ∧
        Desk.OutOfBounds fleet.spec target) ∧
      (warning ≠ "" → Desk.Printed (Desk.boundsWarning name fleet.spec target) warning) ∧
      (invoke around input disk args).Tells ((Terminal.withInput input).write warning) name target
        (Manager.setSize client fleet target system) := by
  obtain ⟨fleet, hnamed⟩ : ∃ fleet, Desk.Named system name fleet :=
    (Desk.named_or_blank system name).resolve_right fun h => by
      cases hname.symm.trans h.1
  obtain ⟨watch, s, hinvoke⟩ := invoke_of_finds hcalls hfinds
  change _ = Outcome.ofDesk watch s (Desk.sizeSet client name target _) at hinvoke
  obtain ⟨v, p', hcommand⟩ := hcalls.exists_command
  by_cases houtside : Desk.OutOfBounds fleet.spec target
  · have hfirst : Desk.FirstOfName system.fleets name fleet := by
      cases hnamed.addresses with
      | registered first => exact first
      | unregistered _ _ free => exact absurd free houtside.1
    have hwritable : Value.allWritable (Desk.warnedSizes fleet.spec target) = true :=
      Desk.allWritable_warnedSizes_iff.2
        ⟨length_digits_of_command hcommand, hshort fleet hfirst.mem⟩
    obtain ⟨cs, hplain⟩ := Desk.plain_boundsWarning hfree fleet.spec target
    have hprinted : Desk.Printed (Desk.boundsWarning name fleet.spec target)
        (Console.printed Terminal.columns cs) := ⟨cs, hplain, rfl⟩
    refine ⟨fleet, _, hnamed.addresses, ?_, fun _ => hprinted, ?_⟩
    · exact iff_of_true hprinted.ne_empty ⟨hfirst, houtside⟩
    · rw [hinvoke, Desk.sizeSet_of_outside hnamed houtside hwritable hprinted]
      exact tells_ofDesk hfree target fleet watch s _
  · have hsilent : (Terminal.withInput input).write "" = .withInput input := by
      rw [Terminal.write, String.append_empty]
    refine ⟨fleet, "", hnamed.addresses, ?_, fun h => absurd rfl h, ?_⟩
    · exact iff_of_false (fun h => h rfl) fun h => houtside h.2
    · rw [hsilent, hinvoke, Desk.sizeSet_of_within hnamed houtside]
      exact tells_ofDesk hfree target fleet watch s _

section Obliging

/-- The fleet is registered as `spare`, for one instance at most. -/
theorem warning_of_sizeSet_spare :
    let args := ["size", "set", "SPARE", "3"]
    let o := invoke atObliging "" .empty args
    Calls [] .empty args ⟨[], args⟩ (.sizeSet "SPARE" 3) ∧
      ∃ system client warning, atObliging.Finds "" .empty ⟨[], args⟩ system client ∧
        system.fleets = [Manager.spare] ∧
        Desk.Printed (Desk.boundsWarning "SPARE" Manager.spare.spec 3) warning ∧
        o.Tells ((Terminal.withInput "").write warning) "SPARE" 3
          (Manager.setSize client Manager.spare 3 system) ∧
        o.shell.terminal.stdout = "Warning: 3 is outside the registered bounds 0..1 of SPARE\n" ++
          "SPARE capacity set to 3\n" := by
  intro args o
  have hcalls : Calls [] .empty args ⟨[], args⟩ (.sizeSet "SPARE" 3) :=
    ⟨⟨rfl, rfl, rfl, rfl⟩, _, _, .size, rfl, rfl, .size rfl rfl rfl rfl rfl rfl⟩
  have hfinds := atObliging.finds_of_given rfl "" .empty ⟨[], args⟩
  have hfree : Console.IsTagFree "SPARE".toList := Console.isTagFree_of_not_mem (by decide)
  have hshort : ∀ fleet ∈ [Manager.spare],
      (Whole.digits fleet.spec.maxSize).length ≤ Whole.digitLimit := by
    decide +kernel
  obtain ⟨fleet, warning, haddresses, hiff, hprinted, htells⟩ :=
    warning_of_sizeSet hcalls hfinds (by decide +kernel) hfree hshort
  have hfirst : Desk.FirstOfName [Manager.spare] "SPARE" fleet := by
    cases haddresses with
    | registered first => exact first
    | unregistered unknown =>
        exact absurd (by decide +kernel) (unknown Manager.spare List.mem_cons_self)
  obtain rfl := List.mem_singleton.1 hfirst.mem
  have houtside : Desk.OutOfBounds Manager.spare.spec 3 := ⟨by decide, .inr (by decide)⟩
  refine ⟨hcalls, _, _, warning, hfinds, rfl, hprinted (hiff.2 ⟨hfirst, houtside⟩), htells, ?_⟩
  decide +kernel

/-- A manager of one fleet. -/
def sole (fleet : Fleet) : System Unit :=
  (System.start (.fresh (.int 60)) (.start () .zero)).register fleet

/-- The manager on an obliging remote side. -/
def obligingWith (fleet : Fleet) : Surroundings Unit where
  environment := []
  supply := .given (sole fleet) (.checked obliging (.text "rg"))
  interruptAt := 0

/-- A fleet without a least size. -/
def idle (maxSize : Nat) : Fleet :=
  ⟨0, ⟨"idle", 0, maxSize, by decide +kernel, Nat.zero_le maxSize⟩⟩

/-- A fleet of one instance at least. -/
def vast (maxSize : Nat) (h : 1 ≤ maxSize) : Fleet :=
  ⟨0, ⟨"vast", 1, maxSize, by decide +kernel, h⟩⟩

theorem invoke_vast {maxSize : Nat} (h : 1 ≤ maxSize)
    (hlong : Whole.digitLimit < (Whole.digits maxSize).length) :
    let args := ["size", "set", "vast", "0"]
    let o := invoke (obligingWith (vast maxSize h)) "" .empty args
    Calls [] .empty args ⟨[], args⟩ (.sizeSet "vast" 0) ∧
      Desk.FirstOfName (sole (vast maxSize h)).fleets "vast" (vast maxSize h) ∧
      o.exitCode = 1 ∧ o.escaped = some (.fault .unwritable) ∧ o.shell.terminal.stdout = "" := by
  intro args o
  have hfirst : Desk.FirstOfName (sole (vast maxSize h)).fleets "vast" (vast maxSize h) :=
    ⟨rfl, [], [], rfl, List.forall_mem_nil _⟩
  have houtside : Desk.OutOfBounds (vast maxSize h).spec 0 :=
    ⟨Nat.ne_of_gt h, .inl Nat.one_pos⟩
  have hunwritable : Value.allWritable (Desk.warnedSizes (vast maxSize h).spec 0) = false := by
    refine Bool.eq_false_iff.2 fun hwritable => ?_
    exact absurd (Desk.allWritable_warnedSizes_iff.1 hwritable).2 (Nat.not_le.2 hlong)
  have hcalls : Calls [] .empty args ⟨[], args⟩ (.sizeSet "vast" 0) :=
    ⟨⟨rfl, rfl, rfl, rfl⟩, _, _, .size, rfl, rfl, .size rfl rfl rfl rfl rfl rfl⟩
  have hfinds := (obligingWith (vast maxSize h)).finds_of_given rfl "" .empty ⟨[], args⟩
  obtain ⟨watch, s, hinvoke⟩ := invoke_of_finds hcalls hfinds
  change o = Outcome.ofDesk watch s (Desk.sizeSet _ _ _ _) at hinvoke
  rw [Desk.sizeSet_of_unwritable hfirst.named houtside hunwritable] at hinvoke
  rw [hinvoke]
  exact ⟨hcalls, hfirst, rfl, rfl, rfl⟩

/-- No warning is written about a target above a largest size of 0. A target below the least size
is not written if the largest size has one digit more than can be told. -/
theorem unwarned_targets :
    (let args := ["size", "set", "idle", "5"]
      let o := invoke (obligingWith (idle 0)) "" .empty args
      Calls [] .empty args ⟨[], args⟩ (.sizeSet "idle" 5) ∧
        Desk.FirstOfName (sole (idle 0)).fleets "idle" (idle 0) ∧
        (idle 0).spec.maxSize < 5 ∧
        o.exitCode = 0 ∧ o.shell.terminal.stdout = "idle capacity set to 5\n") ∧
      let args := ["size", "set", "vast", "0"]
      let fleet := vast (Whole.tenTo Whole.digitLimit) (Whole.tenTo_pos _)
      let o := invoke (obligingWith fleet) "" .empty args
      Calls [] .empty args ⟨[], args⟩ (.sizeSet "vast" 0) ∧
        Desk.FirstOfName (sole fleet).fleets "vast" fleet ∧
        o.exitCode = 1 ∧ o.escaped = some (.fault .unwritable) ∧ o.shell.terminal.stdout = "" := by
  have hlong := Whole.lt_length_digits_tenTo Whole.digitLimit
  refine ⟨⟨⟨⟨rfl, rfl, rfl, rfl⟩, _, _, .size, rfl, rfl, .size rfl rfl rfl rfl rfl rfl⟩,
    ⟨rfl, [], [], rfl, List.forall_mem_nil _⟩, by decide, ?_⟩, invoke_vast _ hlong⟩
  decide +kernel

end Obliging

end CommandLine
end FleetWarden
