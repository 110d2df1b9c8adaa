import FleetWarden.CommandLine.Group
import Mathlib.Tactic.SplitIfs

/-!
# What groups do about arguments at fault

A group tells arguments at fault that it finds out about, and whatever stands further out leaves the
matter at that (`recover_settle_recover`). `Unchosen` lists how a group can fail to find a command
for its arguments; such an error is always told with the help of the group
(`invokeGroup_of_unchosen`). For a command that is found, the group only watches over what the
command does (`invokeGroup_of_lookup`).
-/

namespace FleetWarden.CommandLine

variable {ρ α β : Type}

/-- How a group fails to find a command. A name that it does not have is told, unless the name and
what is behind it are options that are at fault themselves, or whose values are. -/
inductive Unchosen (group : CommandSpec) (table : List (String × β))
    (fault? : Parsed → Option Stop) : List String → UsageError → Prop
  | missing : Unchosen group table fault? [] .missingCommand
  | misplaced {name : String} {rest : List String} {e : UsageError}
      (unknown : table.lookup name = none) (looks : Shell.looksLikeOption name = true)
      (hread : group.readArguments (name :: rest) = .error e) :
      Unchosen group table fault? (name :: rest) e
  | misplacedValue {name : String} {rest : List String} {p : Parsed} {e : UsageError}
      (unknown : table.lookup name = none) (looks : Shell.looksLikeOption name = true)
      (hread : group.readArguments (name :: rest) = .ok p) (noHelp : p.has helpOption = false)
      (hfault : fault? p = some (.misused ⟨e, some group⟩)) :
      Unchosen group table fault? (name :: rest) e
  | unknown {name : String} {rest : List String} (unknown : table.lookup name = none)
      (hread : Shell.looksLikeOption name = true →
        ∃ p, group.readArguments (name :: rest) = .ok p ∧ p.has helpOption = false ∧
          fault? p = none) :
      Unchosen group table fault? (name :: rest) (Shell.unknownCommand table name)

namespace Shell
variable {group inner outer command : CommandSpec} {table : List (String × β)}
  {check : Parsed → Act ρ Unit} {before : Act ρ Unit} {body : β → List String → Act ρ Unit}
  {fault? : Parsed → Option Stop} {args : List String} {e : UsageError} {stop : Stop}
  {s s' : Shell ρ}

/-- The shell after an error was told with the help of a command. -/
def afterTelling (e : UsageError) (command : CommandSpec) (s : Shell ρ) : Shell ρ :=
  { s with
    terminal := ((s.terminal.writeError ("Error: " ++ e.message ++ "\n")).writeError
      ("" ++ "\n")).writeError (command.help ++ "\n") }

theorem tell_apply (e : UsageError) (command : CommandSpec) (s : Shell ρ) :
    (tell e command : Act ρ α) s = (.error .told, s.afterTelling e command) := rfl

/-- A group passes on whatever is not about arguments. -/
theorem settle_of_not_misused (h : ∀ m, stop ≠ .misused m) :
    (settle group stop : Act ρ α) = .fail stop := by
  cases stop with
  | misused m => exact absurd rfl (h m)
  | helpShown => rfl
  | told => rfl
  | aborted => rfl
  | refused message => rfl
  | escaped e => rfl

theorem settle_of_exitCode (h : stop.exitCode ≠ 2) :
    (settle group stop : Act ρ α) = .fail stop := by
  refine settle_of_not_misused fun m hm => h ?_
  rw [hm]
  rfl

/-- What a group makes of a reason to stop, no other group will tell. -/
theorem settle_cases (group : CommandSpec) (stop : Stop) (s : Shell ρ) :
    ∃ stop' s', (settle group stop : Act ρ α) s = (.error stop', s') ∧
      ∀ m, stop' ≠ .misused m := by
  cases stop with
  | misused m => exact ⟨.told, _, tell_apply m.error _ s, nofun⟩
  | helpShown => exact ⟨_, s, rfl, nofun⟩
  | told => exact ⟨_, s, rfl, nofun⟩
  | aborted => exact ⟨_, s, rfl, nofun⟩
  | refused message => exact ⟨_, s, rfl, nofun⟩
  | escaped e => exact ⟨_, s, rfl, nofun⟩

/-- An error that was told by a group is not told again. -/
theorem recover_settle_recover (x : Act ρ α) :
    (x.recover (settle inner)).recover (settle outer) = x.recover (settle inner) := by
  funext s
  rcases hx : x s with ⟨stop | a, s'⟩
  · obtain ⟨stop', s'', hsettle, hnot⟩ := settle_cases (α := α) inner stop s'
    have hinner : x.recover (settle inner) s = (.error stop', s'') :=
      (Action.recover_of_error hx).trans hsettle
    rw [Action.recover_of_error hinner, settle_of_not_misused hnot, hinner]
    rfl
  · have hinner := Action.recover_of_ok (f := settle inner) hx
    rw [Action.recover_of_ok hinner, hinner]

/-- An error that arises while a command is looked for, with the group or with nothing, is told with
the help of the group, whether or not it is about a parameter. -/
theorem recover_search {x : Act ρ β} {m : Misuse} (hx : x s = (.error (.misused m), s'))
    (hm : m.command?.getD group = group) (k : β → Act ρ α) :
    (x.recover (settleSearch group) >>= k).recover (settle group) s = tell m.error group s' := by
  by_cases hparameter : m.error.isParameter = true
  · have hsearch : x.recover (settleSearch group) s = (.error (.misused m), s') := by
      rw [Action.recover_of_error hx, settleSearch, if_pos hparameter]
      rfl
    rw [Action.recover_of_error (Action.bind_of_error hsearch), settle, hm]
  · have hsearch : x.recover (settleSearch group) s = tell m.error group s' := by
      rw [Action.recover_of_error hx, settleSearch, if_neg hparameter]
    rw [Action.recover_of_error (Action.bind_of_error hsearch)]
    rfl

/-! ### Looking for a command -/

theorem readOptions_of_error {check : Parsed → Act ρ α} {name : String} {rest : List String}
    (hread : group.readArguments (name :: rest) = .error e) :
    readOptions group check (name :: rest) = .fail (.misused (.ofOptions group e)) := by
  rw [readOptions, List.isEmpty_cons, if_neg Bool.false_ne_true, hread]

theorem readOptions_of_parsed {check : Parsed → Act ρ α} {p : Parsed}
    (given : args.isEmpty = false) (hread : group.readArguments args = .ok p)
    (noHelp : p.has helpOption = false) : readOptions group check args = check p := by
  rw [readOptions, given, if_neg Bool.false_ne_true, hread]
  exact if_neg (Bool.eq_false_iff.1 noHelp)

theorem readOptions_of_help {check : Parsed → Act ρ α} {p : Parsed}
    (given : args.isEmpty = false) (hread : group.readArguments args = .ok p)
    (help : p.has helpOption = true) : readOptions group check args = writeHelp group := by
  rw [readOptions, given, if_neg Bool.false_ne_true, hread]
  exact if_pos help

/-- The values of options are looked at without any effect. -/
def Checks (check : Parsed → Act ρ Unit) (fault? : Parsed → Option Stop) (s : Shell ρ) : Prop :=
  ∀ p, check p s = ((match fault? p with
    | some stop => .error stop
    | none => .ok ()), s)

theorem checks_nothing (s : Shell ρ) : Checks (fun _ => pure ()) (fun _ => none) s := fun _ => rfl

theorem find_of_lookup {name : String} {chosen : β} (h : table.lookup name = some chosen)
    (rest : List String) : find group table check name rest = pure chosen := by
  rw [find, h]

theorem find_of_word {name : String} (unknown : table.lookup name = none)
    (word : looksLikeOption name = false) (rest : List String) (s : Shell ρ) :
    find group table check name rest s =
      (.error (.misused ⟨unknownCommand table name, some group⟩), s) := by
  rw [find, unknown]
  dsimp only
  rw [word]
  rfl

theorem find_of_option {name : String} (unknown : table.lookup name = none)
    (looks : looksLikeOption name = true) (rest : List String) :
    find group table check name rest = (do
      readOptions group check (name :: rest)
      .fail (.misused ⟨unknownCommand table name, some group⟩)) := by
  rw [find, unknown]
  dsimp only
  rw [if_pos looks]

theorem find_of_unchosen {name : String} {rest : List String} (hcheck : Checks check fault? s)
    (h : Unchosen group table fault? (name :: rest) e) :
    ∃ m : Misuse, find group table check name rest s = (.error (.misused m), s) ∧
      m.error = e ∧ m.command?.getD group = group := by
  cases h with
  | misplaced unknown looks hread =>
      refine ⟨.ofOptions group e, ?_, rfl, ?_⟩
      · rw [find_of_option unknown looks, readOptions_of_error hread]
        rfl
      · rw [Misuse.ofOptions]
        cases e.isBare <;> rfl
  | misplacedValue unknown looks hread noHelp hfault =>
      refine ⟨⟨e, some group⟩, ?_, rfl, rfl⟩
      rw [find_of_option unknown looks, readOptions_of_parsed rfl hread noHelp]
      refine Action.bind_of_error ?_
      rw [hcheck, hfault]
  | unknown unknown hread =>
      refine ⟨⟨unknownCommand table name, some group⟩, ?_, rfl, rfl⟩
      cases looks : looksLikeOption name with
      | false => exact find_of_word unknown looks rest s
      | true =>
          obtain ⟨p, hread, noHelp, hfault⟩ := hread looks
          have hchecked : check p s = (.ok (), s) := by
            rw [hcheck, hfault]
          rw [find_of_option unknown looks, readOptions_of_parsed rfl hread noHelp]
          exact Action.bind_of_ok hchecked

/-- An error of a group that finds no command is told once, with the help of the group. -/
theorem invokeGroup_of_unchosen (hcheck : Checks check fault? s)
    (h : Unchosen group table fault? args e) :
    invokeGroup group table check before body args s = tell e group s := by
  cases args with
  | nil =>
      cases h
      rfl
  | cons name rest =>
      obtain ⟨m, hfind, rfl, hm⟩ := find_of_unchosen hcheck h
      exact recover_search hfind hm _

theorem invokeGroup_of_lookup {name : String} {chosen : β} (h : table.lookup name = some chosen)
    (rest : List String) :
    invokeGroup group table check before body (name :: rest) =
      (before >>= fun _ => body chosen rest).recover (settle group) := by
  rw [invokeGroup, find_of_lookup h]
  rfl

/-- What ends the search for a command without being about arguments, ends the invocation. -/
theorem invokeGroup_of_find {name : String} {rest : List String}
    (hfind : find group table check name rest s = (.error stop, s'))
    (hnot : ∀ m, stop ≠ .misused m) :
    invokeGroup group table check before body (name :: rest) s = (.error stop, s') := by
  have hsearch : (find group table check name rest).recover (settleSearch group) s =
      (.error stop, s') := by
    rw [Action.recover_of_error hfind]
    cases stop with
    | misused m => exact absurd rfl (hnot m)
    | helpShown => rfl
    | told => rfl
    | aborted => rfl
    | refused message => rfl
    | escaped e => rfl
  rw [invokeGroup]
  refine (Action.recover_of_error (Action.bind_of_error hsearch)).trans ?_
  rw [settle_of_not_misused hnot]
  rfl

/-- A group finds no command, shows its help, finds a command, or stops for options in the place of
a command. -/
theorem invokeGroup_cases (before : Act ρ Unit) (body : β → List String → Act ρ Unit)
    (hcheck : Checks check fault? s) (args : List String) :
    (∃ e, Unchosen group table fault? args e) ∨
      invokeGroup group table check before body args s = writeHelp group s ∨
      (∃ name rest chosen, args = name :: rest ∧ table.lookup name = some chosen) ∨
      ∃ p stop, fault? p = some stop ∧ (∀ e, stop ≠ .misused ⟨e, some group⟩) ∧
        ((∀ m, stop ≠ .misused m) →
          invokeGroup group table check before body args s = (.error stop, s)) := by
  cases args with
  | nil => exact .inl ⟨_, .missing⟩
  | cons name rest =>
      cases unknown : table.lookup name with
      | some chosen => exact .inr (.inr (.inl ⟨name, rest, chosen, rfl, unknown⟩))
      | none =>
          by_cases looks : looksLikeOption name = true
          · cases hread : group.readArguments (name :: rest) with
            | error e => exact .inl ⟨e, .misplaced unknown looks hread⟩
            | ok p =>
                by_cases hhelp : p.has helpOption = true
                · have hfind : find group table check name rest s = writeHelp group s := by
                    rw [find_of_option unknown looks, readOptions_of_help rfl hread hhelp]
                    rfl
                  exact .inr (.inl (invokeGroup_of_find hfind nofun))
                · have noHelp := Bool.eq_false_iff.2 hhelp
                  cases hfault : fault? p with
                  | none => exact .inl ⟨_, .unknown unknown fun _ => ⟨p, hread, noHelp, hfault⟩⟩
                  | some stop =>
                      by_cases htold : ∃ e, stop = .misused ⟨e, some group⟩
                      · obtain ⟨e, rfl⟩ := htold
                        exact .inl ⟨e, .misplacedValue unknown looks hread noHelp hfault⟩
                      · refine .inr (.inr (.inr ⟨p, stop, hfault, not_exists.1 htold, ?_⟩))
                        refine invokeGroup_of_find ?_
                        rw [find_of_option unknown looks, readOptions_of_parsed rfl hread noHelp]
                        refine Action.bind_of_error ?_
                        rw [hcheck, hfault]
          · exact .inl ⟨_, .unknown unknown fun h => absurd h looks⟩

end Shell
end FleetWarden.CommandLine
