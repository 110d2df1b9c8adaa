import FleetWarden.Proofs.CommandLine.HelpTexts
import FleetWarden.Proofs.CommandLine.Reaching

/-!
# Arguments at fault below the options of the program

Once the options of the program are accepted, arguments can be at fault while a group chooses one of
its commands, in the options of a command, and in its arguments. `Misuses` lists these errors, each
with the place where it arises. Such an invocation tells the error, shows one help and leaves
everything else alone (`stderr_of_misuses`). The help is that of the command that failed, with two
exceptions: an error of a command's options that is told without its command comes with the help of
the enclosing group, and a group that is called with nothing has its help as its message too.
-/

namespace FleetWarden.CommandLine

open Text

theorem Verb.spec_mem_commandSpecs (v : Verb) : v.spec ∈ commandSpecs := by
  cases v <;> simp only [commandSpecs, spec, List.mem_cons, true_or, or_true]

/-- Where arguments behind the options of the program are at fault. -/
inductive Place where
  | choosing (group : CommandSpec)
  | options (group command : CommandSpec)
  | values (command : CommandSpec)

namespace Place

/-- The command that fails. -/
def failed : Place → CommandSpec
  | choosing group => group
  | options _ command => command
  | values command => command

/-- The command whose help is shown. -/
def shown (e : UsageError) : Place → CommandSpec
  | choosing group => group
  | options group command => if e.isBare then group else command
  | values command => command

/-- The help of the command that fails is not shown, or is not all that is told. -/
inductive Slips : Place → UsageError → Prop
  | bare (group command : CommandSpec) {e : UsageError} (h : e.isBare = true) :
      Slips (options group command) e
  | noArguments (place : Place) : Slips place (.noArguments place.failed.help)

/-- The commands at a place are commands of the program. -/
inductive Known : Place → Prop
  | choosing {group : CommandSpec} (hgroup : group ∈ commandSpecs) : Known (choosing group)
  | options {group command : CommandSpec} (hgroup : group ∈ commandSpecs)
      (hcommand : command ∈ commandSpecs) (hne : group ≠ command) : Known (options group command)
  | values {command : CommandSpec} (hcommand : command ∈ commandSpecs) : Known (values command)

theorem Known.shown_mem {place : Place} (h : place.Known) (e : UsageError) :
    place.shown e ∈ commandSpecs := by
  cases h with
  | choosing hgroup => exact hgroup
  | options hgroup hcommand =>
      rw [shown]
      split_ifs
      · exact hgroup
      · exact hcommand
  | values hcommand => exact hcommand

end Place

/-! ### The errors -/

/-- How reading the arguments of a command fails. -/
inductive Verb.Misreads (group : CommandSpec) (v : Verb) (args : List String) :
    Place → UsageError → Prop
  | options {e : UsageError} (hread : v.spec.readArguments args = .error e) :
      Misreads group v args (.options group v.spec) e
  | values {p : Parsed} {e : UsageError} (hread : v.spec.readArguments args = .ok p)
      (noHelp : p.has helpOption = false) (hvalues : v.command p = .error e) :
      Misreads group v args (.values v.spec) e

/-- How reading the arguments of a command of the program fails. -/
inductive Topic.Misreads : Topic → List String → Place → UsageError → Prop
  | verb {v : Verb} {args : List String} {place : Place} {e : UsageError}
      (h : v.Misreads rootSpec args place e) : Misreads (.verb v) args place e
  | sizeAlone : Misreads .size [] (.choosing sizeSpec) (.noArguments sizeSpec.help)
  | sizeOptions {args : List String} {e : UsageError} (given : args.isEmpty = false)
      (hread : sizeSpec.readArguments args = .error e) :
      Misreads .size args (.options rootSpec sizeSpec) e
  | sizeChoosing {args : List String} {p : Parsed} {e : UsageError} (given : args.isEmpty = false)
      (hread : sizeSpec.readArguments args = .ok p) (noHelp : p.has helpOption = false)
      (h : Unchosen sizeSpec sizeVerbs (fun _ => none) p.positional e) :
      Misreads .size args (.choosing sizeSpec) e
  | sizeVerb {args : List String} {p : Parsed} {name : String} {rest : List String} {v : Verb}
      {place : Place} {e : UsageError} (given : args.isEmpty = false)
      (hread : sizeSpec.readArguments args = .ok p) (noHelp : p.has helpOption = false)
      (hp : p.positional = name :: rest) (hname : sizeVerbs.lookup name = some v)
      (h : v.Misreads sizeSpec rest place e) : Misreads .size args place e

theorem Verb.ne_spec {group : CommandSpec} (h : group.isGroup = true) (v : Verb) :
    group ≠ v.spec := by
  rintro rfl
  cases v <;> cases h

theorem Verb.Misreads.known {group : CommandSpec} {v : Verb} {args : List String} {place : Place}
    {e : UsageError} (h : v.Misreads group args place e) (hgroup : group ∈ commandSpecs)
    (hisGroup : group.isGroup = true) : place.Known := by
  cases h with
  | options => exact .options hgroup v.spec_mem_commandSpecs (v.ne_spec hisGroup)
  | values => exact .values v.spec_mem_commandSpecs

theorem rootSpec_mem_commandSpecs : rootSpec ∈ commandSpecs := List.mem_cons_self

theorem sizeSpec_mem_commandSpecs : sizeSpec ∈ commandSpecs :=
  List.mem_cons_of_mem _ List.mem_cons_self

theorem Topic.Misreads.known {topic : Topic} {args : List String} {place : Place} {e : UsageError}
    (h : topic.Misreads args place e) : place.Known := by
  cases h with
  | verb h => exact h.known rootSpec_mem_commandSpecs rfl
  | sizeAlone => exact .choosing sizeSpec_mem_commandSpecs
  | sizeOptions =>
      have hne : rootSpec ≠ sizeSpec := fun h => absurd (congrArg CommandSpec.path h) (by decide)
      exact .options rootSpec_mem_commandSpecs sizeSpec_mem_commandSpecs hne
  | sizeChoosing => exact .choosing sizeSpec_mem_commandSpecs
  | sizeVerb _ _ _ _ _ h => exact h.known sizeSpec_mem_commandSpecs rfl

section Reading
variable {args : List String} {group : CommandSpec} {place : Place} {e : UsageError} {v : Verb}

/-- An error is raised with the command whose help is shown, or with none if that is the group. -/
theorem Verb.read_of_misreads (h : v.Misreads group args place e) :
    ∃ m, v.read args = .error m ∧ m.error = e ∧ m.command?.getD group = place.shown e := by
  rw [read]
  cases h with
  | options hread =>
      rw [hread]
      refine ⟨_, rfl, rfl, ?_⟩
      rw [Misuse.ofOptions, Place.shown]
      split_ifs <;> rfl
  | values hread noHelp hvalues =>
      rw [hread]
      dsimp only
      rw [noHelp, if_neg Bool.false_ne_true, hvalues]
      exact ⟨_, rfl, rfl, rfl⟩

/-- Arguments of a command are misread, ask for its help, or call it. -/
theorem Verb.read_cases (group : CommandSpec) (args : List String) (v : Verb) :
    (∃ place e, v.Misreads group args place e) ∨ v.read args = .ok (.help v.spec) ∨
      ∃ c, v.read args = .ok (.run c) := by
  cases hread : v.spec.readArguments args with
  | error e => exact .inl ⟨_, e, .options hread⟩
  | ok p =>
      by_cases hhelp : p.has helpOption = true
      · refine .inr (.inl ?_)
        rw [read, hread]
        exact if_pos hhelp
      · have noHelp := Bool.eq_false_iff.2 hhelp
        cases hvalues : v.command p with
        | error e => exact .inl ⟨_, e, .values hread noHelp hvalues⟩
        | ok c =>
            refine .inr (.inr ⟨c, ?_⟩)
            rw [read, hread]
            dsimp only
            rw [noHelp, if_neg Bool.false_ne_true, hvalues]

end Reading

namespace Shell
variable {ρ : Type} {around : Surroundings ρ} {args : List String} {place : Place} {e : UsageError}

/-- The group around a command tells its errors. -/
theorem runVerb_of_misreads {group : CommandSpec} {v : Verb} (path : Option String)
    (h : v.Misreads group args place e) (s : Shell ρ) :
    (runVerb around path v args).recover (settle group) s = tell e (place.shown e) s := by
  obtain ⟨m, hread, rfl, hshown⟩ := Verb.read_of_misreads h
  rw [runVerb, hread, ← hshown]
  rfl

/-- Errors of the commands for sizes and of their group are told by one of the two groups around
them. -/
theorem runTopic_of_misreads {topic : Topic} (path : Option String)
    (h : topic.Misreads args place e) (s : Shell ρ) :
    (runTopic around path topic args).recover (settle rootSpec) s = tell e (place.shown e) s := by
  cases h with
  | verb h => exact runVerb_of_misreads path h s
  | sizeAlone => rfl
  | @sizeOptions args e given hread =>
      cases args with
      | nil => cases given
      | cons name rest =>
          rw [runTopic, readOptions_of_error hread, Misuse.ofOptions, Place.shown]
          split_ifs <;> rfl
  | sizeChoosing given hread noHelp h =>
      have hsize : runSize around path _ s = tell e sizeSpec s :=
        invokeGroup_of_unchosen (checks_nothing s) h
      rw [runTopic, readOptions_of_parsed given hread noHelp, Action.recover_of_error hsize]
      rfl
  | sizeVerb given hread noHelp hp hname h =>
      rw [runTopic, readOptions_of_parsed given hread noHelp, hp, runSize,
        invokeGroup_of_lookup hname, pure_bind, recover_settle_recover]
      exact runVerb_of_misreads path h s

/-- Arguments behind a command of the program are misread, have a help shown, or call a command. -/
theorem runTopic_cases (around : Surroundings ρ) (path : Option String) (topic : Topic)
    (args : List String) (s : Shell ρ) :
    (∃ place e, topic.Misreads args place e) ∨
      (∃ command ∈ commandSpecs, (runTopic around path topic args).recover (settle rootSpec) s =
        writeHelp command s) ∨
      ∃ c, topic.Calls args c := by
  cases topic with
  | verb v =>
      obtain ⟨place, e, h⟩ | hhelp | ⟨c, hrun⟩ := v.read_cases rootSpec args
      · exact .inl ⟨place, e, .verb h⟩
      · refine .inr (.inl ⟨_, v.spec_mem_commandSpecs, ?_⟩)
        rw [runTopic, runVerb, hhelp]
        rfl
      · exact .inr (.inr ⟨c, .verb hrun⟩)
  | size =>
      by_cases hnone : args.isEmpty = true
      · obtain rfl := List.isEmpty_iff.1 hnone
        exact .inl ⟨_, _, .sizeAlone⟩
      have given := Bool.eq_false_iff.2 hnone
      cases hread : sizeSpec.readArguments args with
      | error e => exact .inl ⟨_, e, .sizeOptions given hread⟩
      | ok p =>
          by_cases hhelp : p.has helpOption = true
          · refine .inr (.inl ⟨sizeSpec, sizeSpec_mem_commandSpecs, ?_⟩)
            rw [runTopic, readOptions_of_help given hread hhelp]
            rfl
          have noHelp := Bool.eq_false_iff.2 hhelp
          have hsize : runTopic around path .size args = runSize around path p.positional := by
            rw [runTopic, readOptions_of_parsed given hread noHelp]
          rw [hsize]
          obtain ⟨e, h⟩ | hchoose | ⟨name, rest, v, hp, hname⟩ | ⟨_, _, hfault, _⟩ :=
            invokeGroup_cases (pure ()) (runVerb around path) (checks_nothing s) p.positional
          · exact .inl ⟨_, e, .sizeChoosing given hread noHelp h⟩
          · refine .inr (.inl ⟨sizeSpec, sizeSpec_mem_commandSpecs, ?_⟩)
            exact Action.recover_of_error hchoose
          · rw [hp, runSize, invokeGroup_of_lookup hname, pure_bind, recover_settle_recover]
            obtain ⟨place, e, h⟩ | hhelp | ⟨c, hrun⟩ := v.read_cases sizeSpec rest
            · exact .inl ⟨place, e, .sizeVerb given hread noHelp hp hname h⟩
            · refine .inr (.inl ⟨_, v.spec_mem_commandSpecs, ?_⟩)
              rw [runVerb, hhelp]
              rfl
            · exact .inr (.inr ⟨c, .size given hread noHelp hp hname hrun⟩)
          · cases hfault

end Shell

/-! ### What is told -/

/-- What is told about an error, with the help of a command. -/
def UsageError.told (e : UsageError) (command : CommandSpec) : String :=
  Stop.errorLine (dropControlSequences e.message) ++ "\n" ++ command.help ++ "\n"

/-- The three texts that are written about an error, one after the other. -/
theorem stderr_afterTelling {ρ : Type} (e : UsageError) {command : CommandSpec}
    (h : command ∈ commandSpecs) (s : Shell ρ) :
    (s.afterTelling e command).terminal.stderr = s.terminal.stderr ++ e.told command := by
  have hnewline : IsUnescaped "\n" := by decide
  have hmessage : dropControlSequences ("Error: " ++ e.message ++ "\n") =
      Stop.errorLine (dropControlSequences e.message) := by
    have hline := dropControlSequences_append_newline ("Error: " ++ e.message) ""
    have hfirst := dropControlSequences_append_of_not_mem (s := "Error: ") (by decide) e.message
    rw [hfirst, String.append_empty] at hline
    exact hline.trans String.append_empty
  have hblank : dropControlSequences ("" ++ "\n") = "\n" := by
    rw [String.empty_append, dropControlSequences_of_not_mem hnewline]
  have hhelp : dropControlSequences (command.help ++ "\n") = command.help ++ "\n" :=
    dropControlSequences_of_not_mem (isUnescaped_append (isUnescaped_help h) hnewline)
  rw [Shell.afterTelling]
  simp only [Terminal.writeError, hmessage, hblank, hhelp, UsageError.told]
  simp only [String.append_assoc]

theorem head?_append {s : String} {c : Char} (h : s.toList.head? = some c) (t : String) :
    (s ++ t).toList.head? = some c := by
  rw [String.toList_append, List.head?_append, h, Option.some_or]

theorem head?_suggesting {s : String} {c : Char} (h : s.toList.head? = some c)
    (near : List String) : (UsageError.suggesting s near).toList.head? = some c := by
  match near with
  | [] => exact h
  | [one] => exact head?_append (head?_append (head?_append h _) _) _
  | _ :: _ :: _ => exact head?_append (head?_append (head?_append h _) _) _

/-- Only the message that is a help begins like one. -/
theorem head?_message_ne {e : UsageError} (h : ∀ help, e ≠ .noArguments help) :
    e.message.toList.head? ≠ some 'U' := by
  obtain ⟨c, hc, hhead⟩ : ∃ c, c ≠ 'U' ∧ e.message.toList.head? = some c := by
    cases e with
    | noArguments help => exact (h help rfl).elim
    | noSuchOption name near =>
        exact ⟨'N', by decide, head?_suggesting (head?_append (head?_append rfl _) _) near⟩
    | noSuchCommand name near =>
        exact ⟨'N', by decide, head?_suggesting (head?_append (head?_append rfl _) _) near⟩
    | needsValue option => exact ⟨'O', by decide, head?_append (head?_append rfl _) _⟩
    | takesNoValue option => exact ⟨'O', by decide, head?_append (head?_append rfl _) _⟩
    | missingArgument shown => exact ⟨'M', by decide, head?_append (head?_append rfl _) _⟩
    | missingCommand => exact ⟨'M', by decide, rfl⟩
    | extraArguments arguments =>
        exact ⟨'G', by decide,
          head?_append (head?_append (head?_append (head?_append rfl _) _) _) _⟩
    | badValue place message =>
        exact ⟨'I', by decide, head?_append (head?_append (head?_append rfl _) _) _⟩
  rw [hhead]
  exact fun heq => hc (Option.some.inj heq)

theorem told_inj {e : UsageError} {c c' : CommandSpec} (hc : c ∈ commandSpecs)
    (hc' : c' ∈ commandSpecs) : e.told c = e.told c' ↔ c = c' := by
  rw [UsageError.told, UsageError.told, String.append_left_inj, String.append_right_inj]
  exact help_inj hc hc'

/-- The help of the command that fails is all that is told behind the message, unless one of the
two exceptions applies. -/
theorem told_failed_iff {place : Place} {e : UsageError} (hplace : place.Known) :
    e.told (place.shown e) = e.told place.failed ∧ e.message ≠ place.failed.help ↔
      ¬ place.Slips e := by
  constructor
  · rintro ⟨htold, hmessage⟩ hslips
    cases hslips with
    | bare group command h =>
        cases hplace with
        | options hgroup hcommand hne =>
            rw [Place.shown, if_pos h] at htold
            exact hne ((told_inj hgroup hcommand).1 htold)
    | noArguments => exact hmessage rfl
  · intro hslips
    constructor
    · cases hplace with
      | choosing hgroup => rfl
      | values hcommand => rfl
      | options hgroup hcommand hne =>
          rw [Place.shown, if_neg fun h => hslips (.bare _ _ h)]
          rfl
    · intro hmessage
      by_cases hhelp : ∃ help, e = .noArguments help
      · obtain ⟨help, rfl⟩ := hhelp
        obtain rfl : help = place.failed.help := hmessage
        exact hslips (.noArguments place)
      · refine head?_message_ne (not_exists.1 hhelp) ?_
        rw [hmessage]
        exact place.failed.head?_help

/-! ### The invocations -/

namespace Shell
variable {ρ : Type} {environment : List (String × String)} {disk : Disk} {args : List String}
  {place : Place} {e : UsageError}

/-- What the values of options in the place of a command come to, if they are at fault. -/
def misplacedFault? (environment : List (String × String)) (disk : Disk) (p : Parsed) :
    Option Stop :=
  (configNamed environment p).bind (pathFault? disk)

/-- How the arguments behind the options of the program are at fault. -/
inductive Misuses (environment : List (String × String)) (disk : Disk) :
    List String → Place → UsageError → Prop
  | unchosen {args : List String} {e : UsageError}
      (h : Unchosen rootSpec topics (misplacedFault? environment disk) args e) :
      Misuses environment disk args (.choosing rootSpec) e
  | misread {name : String} {rest : List String} {topic : Topic} {place : Place} {e : UsageError}
      (hname : topics.lookup name = some topic) (h : topic.Misreads rest place e) :
      Misuses environment disk (name :: rest) place e

theorem Misuses.known (h : Misuses environment disk args place e) : place.Known := by
  cases h with
  | unchosen => exact .choosing rootSpec_mem_commandSpecs
  | misread _ h => exact h.known

theorem misplacedFault?_eq_some {p : Parsed} {stop : Stop}
    (h : misplacedFault? environment disk p = some stop) :
    (∃ e, stop = .misused ⟨e, some rootSpec⟩) ∨ ∃ b, stop = .escaped (.path b) := by
  obtain ⟨path, -, h⟩ := Option.bind_eq_some_iff.1 h
  rw [pathFault?] at h
  split at h
  · exact .inr ⟨_, (Option.some.inj h).symm⟩
  · split at h
    · cases h
    · split at h
      · cases h
      · split_ifs at h
        · exact .inl ⟨_, (Option.some.inj h).symm⟩
        · exact .inl ⟨_, (Option.some.inj h).symm⟩

/-- Looking at misplaced options does nothing else. -/
theorem checks_configPath (environment : List (String × String)) (s : Shell ρ) :
    Checks (fun p => do let _ ← configPath environment p)
      (misplacedFault? environment s.storage.disk) s := by
  intro p
  cases hfault : misplacedFault? environment s.storage.disk p with
  | some stop => exact Action.bind_of_error (configPath_of_some hfault)
  | none => exact Action.bind_of_ok (configPath_of_none hfault)

/-- Arguments at fault are told, and nothing is done but to set reports up. -/
theorem runRoot_of_misuses {around : Surroundings ρ} {s : Shell ρ} (path : Option String)
    (verbose : Bool) (h : Misuses around.environment s.storage.disk args place e) :
    ∃ setups, runRoot around path verbose args s =
      tell e (place.shown e) { s with setups } := by
  cases h with
  | unchosen h =>
      exact ⟨s.setups, invokeGroup_of_unchosen (checks_configPath around.environment s) h⟩
  | misread hname h =>
      refine ⟨s.setups ++ [.of verbose], ?_⟩
      have hsetup : setUpReports verbose s =
          (.ok (), { s with setups := s.setups ++ [.of verbose] }) := rfl
      rw [runRoot, invokeGroup_of_lookup hname, Action.recover_bind_of_ok hsetup]
      exact runTopic_of_misreads path h _

end Shell

open Shell

section
variable {ρ : Type} {around : Surroundings ρ} {disk : Disk} {args : List String}
  {p : Parsed} {place : Place} {e : UsageError}

theorem invoke_of_misuses (input : String) (hparses : Parses around.environment disk args p)
    (h : Misuses around.environment disk p.positional place e) :
    ∃ s : Shell ρ, invoke around input disk args =
        .ofStop .told (s.afterTelling e (place.shown e)) ∧
      s.terminal = .withInput input ∧ s.storage = ⟨disk, []⟩ ∧ s.trace = Startup.emptyTrace ∧
      s.world = around.supply.world := by
  let shell : Shell ρ :=
    ⟨.withInput input, [], ⟨disk, []⟩, Startup.emptyTrace, around.supply.world⟩
  obtain ⟨setups, hroot⟩ := runRoot_of_misuses (s := shell)
    (configNamed around.environment p) (p.has verboseOption) h
  have hrun : run around args shell = _ := (run_of_parses hparses).trans hroot
  exact ⟨{ shell with setups }, congrArg Outcome.ofRun hrun, rfl, rfl, rfl, rfl⟩

theorem stderr_eq_told (input : String) (hparses : Parses around.environment disk args p)
    (h : Misuses around.environment disk p.positional place e) :
    (invoke around input disk args).shell.terminal.stderr = e.told (place.shown e) := by
  obtain ⟨s, hinvoke, hterminal, -⟩ := invoke_of_misuses input hparses h
  have hstderr := stderr_afterTelling e (h.known.shown_mem e) s
  rw [hterminal] at hstderr
  rw [hinvoke]
  change (s.afterTelling e (place.shown e)).terminal.stderr ++ "" = _
  rw [String.append_empty, hstderr]
  exact String.empty_append

/-- The help of a command is shown, and that is all. -/
def Outcome.ShowsHelp (o : Outcome ρ) : Prop :=
  o.exitCode = 0 ∧ ∃ command ∈ commandSpecs, o.shell.terminal.stdout = command.help ++ "\n"

theorem showsHelp_of_writeHelp {command : CommandSpec} (h : command ∈ commandSpecs) {s : Shell ρ}
    (hs : s.terminal.stdout = "") : (Outcome.ofRun (writeHelp command s)).ShowsHelp := by
  refine ⟨rfl, command, h, ?_⟩
  change s.terminal.stdout ++ (dropControlSequences command.help ++ "\n") = _
  rw [hs, String.empty_append, dropControlSequences_of_not_mem (isUnescaped_help h)]

/-- An invocation whose options are accepted has its other arguments at fault, calls a command,
shows a help, or is given a path in the place of a command that cannot be a path. -/
theorem invoke_cases (input : String) (hparses : Parses around.environment disk args p) :
    (∃ place e, Misuses around.environment disk p.positional place e) ∨
      (∃ c, Calls around.environment disk args p c) ∨
      (invoke around input disk args).ShowsHelp ∨
      ∃ b, (invoke around input disk args).escaped = some (.path b) := by
  let shell : Shell ρ :=
    ⟨.withInput input, [], ⟨disk, []⟩, Startup.emptyTrace, around.supply.world⟩
  have hinvoke : invoke around input disk args = .ofRun (runRoot around
      (configNamed around.environment p) (p.has verboseOption) p.positional shell) :=
    congrArg Outcome.ofRun (run_of_parses (s := shell) hparses)
  obtain ⟨e, h⟩ | hhelp | ⟨name, rest, topic, hp, hname⟩ | ⟨p', stop, hfault, htold, hstops⟩ :=
    invokeGroup_cases (setUpReports (p.has verboseOption))
      (runTopic around (configNamed around.environment p))
      (checks_configPath around.environment shell) p.positional
  · exact .inl ⟨_, e, .unchosen h⟩
  · refine .inr (.inr (.inl ?_))
    rw [hinvoke, runRoot, hhelp]
    exact showsHelp_of_writeHelp rootSpec_mem_commandSpecs rfl
  · have hsetup : setUpReports (p.has verboseOption) shell =
        (.ok (), chosen around input disk p) := rfl
    obtain ⟨place, e, h⟩ | ⟨command, hcommand, hhelp⟩ | ⟨c, hcalls⟩ := runTopic_cases around
      (configNamed around.environment p) topic rest (chosen around input disk p)
    · exact .inl ⟨place, e, hp ▸ .misread hname h⟩
    · refine .inr (.inr (.inl ?_))
      rw [hinvoke, runRoot, hp, invokeGroup_of_lookup hname, Action.recover_bind_of_ok hsetup,
        hhelp]
      exact showsHelp_of_writeHelp hcommand rfl
    · exact .inr (.inl ⟨c, hparses, name, rest, topic, hp, hname, hcalls⟩)
  · obtain ⟨e, rfl⟩ | ⟨b, rfl⟩ := misplacedFault?_eq_some hfault
    · exact absurd rfl (htold e)
    · refine .inr (.inr (.inr ⟨b, ?_⟩))
      rw [hinvoke, runRoot, hstops fun _ h => by cases h]
      rfl

/-- Once the options of the program are accepted, the other arguments can be at fault. Then the exit
code is 2, the error is told with one help behind it, and nothing is written elsewhere, read from
the disk, opened, or asked of the remote side. The help is that of the command that fails, and the
message is no help, unless one of the two exceptions of `Slips` applies. Arguments that are not at
fault call a command, ask for help, or have a path in the place of a command that cannot be one. -/
theorem stderr_of_misuses (input : String) (hparses : Parses around.environment disk args p) :
    let o := invoke around input disk args
    ((∃ place e, Misuses around.environment disk p.positional place e) ∨
      (∃ c, Calls around.environment disk args p c) ∨ o.ShowsHelp ∨
      ∃ b, o.escaped = some (.path b)) ∧
    ∀ place e, Misuses around.environment disk p.positional place e →
      o.exitCode = 2 ∧ o.escaped = none ∧ o.shell.terminal.stdout = "" ∧
      o.shell.terminal.stderr = e.told (place.shown e) ∧ o.shell.storage = ⟨disk, []⟩ ∧
      o.shell.trace = Startup.emptyTrace ∧ o.shell.world = around.supply.world ∧
      (o.shell.terminal.stderr = e.told place.failed ∧ e.message ≠ place.failed.help ↔
        ¬ place.Slips e) := by
  intro o
  refine ⟨invoke_cases input hparses, fun place e h => ?_⟩
  obtain ⟨s, hinvoke, hterminal, hstorage, htrace, hworld⟩ := invoke_of_misuses input hparses h
  have hstderr : o.shell.terminal.stderr = e.told (place.shown e) :=
    stderr_eq_told input hparses h
  have hiff := told_failed_iff (e := e) h.known
  rw [← hstderr] at hiff
  refine ⟨?_, ?_, ?_, hstderr, ?_, ?_, ?_, hiff⟩
  · exact congrArg Outcome.exitCode hinvoke
  · exact congrArg Outcome.escaped hinvoke
  · exact (congrArg (·.shell.terminal.stdout) hinvoke).trans (congrArg Terminal.stdout hterminal)
  · exact (congrArg (·.shell.storage) hinvoke).trans hstorage
  · exact (congrArg (·.shell.trace) hinvoke).trans htrace
  · exact (congrArg (·.shell.world) hinvoke).trans hworld

end

section BlankListing

/-- The target is missing, and the help of the command for targets is shown. -/
theorem stderr_of_misuses_missingTarget :
    let args := ["size", "set", "pool"]
    let o := invoke atBlankListing "" .empty args
    let e := UsageError.missingArgument "TARGET"
    Parses [] .empty args ⟨[], args⟩ ∧
      Misuses [] .empty args (.values sizeSetSpec) e ∧ o.exitCode = 2 ∧
      o.shell.terminal.stderr = e.told sizeSetSpec ∧ e.message ≠ sizeSetSpec.help ∧
      o.shell.world = spareOnly.world := by
  intro args o e
  have hparses : Parses atBlankListing.environment .empty args ⟨[], args⟩ :=
    ⟨rfl, rfl, rfl, rfl⟩
  have hname : topics.lookup "size" = some .size := rfl
  have hmisreads : Verb.sizeSet.Misreads sizeSpec ["pool"] (.values sizeSetSpec) e :=
    .values rfl rfl rfl
  have hmisuses : Misuses [] .empty args (.values sizeSetSpec) e :=
    .misread hname (.sizeVerb rfl rfl rfl rfl rfl hmisreads)
  obtain ⟨hcode, -, -, -, -, -, hworld, hiff⟩ := (stderr_of_misuses "" hparses).2 _ e hmisuses
  have hslips : ¬ (Place.values sizeSetSpec).Slips (.missingArgument "TARGET") := by
    rintro ⟨⟩
  obtain ⟨hstderr, hmessage⟩ := hiff.2 hslips
  exact ⟨hparses, hmisuses, hcode, hstderr, hmessage, hworld⟩

/-- An option without its value comes with the help of the enclosing group. A group that is called
with nothing shows its help twice. -/
theorem watch_shows_other_help :
    (let args := ["watch", "--duration"]
      let o := invoke atBlankListing "" .empty args
      let e := UsageError.needsValue "--duration"
      Parses [] .empty args ⟨[], args⟩ ∧
        Misuses [] .empty args (.options rootSpec watchSpec) e ∧
        o.shell.terminal.stderr = e.told rootSpec ∧
        o.shell.terminal.stderr ≠ e.told watchSpec) ∧
      let args := ["size"]
      let o := invoke atBlankListing "" .empty args
      let e := UsageError.noArguments sizeSpec.help
      Parses [] .empty args ⟨[], args⟩ ∧ Misuses [] .empty args (.choosing sizeSpec) e ∧
        o.shell.terminal.stderr =
          Stop.errorLine sizeSpec.help ++ "\n" ++ sizeSpec.help ++ "\n" := by
  let e := UsageError.needsValue "--duration"
  have hwatch : Parses atBlankListing.environment .empty ["watch", "--duration"]
      ⟨[], ["watch", "--duration"]⟩ := ⟨rfl, rfl, rfl, rfl⟩
  have hsize : Parses atBlankListing.environment .empty ["size"] ⟨[], ["size"]⟩ :=
    ⟨rfl, rfl, rfl, rfl⟩
  have hkind : ArgumentKind.ofArgument watchSpec.allOptions "--duration" =
      .waiting [] durationOption "--duration" := by
    decide +kernel
  have hneeds : Verb.watch.Misreads rootSpec ["--duration"] (.options rootSpec watchSpec) e := by
    refine .options ?_
    rw [Verb.spec, CommandSpec.readArguments, readArguments, hkind]
  have hwatchName : topics.lookup "watch" = some (.verb .watch) := rfl
  have hduration : Misuses [] .empty ["watch", "--duration"] (.options rootSpec watchSpec) e :=
    .misread hwatchName (.verb hneeds)
  have hsizeName : topics.lookup "size" = some .size := rfl
  have halone : Misuses [] .empty ["size"] (.choosing sizeSpec) (.noArguments sizeSpec.help) :=
    .misread hsizeName .sizeAlone
  have htold : e.told rootSpec ≠ e.told watchSpec := by
    intro h
    have hwatchSpec : watchSpec ∈ commandSpecs := Verb.watch.spec_mem_commandSpecs
    exact Verb.watch.ne_spec rfl ((told_inj rootSpec_mem_commandSpecs hwatchSpec).1 h)
  have hstderr := stderr_eq_told "" hwatch hduration
  refine ⟨⟨hwatch, hduration, hstderr, hstderr.trans_ne htold⟩, hsize, halone, ?_⟩
  have hmessage : (UsageError.noArguments sizeSpec.help).message = sizeSpec.help := rfl
  rw [stderr_eq_told "" hsize halone, UsageError.told, hmessage,
    dropControlSequences_of_not_mem (isUnescaped_help sizeSpec_mem_commandSpecs)]
  rfl

end BlankListing

end FleetWarden.CommandLine
