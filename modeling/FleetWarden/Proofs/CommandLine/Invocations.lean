import FleetWarden.CommandLine.Invocation
import FleetWarden.Proofs.CommandLine.Groups
import FleetWarden.Proofs.CommandLine.Stops
import FleetWarden.Proofs.Startup.Loaded

/-!
# How invocations end

An invocation whose arguments are accepted and call a command, with a manager that is given or a
configuration that can be loaded, comes to the command itself unless the outside refuses to open
the manager. So it ends with exit code 0, in one of the ways in which its command fails, or with
that refusal (`invoke_of_calls`).
-/

namespace FleetWarden.CommandLine

open Text

/-- The arguments of a command of the program call a command that does something. -/
inductive Topic.Calls : Topic → List String → Command → Prop
  | verb {v : Verb} {args : List String} {c : Command} (h : v.read args = .ok (.run c)) :
      Calls (.verb v) args c
  | size {args : List String} {p : Parsed} {name : String} {rest : List String} {v : Verb}
      {c : Command} (given : args.isEmpty = false) (hread : sizeSpec.readArguments args = .ok p)
      (noHelp : p.has helpOption = false) (hp : p.positional = name :: rest)
      (hname : sizeVerbs.lookup name = some v) (h : v.read rest = .ok (.run c)) :
      Calls .size args c

theorem Verb.exists_command_of_read {args : List String} {v : Verb} {c : Command}
    (h : v.read args = .ok (.run c)) : ∃ p, v.command p = .ok c := by
  rw [read] at h
  split at h
  · cases h
  · split at h
    · cases h
    · split at h
      · cases h
      · rename_i hcommand
        cases h
        exact ⟨_, hcommand⟩

theorem Topic.Calls.exists_command {topic : Topic} {args : List String} {c : Command}
    (h : topic.Calls args c) : ∃ (v : Verb) (p : Parsed), v.command p = .ok c := by
  cases h with
  | verb h => exact ⟨_, Verb.exists_command_of_read h⟩
  | size _ _ _ _ _ h => exact ⟨_, Verb.exists_command_of_read h⟩

/-- What an invocation comes to when it is done, or stops. -/
def Outcome.ofRun {ρ : Type} : Except Stop Unit × Shell ρ → Outcome ρ
  | (.ok _, s) => ⟨0, none, s⟩
  | (.error stop, s) => .ofStop stop s

namespace Shell
variable {ρ : Type} {environment : List (String × String)} {disk : Disk} {args : List String}
  {p : Parsed} {c : Command} {around : Surroundings ρ} {s : Shell ρ}

/-- The options of the program are accepted: none of them asks for help or names a configuration
file that is refused. -/
structure Parses (environment : List (String × String)) (disk : Disk) (args : List String)
    (p : Parsed) : Prop where
  given : args.isEmpty = false
  options : rootSpec.readArguments args = .ok p
  noHelp : p.has helpOption = false
  config : (configNamed environment p).bind (pathFault? disk) = none

/-- The arguments are accepted and call a command: the options of the program come first, and the
arguments of the command behind them are of the right kinds. -/
structure Calls (environment : List (String × String)) (disk : Disk) (args : List String)
    (p : Parsed) (c : Command) : Prop extends Parses environment disk args p where
  request : ∃ name rest topic, p.positional = name :: rest ∧ topics.lookup name = some topic ∧
    topic.Calls rest c

theorem Calls.exists_command (h : Calls environment disk args p c) :
    ∃ (v : Verb) (p' : Parsed), v.command p' = .ok c := by
  obtain ⟨name, rest, topic, -, -, hcalls⟩ := h.request
  exact hcalls.exists_command

theorem configPath_of_none
    (h : (configNamed environment p).bind (pathFault? s.storage.disk) = none) :
    configPath environment p s = (.ok (configNamed environment p), s) := by
  rw [configPath]
  dsimp only
  rw [h]

theorem configPath_of_some {stop : Stop}
    (h : (configNamed environment p).bind (pathFault? s.storage.disk) = some stop) :
    configPath environment p s = (.error stop, s) := by
  rw [configPath]
  dsimp only
  rw [h]

theorem run_of_parses (h : Parses around.environment s.storage.disk args p) :
    run around args s =
      runRoot around (configNamed around.environment p) (p.has verboseOption) p.positional s := by
  rw [run, readOptions_of_parsed h.given h.options h.noHelp,
    Action.bind_of_ok (configPath_of_none h.config)]

theorem runVerb_of_read {path : Option String} {v : Verb} (h : v.read args = .ok (.run c)) :
    runVerb around path v args = runCommand around path c := by
  rw [runVerb, h]

/-- Arguments that call a command run it under the watch of a group. No group further out has
anything to tell. -/
theorem runTopic_of_calls (around : Surroundings ρ) (path : Option String) {topic : Topic}
    (h : topic.Calls args c) : ∃ watch,
      (runTopic around path topic args).recover (settle rootSpec) =
        (runCommand around path c).recover (settle watch) := by
  cases h with
  | verb h => exact ⟨rootSpec, by rw [runTopic, runVerb_of_read h]⟩
  | size given hread noHelp hp hname h =>
      refine ⟨sizeSpec, ?_⟩
      rw [runTopic, readOptions_of_parsed given hread noHelp, hp, runSize,
        invokeGroup_of_lookup hname, pure_bind, runVerb_of_read h, recover_settle_recover]

theorem run_of_calls (h : Calls around.environment s.storage.disk args p c) :
    ∃ watch, run around args s =
      (runCommand around (configNamed around.environment p) c).recover (settle watch)
        { s with setups := s.setups ++ [.of (p.has verboseOption)] } := by
  obtain ⟨name, rest, topic, hp, hname, hcalls⟩ := h.request
  obtain ⟨watch, htopic⟩ :=
    runTopic_of_calls around (configNamed around.environment p) hcalls
  refine ⟨watch, ?_⟩
  have hsetup : setUpReports (p.has verboseOption) s =
      (.ok (), { s with setups := s.setups ++ [.of (p.has verboseOption)] }) := rfl
  rw [run_of_parses h.toParses, hp, runRoot, invokeGroup_of_lookup hname,
    Action.recover_bind_of_ok hsetup, htopic]

/-- The shell of an invocation that has chosen a command. -/
def chosen (around : Surroundings ρ) (input : String) (disk : Disk) (p : Parsed) : Shell ρ :=
  ⟨.withInput input, [.of (p.has verboseOption)], ⟨disk, []⟩, Startup.emptyTrace,
    around.supply.world⟩

theorem invoke_of_calls_eq (input : String) (h : Calls around.environment disk args p c) :
    ∃ watch, invoke around input disk args =
      .ofRun ((runCommand around (configNamed around.environment p) c).recover (settle watch)
        (chosen around input disk p)) := by
  let shell : Shell ρ :=
    ⟨.withInput input, [], ⟨disk, []⟩, Startup.emptyTrace, around.supply.world⟩
  obtain ⟨watch, hrun⟩ := run_of_calls (s := shell) h
  exact ⟨watch, congrArg Outcome.ofRun hrun⟩

end Shell

section
variable {ρ : Type}

/-- Where a manager over checked calls to a resource group comes from: it is given, or the
configuration that is named can be loaded. -/
inductive Supply.Serves (azure : Azure ρ) (environment : List (String × String))
    (path : Option String) (disk : Disk) : Supply ρ → ResourceGroup → Prop
  | given (system : System ρ) (group : ResourceGroup) :
      Serves azure environment path disk (.given system (.checked azure group)) group
  | loaded {c : FleetConfig} (provider : CloudProvider) (world : World ρ)
      (h : (Storage.loadFrom path environment ⟨disk, []⟩).1 = .ok c) :
      Serves azure environment path disk (.configured provider (.checked azure) world)
        c.resourceGroup

/-- The managers that commands can find: the one that is given, or one that is opened for the
configuration that is named. Loading and opening add to the reports and leave the rest of the world
as it is. -/
inductive Supply.Provides (environment : List (String × String)) (path : Option String)
    (disk : Disk) : Supply ρ → System ρ → Prop
  | given (system : System ρ) (client : Client ρ) :
      Provides environment path disk (.given system client) system
  | opened {c : FleetConfig} {provider : CloudProvider} {connect : ResourceGroup → Client ρ}
      {world : World ρ} {t : StartupTrace} {o : Opening} (log : List Event)
      (loaded : (Storage.loadFrom path environment ⟨disk, []⟩).1 = .ok c)
      (made : (Startup.openManager disk.host.limits provider c t).1 = .ok o) :
      Provides environment path disk (.configured provider connect world)
        (o.system { world with log })

/-- How the outside refuses to open a manager. A credential that is refused is told in plain words,
and so is a client if the fault is of a kind that says so. -/
inductive Supply.Refuses : Supply ρ → Stop → Prop
  | credential {provider : CloudProvider} {connect : ResourceGroup → Client ρ} {world : World ρ}
      (e : CredentialError) : Refuses (.configured provider connect world) (.refused e.message)
  | client {provider : CloudProvider} {connect : ResourceGroup → Client ρ} {world : World ρ}
      {args : ComputeArguments} {f : Fault} (h : provider.client args = some f) :
      Refuses (.configured provider connect world) (Shell.settleStartup (.client f))

theorem Supply.Refuses.exitCode_eq_one {supply : Supply ρ} {stop : Stop}
    (h : supply.Refuses stop) : stop.exitCode = 1 := by
  cases h with
  | credential e => rfl
  | client h =>
      rw [Shell.settleStartup]
      split_ifs <;> rfl

theorem Outcome.eq_escaped_of_ofStop {stop : Stop} {s : Shell ρ} {e : Escape}
    (h : (ofStop stop s).escaped = some e) : stop = .escaped e := by
  cases stop with
  | escaped e' => exact congrArg Stop.escaped (Option.some.inj h)
  | _ => cases h

/-- Telling arguments at fault does not change how an invocation ends. -/
theorem Outcome.exitCode_settle (watch : CommandSpec) (stop : Stop) (s : Shell ρ) :
    (ofRun (Shell.settle watch stop s)).exitCode = stop.exitCode := by
  cases stop <;> rfl

theorem Outcome.eq_escaped_of_settle {watch : CommandSpec} {stop : Stop} {s : Shell ρ} {e : Escape}
    (h : (ofRun (Shell.settle watch stop s)).escaped = some e) : stop = .escaped e := by
  cases stop with
  | misused m => cases h
  | _ => exact eq_escaped_of_ofStop h

namespace Shell
variable {azure : Azure ρ} {group : ResourceGroup} {around : Surroundings ρ} {args : List String}
  {p : Parsed} {c : Command}

theorem refuses_of_outside {provider : CloudProvider} {connect : ResourceGroup → Client ρ}
    {world : World ρ} {f : StartupFault} (h : Startup.Outside provider f) :
    (Supply.configured provider connect world).Refuses (settleStartup f) := by
  cases h with
  | credential e => exact .credential e
  | client h => exact .client h

/-- A manager is opened for a loaded configuration and works on its group, or the outside
refuses. -/
theorem openManager_of_openable {provider : CloudProvider} (connect : ResourceGroup → Client ρ)
    {config : FleetConfig} (world : World ρ) (s : Shell ρ)
    (hc : config.Openable s.storage.disk.host.limits) :
    (∃ t o log s', (Startup.openManager s.storage.disk.host.limits provider config t).1 = .ok o ∧
        openManager provider connect config s =
          (.ok (o.system { s.world with log }, connect config.resourceGroup), s')) ∨
      ∃ stop s', openManager provider connect config s = (.error stop, s') ∧
        (Supply.configured provider connect world).Refuses stop := by
  obtain ⟨hgroup, houtside⟩ := Startup.openManager_of_openable provider hc
    { s.trace with log := [] }
  rw [openManager]
  dsimp only
  rcases hrun : Startup.openManager s.storage.disk.host.limits provider config
    { s.trace with log := [] } with ⟨f | o, t⟩
  · rw [hrun] at houtside
    exact .inr ⟨_, _, rfl, refuses_of_outside (houtside f rfl)⟩
  · rw [hrun] at hgroup
    rw [← hgroup o rfl]
    exact .inl ⟨_, o, _, _, congrArg Prod.fst hrun, rfl⟩

theorem loadConfig_of_loadFrom {environment : List (String × String)} {path : Option String}
    {config : FleetConfig} {s : Shell ρ}
    (h : (Storage.loadFrom path environment ⟨s.storage.disk, []⟩).1 = .ok config) :
    ∃ log s', loadConfig environment path s = (.ok config, s') ∧
      s'.world = { s.world with log } ∧ s'.storage.disk.host = s.storage.disk.host := by
  have hrun : Storage.loadFrom path environment { s.storage with log := [] } =
      (.ok config, (Storage.loadFrom path environment ⟨s.storage.disk, []⟩).2) := Prod.ext h rfl
  rw [loadConfig, hrun]
  exact ⟨_, _, rfl, rfl, Storage.host_loadFrom path environment _⟩

/-- There is a manager over the checked calls, or the outside refuses. -/
theorem manager_of_serves {path : Option String} {s : Shell ρ}
    (hworld : s.world = around.supply.world)
    (h : around.supply.Serves azure around.environment path s.storage.disk group) :
    (∃ system s', manager around path s = (.ok (system, .checked azure group), s') ∧
        around.supply.Provides around.environment path s.storage.disk system) ∨
      ∃ stop s', manager around path s = (.error stop, s') ∧ around.supply.Refuses stop := by
  rw [manager]
  generalize hsupply : around.supply = supply at h hworld
  cases h with
  | given system group => exact .inl ⟨system, s, rfl, .given system _⟩
  | loaded provider world hload =>
      obtain ⟨log, s', hs', hlog, hhost⟩ := loadConfig_of_loadFrom hload
      dsimp only
      rw [Action.bind_of_ok hs']
      have hopenable := Storage.openable_of_loadFrom hload
      change FleetConfig.Openable s.storage.disk.host.limits _ at hopenable
      rw [← hhost] at hopenable
      rcases openManager_of_openable (.checked azure) world s' hopenable with
        ⟨t, o, log', s'', hmade, hopen⟩ | hrefuses
      · have hsame : { s'.world with log := log' } = { world with log := log' } := by
          rw [hlog, hworld]
          rfl
        rw [hsame] at hopen
        rw [hhost] at hmade
        exact .inl ⟨_, s'', hopen, .opened log' hload hmade⟩
      · exact .inr hrefuses

end Shell

/-- How an invocation that calls a command comes to its end. Exit code 0 means that the command
found a manager, that its arguments can be used, and that nothing that it asks of the manager
fails. -/
inductive Outcome.Follows (azure : Azure ρ) (group : ResourceGroup) (around : Surroundings ρ)
    (path : Option String) (disk : Disk) (c : Command) : Outcome ρ → Prop
  | done {system : System ρ} (s : Shell ρ)
      (provided : around.supply.Provides around.environment path disk system)
      (read : c.Understood system) (h : ∀ f, ¬ c.Meets (.checked azure group) system f) :
      Follows azure group around path disk c ⟨0, none, s⟩
  /-- The command stops for a reason that it tells, or that a group tells for it, or it goes
  astray. -/
  | stopped {system : System ρ} {stop : Stop} (watch : CommandSpec) (s : Shell ρ)
      (provided : around.supply.Provides around.environment path disk system)
      (h : c.Fails azure group system stop) :
      Follows azure group around path disk c (.ofRun (Shell.settle watch stop s))
  /-- The command is not reached. -/
  | refused {stop : Stop} (s : Shell ρ) (h : around.supply.Refuses stop) :
      Follows azure group around path disk c (.ofStop stop s)

namespace Outcome.Follows
variable {azure : Azure ρ} {group : ResourceGroup} {around : Surroundings ρ}
  {path : Option String} {disk : Disk} {c : Command} {o : Outcome ρ}

theorem exists_blank_or_unusable (h : o.Follows azure group around path disk c)
    (hcode : o.exitCode = 2) : (∃ raw ∈ c.instanceIds, blank raw = true) ∨
      ∃ raw f, c = .owner raw ∧ azure.Unusable group f := by
  cases h with
  | done => cases hcode
  | stopped watch s provided hfails =>
      rw [exitCode_settle] at hcode
      exact hfails.imp (·.exists_blank hcode) (·.exists_unusable hcode)
  | refused s hrefuses =>
      exact absurd (hrefuses.exitCode_eq_one.symm.trans hcode) (by decide)

theorem refuses_or_strays {e : Escape} (h : o.Follows azure group around path disk c)
    (he : o.escaped = some e) : around.supply.Refuses (.escaped e) ∨
      ∃ system, around.supply.Provides around.environment path disk system ∧
        c.Strays azure group system (.escaped e) := by
  cases h with
  | done => cases he
  | stopped watch s provided hfails =>
      obtain rfl := eq_escaped_of_settle he
      exact .inr ⟨_, provided, hfails.resolve_left fun hstops => hstops.ne_escaped e rfl⟩
  | refused s hrefuses =>
      obtain rfl := eq_escaped_of_ofStop he
      exact .inl hrefuses

end Outcome.Follows

open Shell

theorem follows_invoke {azure : Azure ρ} (hazure : azure.Documented) {around : Surroundings ρ}
    (input : String) {disk : Disk} {args : List String} {p : Parsed} {c : Command}
    {group : ResourceGroup} (hcalls : Calls around.environment disk args p c)
    (hc : ∀ duration, c ≠ .watch duration)
    (hsupply : around.supply.Serves azure around.environment (configNamed around.environment p)
      disk group) :
    (invoke around input disk args).Follows azure group around
      (configNamed around.environment p) disk c := by
  obtain ⟨watch, hinvoke⟩ := invoke_of_calls_eq input hcalls
  rw [hinvoke]
  rcases manager_of_serves (s := chosen around input disk p) rfl hsupply with
    ⟨system, s, hmanager, hprovides⟩ | ⟨stop, s, hmanager, hrefuses⟩
  · rw [runCommand, Action.recover_bind_of_ok hmanager]
    have hend : c.Ends azure group system
        (c.run (.checked azure group) around.interruptAt ⟨s.terminal, system⟩).1 :=
      c.ends_run hazure hc around.interruptAt ⟨s.terminal, system⟩
    rcases hrun : c.run (.checked azure group) around.interruptAt ⟨s.terminal, system⟩ with
      ⟨stop | _, d⟩
    · rw [hrun] at hend
      have hdesk : atDesk system (c.run (.checked azure group) around.interruptAt) s =
          (.error stop, { s with terminal := d.terminal, world := d.system.world }) := by
        rw [atDesk, hrun]
      rw [Action.recover_of_error hdesk]
      cases hend with
      | stopped hfails => exact .stopped watch _ hprovides hfails
    · rw [hrun] at hend
      have hdesk : atDesk system (c.run (.checked azure group) around.interruptAt) s =
          (.ok (), { s with terminal := d.terminal, world := d.system.world }) := by
        rw [atDesk, hrun]
      rw [Action.recover_of_ok hdesk]
      cases hend with
      | done hread hmeets => exact .done _ hprovides hread hmeets
  · rw [runCommand, Action.recover_of_error (Action.bind_of_error hmanager),
      settle_of_exitCode (by rw [hrefuses.exitCode_eq_one]; decide)]
    exact .refused s hrefuses

/-- Whatever the remote side does, as long as its calls fail as documented: an invocation that calls
one of the commands that do not watch comes to its command with a manager from its surroundings, or
the outside refuses to open one. Exit code 0 means that the arguments can be used and that nothing
that the command asks of the manager fails. Otherwise the command stops for a reason that it tells,
or it goes astray in one of the ways of `Strays`. Exit code 2 means a blank instance id among the
arguments, unless a lookup got an answer that cannot be used. What escapes is the outside's refusal
to make a client, or a command that goes astray: the blank name of a fleet, an answer that cannot be
used, a size that is too long to be reported, or a text that is taken for tags. -/
theorem invoke_of_calls {azure : Azure ρ} (hazure : azure.Documented) (around : Surroundings ρ)
    (input : String) {disk : Disk} {args : List String} {p : Parsed} {c : Command}
    {group : ResourceGroup} (hcalls : Calls around.environment disk args p c)
    (hc : ∀ duration, c ≠ .watch duration)
    (hsupply : around.supply.Serves azure around.environment (configNamed around.environment p)
      disk group) :
    let o := invoke around input disk args
    let path := configNamed around.environment p
    o.Follows azure group around path disk c ∧
    (o.exitCode = 2 → (∃ raw ∈ c.instanceIds, blank raw = true) ∨
      ∃ raw f, c = .owner raw ∧ azure.Unusable group f) ∧
    ∀ e, o.escaped = some e → around.supply.Refuses (.escaped e) ∨
      ∃ system, around.supply.Provides around.environment path disk system ∧
        c.Strays azure group system (.escaped e) := by
  intro o path
  have hfollows := follows_invoke hazure input hcalls hc hsupply
  refine ⟨hfollows, hfollows.exists_blank_or_unusable, fun e he => ?_⟩
  exact hfollows.refuses_or_strays he

end

section BlankListing

open Shell

/-- A remote side that refuses all updates, and on which each set has one instance, whose resource
id is blank. -/
def blankListing : Azure Unit where
  get _ name := pure ⟨some name, some (.int 1), none⟩
  list _ _ := pure [⟨some "0", some " "⟩]
  reach _ _ := pure ()
  beginUpdate _ _ _ := .fail (.raised (.azure .request) "Updates are closed")
  finishUpdate _ _ := pure ()
  beginDelete _ _ _ := pure ()
  finishDelete _ _ := pure ()

theorem documented_blankListing : blankListing.Documented where
  get _ _ := Action.failsWith_pure _
  list _ _ := Action.failsWith_pure _
  reach _ _ := Action.failsWith_pure _
  beginUpdate _ _ _ := Action.failsWith_fail ⟨.request, "Updates are closed", rfl⟩
  finishUpdate _ _ := Action.failsWith_pure _
  beginDelete _ _ _ := Action.failsWith_pure _
  finishDelete _ _ := Action.failsWith_pure _

/-- A manager of one fleet. -/
def spareOnly : System Unit :=
  (System.start (.fresh (.int 60)) (.start () .zero)).register Manager.spare

/-- The manager on this remote side. -/
def atBlankListing : Surroundings Unit where
  environment := []
  supply := .given spareOnly (.checked blankListing (.text "rg"))
  interruptAt := 0

/-- An update that is refused is told in a message. -/
theorem invoke_of_calls_refusedUpdate :
    let args := ["size", "set", "pool", "3"]
    let c := Command.sizeSet "pool" 3
    let o := invoke atBlankListing "" .empty args
    blankListing.Documented ∧ Calls [] .empty args ⟨[], args⟩ c ∧
      atBlankListing.supply.Serves blankListing [] none .empty (.text "rg") ∧
      o.exitCode = 1 ∧ o.escaped = none ∧
      o.shell.terminal.stderr = "Error: Failed to set size of pool: Updates are closed\n" ∧
      o.Follows blankListing (.text "rg") atBlankListing none .empty c := by
  intro args c o
  have hcalls : Calls [] .empty args ⟨[], args⟩ c :=
    ⟨⟨rfl, rfl, rfl, rfl⟩, _, _, .size, rfl, rfl, .size rfl rfl rfl rfl rfl rfl⟩
  have hserves : atBlankListing.supply.Serves blankListing [] none .empty (.text "rg") :=
    .given _ _
  have hcode : o.exitCode = 1 := by decide +kernel
  have hescaped : o.escaped = none := by decide +kernel
  have hstderr : o.shell.terminal.stderr =
      "Error: Failed to set size of pool: Updates are closed\n" := by decide +kernel
  refine ⟨documented_blankListing, hcalls, hserves, hcode, hescaped, hstderr, ?_⟩
  obtain ⟨hfollows, -⟩ :=
    invoke_of_calls documented_blankListing atBlankListing "" hcalls nofun hserves
  exact hfollows

/-- A blank fleet is not refused like a blank instance id, but passed on. An instance with a blank
resource id is passed on when a fleet is listed, and taken for a bad argument when an instance is
looked up. -/
theorem commands_go_astray :
    let ends (args : List String) : Nat × Option Escape :=
      let o := invoke atBlankListing "" .empty args
      (o.exitCode, o.escaped)
    blankListing.Documented ∧
      Calls [] .empty ["size", "get", " "] ⟨[], ["size", "get", " "]⟩ (.sizeGet " ") ∧
      ends ["size", "get", " "] = (1, some (.spec .blankName)) ∧
      ends ["owner", " "] = (2, none) ∧ ends ["owner", "/vm/s"] = (2, none) ∧
      ends ["members", "spare"] = (1, some (.fault .blankInstance)) := by
  refine ⟨documented_blankListing, ?_, ?_⟩
  · exact ⟨⟨rfl, rfl, rfl, rfl⟩, _, _, .size, rfl, rfl, .size rfl rfl rfl rfl rfl rfl⟩
  · decide +kernel

end BlankListing

end FleetWarden.CommandLine
