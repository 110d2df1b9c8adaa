import FleetWarden.CommandLine.Group
import FleetWarden.CommandLine.Watch

/-!
# Invocations

An invocation is one call of the program with its arguments. The options of the program are read
first; then a command is found, reports are set up, and the arguments of the command are read.
Only then is a manager opened, unless one is given, and the command run. The program is a group of
commands, with a group for sizes inside; errors in its own options come before it watches over
anything. `invoke` answers with the exit code, what was written, and what is left of the world
outside.
-/

namespace FleetWarden.CommandLine

/-- Where the manager of an invocation comes from: it is given, or opened for the configuration that
the options and the environment name. -/
inductive Supply (ρ : Type) where
  | given (system : System ρ) (client : Client ρ)
  | configured (provider : CloudProvider) (connect : ResourceGroup → Client ρ) (world : World ρ)

/-- What an invocation finds around it. -/
structure Surroundings (ρ : Type) where
  environment : List (String × String)
  supply : Supply ρ
  /-- The milliseconds after which the user interrupts a watch. -/
  interruptAt : Nat

namespace Shell
variable {ρ : Type}

/-- The variable that names a configuration file. -/
def configVariable : String := "AZFLEET_CONFIG"

/-- The configuration file that is named: by the option, or else by the environment. -/
def configNamed (environment : List (String × String)) (p : Parsed) : Option String :=
  match p.value? configOption with
  | some path => some path
  | none => (environment.lookup configVariable).filter (· ≠ "")

/-- What is said about a directory in the place of a configuration file. -/
def directoryError (path : String) : UsageError :=
  .badValue "'--config'" ("File " ++ Text.quoted path ++ " is a directory.")

/-- What is said about a configuration file that may not be read. -/
def unreadableError (path : String) : UsageError :=
  .badValue "'--config'" ("File " ++ Text.quoted path ++ " is not readable.")

/-- Why a path is refused as that of a configuration file, if it is. A path that leads nowhere is
not refused here. -/
def pathFault? (disk : Disk) (path : String) : Option Stop :=
  match Storage.textFault? disk.host path with
  | some b => some (.escaped (.path b))
  | none =>
    if path = "" then none
    else
      match disk.stat (.ofText path) with
      | .error _ => none
      | .ok node =>
        if node.isDirectory then some (.misused ⟨directoryError path, some rootSpec⟩)
        else if disk.isReadable (.ofText path) then none
        else some (.misused ⟨unreadableError path, some rootSpec⟩)

/-- The configuration file that is named, unless it is refused. -/
def configPath (environment : List (String × String)) (p : Parsed) : Act ρ (Option String) :=
  let named := configNamed environment p
  fun s => (
    match named.bind (pathFault? s.storage.disk) with
    | some stop => .error stop
    | none => .ok named, s)

/-- A fault of the configuration or of a manager's opening: what is refused is told in words. -/
def settleStartup (f : StartupFault) : Stop :=
  if f.kind = .config ∨ f.kind = .credential then .refused f.message else .escaped (.startup f)

/-- Loads the configuration that is named, or that of the environment. -/
def loadConfig (environment : List (String × String)) (path : Option String) :
    Act ρ FleetConfig := fun s =>
  let (outcome, storage) := Storage.loadFrom path environment { s.storage with log := [] }
  let world := { s.world with log := s.world.log ++ storage.log }
  (outcome.mapError fun f => settleStartup (.config f), { s with storage, world })

/-- Opens a manager for a configuration. -/
def openManager (provider : CloudProvider) (connect : ResourceGroup → Client ρ)
    (c : FleetConfig) : Act ρ (System ρ × Client ρ) := fun s =>
  let limits := s.storage.disk.host.limits
  let (outcome, trace) := Startup.openManager limits provider c { s.trace with log := [] }
  let world := { s.world with log := s.world.log ++ trace.log }
  match outcome with
  | .ok opening =>
    let system := opening.system world
    (.ok (system, connect opening.group), { s with trace, world := system.world })
  | .error f => (.error (settleStartup f), { s with trace, world })

/-- The manager of an invocation and its client. -/
def manager (around : Surroundings ρ) (path : Option String) : Act ρ (System ρ × Client ρ) :=
  match around.supply with
  | .given system client => pure (system, client)
  | .configured provider connect _ => do
    let c ← loadConfig around.environment path
    openManager provider connect c

/-- Runs a command with the manager of the invocation. -/
def runCommand (around : Surroundings ρ) (path : Option String) (c : Command) : Act ρ Unit := do
  let (system, client) ← manager around path
  atDesk system (c.run client around.interruptAt)

/-- What a command does with its arguments. -/
def runVerb (around : Surroundings ρ) (path : Option String) (v : Verb) (args : List String) :
    Act ρ Unit :=
  match v.read args with
  | .error m => .fail (.misused m)
  | .ok (.help command) => writeHelp command
  | .ok (.run c) => runCommand around path c

/-- The group for sizes behind its options. -/
def runSize (around : Surroundings ρ) (path : Option String) (args : List String) : Act ρ Unit :=
  invokeGroup sizeSpec sizeVerbs (fun _ => pure ()) (pure ()) (runVerb around path) args

/-- What a command of the program does with its arguments. -/
def runTopic (around : Surroundings ρ) (path : Option String) : Topic → List String → Act ρ Unit
  | .size, args => readOptions sizeSpec (fun p => runSize around path p.positional) args
  | .verb v, args => runVerb around path v args

/-- The program behind its options. -/
def runRoot (around : Surroundings ρ) (path : Option String) (verbose : Bool)
    (args : List String) : Act ρ Unit :=
  invokeGroup rootSpec topics
    (fun p => do
      let _ ← configPath around.environment p)
    (setUpReports verbose) (runTopic around path) args

/-- Everything that an invocation does. -/
def run (around : Surroundings ρ) (args : List String) : Act ρ Unit :=
  readOptions rootSpec
    (fun p => do
      let path ← configPath around.environment p
      runRoot around path (p.has verboseOption) p.positional)
    args

end Shell

/-- What an invocation comes to. -/
structure Outcome (ρ : Type) where
  exitCode : Nat
  /-- The fault that was passed on, if there is one. -/
  escaped : Option Escape
  shell : Shell ρ

namespace Outcome
variable {ρ : Type}

/-- The outcome when something stops an invocation. -/
def ofStop (stop : Stop) (s : Shell ρ) : Outcome ρ where
  exitCode := stop.exitCode
  escaped := match stop with
    | .escaped e => some e
    | _ => none
  shell := { s with terminal := s.terminal.writeError stop.complaint }

end Outcome

/-- The world that a manager is supplied with. -/
def Supply.world {ρ : Type} : Supply ρ → World ρ
  | given system _ => system.world
  | configured _ _ world => world

/-- Calls the program with arguments, given what is typed and what is on the disk. -/
def invoke {ρ : Type} (around : Surroundings ρ) (input : String) (disk : Disk)
    (args : List String) : Outcome ρ :=
  let shell : Shell ρ :=
    ⟨.withInput input, [], ⟨disk, []⟩, Startup.emptyTrace, around.supply.world⟩
  match Shell.run around args shell with
  | (.ok _, s) => ⟨0, none, s⟩
  | (.error stop, s) => .ofStop stop s

end FleetWarden.CommandLine
