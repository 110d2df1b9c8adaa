import FleetWarden.Cloud.InMemory
import FleetWarden.CommandLine.Invocation

/-!
# The program

Reads the arguments, the variables of the environment that settings come from, the configuration
file that is named, and what is piped in; then does one invocation and writes what came of it. The
remote side is one in memory that starts without scale sets.
-/

namespace FleetWarden

open CommandLine

/-- The variables that settings come from. -/
def settingVariables : List String := Shell.configVariable :: environmentKeys.map (·.1)

/-- The configuration file that arguments name. -/
def configFile? (environment : List (String × String)) (args : List String) : Option String :=
  match rootSpec.readArguments args with
  | .ok p => Shell.configNamed environment p
  | .error _ => none

/-- A disk with nothing but the root, seen from there. -/
def bareDisk (home : String) : Disk := ⟨[], [], .ofText home, .standard⟩

/-- The path that a text stands for, with the home directory filled in if that is possible. -/
def expanded (home path : String) : FilePath :=
  match Storage.expandHome (bareDisk home) (.ofText path) with
  | .ok p => p
  | .error _ => .ofText path

/-- A disk with one file at most, seen from the root directory. -/
def diskWith (home : String) (file : Option (FilePath × ByteArray)) : Disk :=
  match file with
  | none => bareDisk home
  | some (path, content) =>
    let place := path.parts
    let above := (List.range place.length).map fun n => place.take n
    let start := above.foldl (fun d p => d.put p (.directory 0o755)) (bareDisk home)
    start.put place (.file content 0o600)

/-- The surroundings of the program: no scale sets, and a command line credential that works. -/
def surroundings (environment : List (String × String)) : Surroundings InMemory where
  environment := environment
  supply := .configured (.standard none) (Client.checked InMemory.azure)
    (World.start (InMemory.ofSets []) .zero)
  interruptAt := 60000

/-- The reports that are to be seen. -/
def visibleReports (s : Shell InMemory) : List Event :=
  let all := s.world.log ++ s.world.loopLog
  if s.setups.any (·.level = .debug) then all else all.filter (·.level ≠ .debug)

/-- The variables that are set. -/
def readVariables : IO (List (String × String)) := do
  let values ← settingVariables.mapM fun name => do pure (name, ← IO.getEnv name)
  pure (values.filterMap fun (name, value) => value.map (name, ·))

/-- The file at a path, if it can be read. -/
def readNamed (path : Option FilePath) : IO (Option (FilePath × ByteArray)) :=
  match path with
  | none => pure none
  | some path =>
    try
      let content ← IO.FS.readBinFile path.text
      pure (some (path, content))
    catch _ => pure none

/-- What is piped in; nothing is read from a keyboard. -/
def readInput : IO String := do
  let stdin ← IO.getStdin
  if ← stdin.isTty then pure ""
  else
    let content ← stdin.readToEnd
    pure content

/-- Does one invocation with the arguments of the process. -/
def runProgram (args : List String) : IO UInt32 := do
  let environment ← readVariables
  let home := (← IO.getEnv "HOME").getD "/"
  let file ← readNamed ((configFile? environment args).map (expanded home))
  let input ← readInput
  let outcome := invoke (surroundings environment) input (diskWith home file) args
  let stderr ← IO.getStderr
  for e in visibleReports outcome.shell do
    stderr.putStrLn e.line
  IO.print outcome.shell.terminal.stdout
  stderr.putStr outcome.shell.terminal.stderr
  pure (UInt32.ofNat outcome.exitCode)

end FleetWarden

def main (args : List String) : IO UInt32 := FleetWarden.runProgram args
