import FleetWarden.CommandLine.Desk
import FleetWarden.Config.Storage

/-!
# The shell

What an invocation of the program works on: the terminal, the setups of reports, the files, what is
asked for while a manager is opened, and the world outside.
-/

namespace FleetWarden.CommandLine

/-- How reports are set up. -/
structure ReportSetup where
  level : Level
  format : String
deriving DecidableEq, Repr

/-- The setup for reports, with debug reports if asked for. -/
def ReportSetup.of (verbose : Bool) : ReportSetup where
  level := if verbose then .debug else .info
  format := "%(asctime)s - %(name)s - %(levelname)s - %(message)s"

/-- What an invocation works on. -/
structure Shell (ρ : Type) where
  terminal : Terminal
  setups : List ReportSetup
  storage : Storage
  trace : StartupTrace
  world : World ρ

namespace Shell
variable {ρ α : Type}

/-- Something that an invocation does. -/
abbrev Act (ρ α : Type) := Action (Shell ρ) Stop α

/-- Writes one line to the error channel. -/
def writeErrorLine (text : String) : Act ρ Unit :=
  Action.change fun s => { s with terminal := s.terminal.writeError (text ++ "\n") }

/-- Writes the help of a command, which is all that is done then. -/
def writeHelp (command : CommandSpec) : Act ρ α := do
  Action.change fun s => { s with terminal := s.terminal.writeLine command.help }
  .fail .helpShown

/-- Sets reports up once more. -/
def setUpReports (verbose : Bool) : Act ρ Unit :=
  Action.change fun s => { s with setups := s.setups ++ [.of verbose] }

/-- Does something at a desk with a manager. -/
def atDesk (system : System ρ) (x : Desk.Act ρ Unit) : Act ρ Unit := fun s =>
  let (outcome, desk) := x ⟨s.terminal, system⟩
  (outcome, { s with terminal := desk.terminal, world := desk.system.world })

end Shell
end FleetWarden.CommandLine
