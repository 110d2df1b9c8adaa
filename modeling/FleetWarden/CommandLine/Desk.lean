import FleetWarden.CommandLine.Request
import FleetWarden.CommandLine.Terminal
import FleetWarden.Startup

/-!
# The desk

A command works at a desk: on a terminal, with a manager. It ends when it is done, or stops for a
stated reason. A reason that concerns the user is told in one message when the program ends, unless
it was told before; a fault that no command foresees is passed on as it is.
-/

namespace FleetWarden.CommandLine

/-- Faults that no command foresees. -/
inductive Escape where
  | fault (f : Fault)
  | spec (e : SpecError)
  | startup (f : StartupFault)
  | start (e : StartError)
  /-- Tags in a text for the terminal that cannot be shown. -/
  | markup (e : Console.MarkupError)
  /-- A path that cannot be a path. -/
  | path (b : Breakdown)
deriving DecidableEq

/-- Why a command line stops before it is done. -/
inductive Stop where
  | helpShown
  /-- The arguments are at fault, and that was told. -/
  | told
  /-- The user did not want to go on. -/
  | aborted
  | refused (message : String)
  | misused (m : Misuse)
  | escaped (e : Escape)

namespace Stop

/-- The exit code: 2 for arguments at fault, 1 for all other failures. -/
def exitCode : Stop → Nat
  | helpShown => 0
  | told => 2
  | aborted => 1
  | refused _ => 1
  | misused _ => 2
  | escaped _ => 1

/-- A line that says what is wrong. -/
def errorLine (message : String) : String := "Error: " ++ message ++ "\n"

/-- The reminder of how a command is called. -/
def reminder (command : CommandSpec) : String :=
  command.usage ++ "\nTry '" ++ String.intercalate " " command.path ++
    " --help' for help.\n\n"

/-- What is said about arguments at fault that no group has told. -/
def misuseComplaint (m : Misuse) : String :=
  match m.error with
  | .noArguments help => help ++ "\n"
  | e => (m.command?.map reminder).getD "" ++ errorLine e.message

/-- What is written to the error channel when the program ends. -/
def complaint : Stop → String
  | helpShown => ""
  | told => ""
  | aborted => "Aborted!\n"
  | refused message => errorLine message
  | misused m => misuseComplaint m
  | escaped _ => ""

/-- The stop for a fault: kinds that are reported are told in words, behind what was tried. -/
def ofFault (tried : String) (f : Fault) : Stop :=
  if f.kind.isReported then refused (tried ++ ": " ++ f.message) else escaped (.fault f)

end Stop

/-- What a command works on. -/
structure Desk (ρ : Type) where
  terminal : Terminal
  system : System ρ

namespace Desk
variable {ρ : Type}

/-- Something that is done at a desk. -/
abbrev Act (ρ α : Type) := Action (Desk ρ) Stop α

/-- Changes the terminal. -/
def changeTerminal (f : Terminal → Terminal) : Act ρ Unit :=
  Action.change fun d => { d with terminal := f d.terminal }

/-- Changes the manager and its world. -/
def changeSystem (f : System ρ → System ρ) : Act ρ Unit :=
  Action.change fun d => { d with system := f d.system }

/-- Writes one line as it is. -/
def writeLine (s : String) : Act ρ Unit := changeTerminal (·.writeLine s)

/-- Writes lines one after the other. -/
def writeLines (ss : List String) : Act ρ Unit :=
  changeTerminal fun t => ss.foldl (fun t s => t.writeLine s) t

/-- Writes a text with markup. -/
def writeMarkup (s : String) : Act ρ Unit := fun d =>
  match d.terminal.writeMarkup s with
  | .ok terminal => (.ok (), { d with terminal })
  | .error e => (.error (.escaped (.markup e)), d)

/-- An operation of the manager, with what a fault of it comes to. -/
def operate {α : Type} (settle : Fault → Stop) (x : Operation ρ α) : Act ρ α := fun d =>
  match x d.system with
  | (.ok a, system) => (.ok a, { d with system })
  | (.error f, system) => (.error (settle f), { d with system })

/-- Asks whether to go on, and stops unless the answer is yes. -/
def confirm (question : String) : Act ρ Unit := fun d =>
  let (answer, terminal) := d.terminal.confirm question
  (if answer = some true then .ok () else .error .aborted, { d with terminal })

end Desk
end FleetWarden.CommandLine
