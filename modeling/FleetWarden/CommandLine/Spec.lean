/-!
# Commands and their help

A command is described by its arguments, options and subcommands. The description is what
arguments are read against and what help is written from.
-/

namespace FleetWarden.CommandLine

/-- An option, with or without a value. -/
structure OptionSpec where
  /-- The spellings in the order in which help shows them. -/
  names : List String
  /-- What stands for the value, if the option takes one. -/
  metavar : Option String
  help : String
deriving DecidableEq, Repr

/-- A positional argument. -/
structure ArgumentSpec where
  name : String
  /-- Whether the argument takes all that is left. -/
  repeated : Bool
deriving DecidableEq, Repr

/-- A command without its subcommands. -/
structure CommandSpec where
  /-- The words that the command is called with, the program first. -/
  path : List String
  summary : String
  /-- Lines of examples below the summary. -/
  examples : List String
  arguments : List ArgumentSpec
  options : List OptionSpec
  /-- The names and summaries of subcommands in alphabetical order. -/
  subcommands : List (String × String)
deriving DecidableEq, Repr

namespace OptionSpec

/-- Whether an option takes a value. -/
def takesValue (o : OptionSpec) : Bool := o.metavar.isSome

/-- The spellings and the value as help shows them. -/
def shown (o : OptionSpec) : String :=
  String.intercalate ", " o.names ++ (o.metavar.map (" " ++ ·)).getD ""

/-- The spellings with more than one letter. -/
def longNames (o : OptionSpec) : List String := o.names.filter (2 < ·.length)

/-- The spellings of one letter after a dash. -/
def shortNames (o : OptionSpec) : List String := o.names.filter (·.length = 2)

end OptionSpec

/-- The option that every command has. -/
def helpOption : OptionSpec := ⟨["--help"], none, "Show this message and exit."⟩

namespace ArgumentSpec

/-- The argument as usage lines and messages show it. -/
def shown (a : ArgumentSpec) : String := a.name ++ (if a.repeated then "..." else "")

end ArgumentSpec

namespace CommandSpec

/-- Whether a command has subcommands. -/
def isGroup (c : CommandSpec) : Bool := !c.subcommands.isEmpty

/-- The options of a command with the one for help, which comes last. -/
def allOptions (c : CommandSpec) : List OptionSpec := c.options ++ [helpOption]

/-- The usage line. -/
def usage (c : CommandSpec) : String :=
  "Usage: " ++ String.intercalate " "
    (c.path ++ ["[OPTIONS]"] ++
      (if c.isGroup then ["COMMAND", "[ARGS]..."] else c.arguments.map (·.shown)))

end CommandSpec

namespace Help

/-- The columns that help fills at most. -/
def columns : Nat := 78

/-- Words set on lines of a width. -/
def fill (size : Nat) (line : String) : List String → List String
  | [] => [line]
  | word :: rest =>
    if line = "" then fill size word rest
    else if line.length + 1 + word.length ≤ size then fill size (line ++ " " ++ word) rest
    else line :: fill size word rest

/-- The words of a text between spaces. -/
def words (s : String) : List String :=
  ((s.toList.splitBy fun a b => (a = ' ') == (b = ' ')).map String.ofList).filter
    fun w => !w.toList.all (· = ' ')

def blanks (n : Nat) : String := String.ofList (List.replicate n ' ')

/-- A term and what is said about it, on lines of their own from a common column on. -/
def definition (column : Nat) (term text : String) : List String :=
  match fill (columns - column - 2) "" (words text) with
  | [] => ["  " ++ term]
  | first :: rest =>
    ("  " ++ term ++ blanks (column - term.length) ++ first) ::
      rest.map (blanks (column + 2) ++ ·)

/-- A list of terms under a heading; an empty list has no heading. -/
def definitions (heading : String) (pairs : List (String × String)) : List String :=
  if pairs.isEmpty then []
  else
    let column := (pairs.map (·.1.length)).foldl max 0 + 2
    "" :: heading :: pairs.flatMap fun (term, text) => definition column term text

end Help

namespace CommandSpec

/-- The help of a command. -/
def help (c : CommandSpec) : String :=
  String.intercalate "\n"
    ([c.usage, "", "  " ++ c.summary] ++
      (if c.examples.isEmpty then [] else "" :: c.examples.map ("  " ++ ·)) ++
      Help.definitions "Options:" (c.allOptions.map fun o => (o.shown, o.help)) ++
      Help.definitions "Commands:" c.subcommands)

end CommandSpec

/-! ## The commands of the program -/

def programName : String := "azfleet"

def fleetArgument : ArgumentSpec := ⟨"FLEET", false⟩

def targetArgument : ArgumentSpec := ⟨"TARGET", false⟩

def instanceArgument : ArgumentSpec := ⟨"INSTANCE_ID", false⟩

def instancesArgument : ArgumentSpec := ⟨"INSTANCE_IDS", true⟩

def sizeGetSpec : CommandSpec where
  path := [programName, "size", "get"]
  summary := "Print the capacity of FLEET."
  examples := []
  arguments := [fleetArgument]
  options := []
  subcommands := []

def sizeSetSpec : CommandSpec where
  path := [programName, "size", "set"]
  summary := "Set the capacity of FLEET to TARGET and wait for Azure."
  examples := []
  arguments := [fleetArgument, targetArgument]
  options := []
  subcommands := []

def sizeSpec : CommandSpec where
  path := [programName, "size"]
  summary := "Read or change scale set capacity."
  examples := []
  arguments := []
  options := []
  subcommands := [("get", sizeGetSpec.summary), ("set", sizeSetSpec.summary)]

def ownerSpec : CommandSpec where
  path := [programName, "owner"]
  summary := "Print the registered scale set owning INSTANCE_ID."
  examples := []
  arguments := [instanceArgument]
  options := []
  subcommands := []

def membersSpec : CommandSpec where
  path := [programName, "members"]
  summary := "List the VMs of FLEET as reported by Azure."
  examples := []
  arguments := [fleetArgument]
  options := []
  subcommands := []

def yesOption : OptionSpec := ⟨["-y", "--yes"], none, "Skip confirmation"⟩

def deleteSpec : CommandSpec where
  path := [programName, "delete"]
  summary := "Delete VMs that all belong to one registered scale set."
  examples := []
  arguments := [instancesArgument]
  options := [yesOption]
  subcommands := []

def cacheSpec : CommandSpec where
  path := [programName, "cache"]
  summary := "Rebuild the membership cache once and print it."
  examples := []
  arguments := []
  options := []
  subcommands := []

def durationOption : OptionSpec :=
  ⟨["--duration"], some "FLOAT RANGE",
   "Stop after this many seconds (default: until Ctrl-C)  [x>=0]"⟩

def watchSpec : CommandSpec where
  path := [programName, "watch"]
  summary := "Keep the membership cache fresh with scheduled rebuilds."
  examples := []
  arguments := []
  options := [durationOption]
  subcommands := []

def configOption : OptionSpec :=
  ⟨["--config"], some "FILE", "TOML config file (default: ARM_* environment variables)"⟩

def verboseOption : OptionSpec := ⟨["-v", "--verbose"], none, "Enable debug logging"⟩

def rootSpec : CommandSpec where
  path := [programName]
  summary := "Azure scale set fleet manager."
  examples :=
    ["EXAMPLES:",
     "    $ azfleet size get pool-a",
     "    $ azfleet size set pool-a 5",
     "    $ azfleet owner /subscriptions/.../virtualMachines/3",
     "    $ azfleet delete ID1 ID2 --yes"]
  arguments := []
  options := [configOption, verboseOption]
  subcommands :=
    [("cache", cacheSpec.summary), ("delete", deleteSpec.summary),
     ("members", membersSpec.summary), ("owner", ownerSpec.summary),
     ("size", sizeSpec.summary), ("watch", watchSpec.summary)]

end FleetWarden.CommandLine
