import FleetWarden.CommandLine.Shell

/-!
# Groups of commands

A group reads its options, finds the command that the next argument names, does what it has to do
before any command, and leaves the rest of the arguments to the command. Groups stand inside each
other, and each of them watches over all that is done below it: arguments at fault are told with a
help, and the invocation ends there. What has been told passes the groups further out unchanged.

There are two places for this. While a command is looked for, errors are told with the help of the
group itself, except for those about parameters, which are passed on. All others are told with the
help of the command that they were raised with, or of the group if they were raised with none.
-/

namespace FleetWarden.CommandLine.Shell

open Text

variable {ρ α β : Type}

/-- Tells arguments at fault with the help of a command, and ends the invocation. -/
def tell (e : UsageError) (command : CommandSpec) : Act ρ α := do
  writeErrorLine ("Error: " ++ e.message)
  writeErrorLine ""
  writeErrorLine command.help
  .fail .told

/-- What a group makes of a reason to stop that comes from below it. -/
def settle (group : CommandSpec) : Stop → Act ρ α
  | .misused m => tell m.error (m.command?.getD group)
  | stop => .fail stop

/-- What a group makes of a reason to stop while it looks for a command. -/
def settleSearch (group : CommandSpec) : Stop → Act ρ α
  | .misused m => if m.error.isParameter then .fail (.misused m) else tell m.error group
  | stop => .fail stop

/-- Reads the options of a group and goes on with what was read. -/
def readOptions (group : CommandSpec) (check : Parsed → Act ρ α) (args : List String) : Act ρ α :=
  if args.isEmpty then .fail (.misused ⟨.noArguments group.help, some group⟩)
  else
    match group.readArguments args with
    | .error e => .fail (.misused (.ofOptions group e))
    | .ok p => if p.has helpOption then writeHelp group else check p

/-- Whether a name could be an option: it does not begin like a word. -/
def looksLikeOption (name : String) : Bool := name.toList.head?.any fun c => !isLetterOrDigit c

/-- The error for a name that a group does not have. -/
def unknownCommand (table : List (String × β)) (name : String) : UsageError :=
  .noSuchCommand name (closeTo name (table.map (·.1)))

/-- Finds the command of a name. A name that the group does not have is read as options once more if
it looks like one, since it may be a misplaced option. -/
def find (group : CommandSpec) (table : List (String × β)) (check : Parsed → Act ρ Unit)
    (name : String) (rest : List String) : Act ρ β :=
  match table.lookup name with
  | some chosen => pure chosen
  | none => do
    if looksLikeOption name then readOptions group check (name :: rest) else pure ()
    .fail (.misused ⟨unknownCommand table name, some group⟩)

/-- What a group does with the arguments behind its options: `before` is done before any command,
and `body` is what a command does with the arguments that are left for it. -/
def invokeGroup (group : CommandSpec) (table : List (String × β)) (check : Parsed → Act ρ Unit)
    (before : Act ρ Unit) (body : β → List String → Act ρ Unit) (args : List String) :
    Act ρ Unit :=
  let watched : Act ρ Unit :=
    match args with
    | [] => .fail (.misused ⟨.missingCommand, some group⟩)
    | name :: rest => do
      let chosen ← (find group table check name rest).recover (settleSearch group)
      before
      body chosen rest
  watched.recover (settle group)

end FleetWarden.CommandLine.Shell
