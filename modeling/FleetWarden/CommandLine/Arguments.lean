import FleetWarden.CommandLine.Spec
import FleetWarden.Text.Quoted
import FleetWarden.Text.Similarity

/-!
# Reading arguments

Arguments are options, values of options, and positional arguments. Options may stand anywhere
before `--`, except that a group of commands reads no options after its first positional argument,
which is the name of a command. Each argument is classified on its own; only an option that waits
for its value takes the next argument too.
-/

namespace FleetWarden.CommandLine

open Text

/-- Why arguments are refused. -/
inductive UsageError where
  | noSuchOption (name : String) (near : List String)
  | noSuchCommand (name : String) (near : List String)
  | needsValue (option : String)
  | takesNoValue (option : String)
  | missingArgument (shown : String)
  | missingCommand
  | extraArguments (arguments : List String)
  /-- A value that is refused, with the place it was given at. -/
  | badValue (place message : String)
  /-- A group that was called with no arguments at all; its help is the message. -/
  | noArguments (help : String)
deriving DecidableEq, Repr

namespace UsageError

/-- A message with suggestions. -/
def suggesting (message : String) (near : List String) : String :=
  match near with
  | [] => message
  | [one] => message ++ " Did you mean " ++ quoted one ++ "?"
  | several =>
    message ++ " (Did you mean one of: " ++
      String.intercalate ", " ((several.mergeSort fun a b => a ≤ b).map quoted) ++ "?)"

/-- What is said about the arguments. -/
def message : UsageError → String
  | noSuchOption name near => suggesting ("No such option " ++ quoted name ++ ".") near
  | noSuchCommand name near => suggesting ("No such command " ++ quoted name ++ ".") near
  | needsValue option => "Option " ++ quoted option ++ " requires an argument."
  | takesNoValue option => "Option " ++ quoted option ++ " does not take a value."
  | missingArgument shown => "Missing argument '" ++ shown ++ "'."
  | missingCommand => "Missing command."
  | extraArguments arguments =>
    "Got unexpected extra argument" ++ (if arguments.length = 1 then "" else "s") ++ " (" ++
      String.intercalate " " arguments ++ ")"
  | badValue place message => "Invalid value for " ++ place ++ ": " ++ message
  | noArguments help => help

/-- Whether the error is raised without the command that it arose in. -/
def isBare : UsageError → Bool
  | needsValue _ => true
  | takesNoValue _ => true
  | _ => false

/-- Whether the error is about the value of an option or an argument, or that there is none. -/
def isParameter : UsageError → Bool
  | missingArgument _ => true
  | badValue _ _ => true
  | _ => false

end UsageError

/-- Arguments as read: the options given, with their values, and the positional arguments. -/
structure Parsed where
  given : List (OptionSpec × Option String)
  positional : List String
deriving DecidableEq, Repr

namespace Parsed

/-- An option in front of what was read after it. -/
def withOption (p : Parsed) (o : OptionSpec) (value : Option String) : Parsed :=
  { p with given := (o, value) :: p.given }

/-- Options without values in front of what was read after them. -/
def withFlags (flags : List OptionSpec) (p : Parsed) : Parsed :=
  flags.foldr (fun o p => p.withOption o none) p

/-- A positional argument in front of what was read after it. -/
def withPositional (p : Parsed) (arg : String) : Parsed :=
  { p with positional := arg :: p.positional }

/-- Whether an option was given. -/
def has (p : Parsed) (o : OptionSpec) : Bool := p.given.any (·.1 = o)

/-- The value of an option, the last one if it was given several times. -/
def value? (p : Parsed) (o : OptionSpec) : Option String :=
  (p.given.filter (·.1 = o)).getLast?.bind (·.2)

end Parsed

/-- Splits an argument at its first equals sign. -/
def splitEquals (arg : String) : String × Option String :=
  let cs := arg.toList
  match cs.dropWhile (· ≠ '=') with
  | [] => (arg, none)
  | _ :: value => (String.ofList (cs.takeWhile (· ≠ '=')), some (String.ofList value))

/-- What a single argument is. -/
inductive ArgumentKind where
  /-- The mark after which all arguments are positional. -/
  | separator
  | positional
  /-- Options without values, and perhaps one that has its value with it. -/
  | complete (flags : List OptionSpec) (last : Option (OptionSpec × String))
  /-- Options without values, and one whose value is the next argument. -/
  | waiting (flags : List OptionSpec) (last : OptionSpec) (name : String)
  | refused (error : UsageError)
deriving DecidableEq, Repr

namespace ArgumentKind

/-- Another option without a value before the others. -/
def after (o : OptionSpec) : ArgumentKind → ArgumentKind
  | complete flags last => complete (o :: flags) last
  | waiting flags last name => waiting (o :: flags) last name
  | kind => kind

/-- An option with its value, if it came with one. -/
def ofOption (o : OptionSpec) (name : String) (value : Option String) : ArgumentKind :=
  if o.takesValue then
    match value with
    | some v => complete [] (some (o, v))
    | none => waiting [] o name
  else
    match value with
    | some _ => refused (.takesNoValue name)
    | none => complete [o] none

/-- The letters after a single dash, each of which is an option; behind one that takes a value the
other letters are that value. -/
def ofLetters (options : List OptionSpec) : List Char → ArgumentKind
  | [] => complete [] none
  | c :: rest =>
    let name := String.ofList ['-', c]
    match options.find? fun o => o.shortNames.contains name with
    | none => refused (.noSuchOption name [])
    | some o =>
      if o.takesValue then
        ofOption o name (if rest.isEmpty then none else some (String.ofList rest))
      else (ofLetters options rest).after o

/-- An argument that begins with a dash. -/
def ofDashed (options : List OptionSpec) (arg : String) : ArgumentKind :=
  let (name, value) := splitEquals arg
  match options.find? fun o => o.longNames.contains name with
  | some o => ofOption o name value
  | none =>
    match arg.toList with
    | '-' :: '-' :: _ =>
      refused (.noSuchOption name (closeTo name (options.flatMap (·.longNames))))
    | _ => ofLetters options (arg.toList.drop 1)

/-- The kind of an argument. A dash alone is a positional argument. -/
def ofArgument (options : List OptionSpec) (arg : String) : ArgumentKind :=
  if arg = "--" then separator
  else
    match arg.toList with
    | '-' :: _ :: _ => ofDashed options arg
    | _ => positional

end ArgumentKind

/-- Reads arguments; with `interspersed`, options may follow positional arguments. -/
def readArguments (options : List OptionSpec) (interspersed : Bool) :
    List String → Except UsageError Parsed
  | [] => .ok ⟨[], []⟩
  | arg :: rest =>
    match ArgumentKind.ofArgument options arg with
    | .separator => .ok ⟨[], rest⟩
    | .refused e => .error e
    | .positional =>
      if interspersed then (readArguments options interspersed rest).map (·.withPositional arg)
      else .ok ⟨[], arg :: rest⟩
    | .complete flags none =>
      (readArguments options interspersed rest).map (·.withFlags flags)
    | .complete flags (some (o, v)) =>
      (readArguments options interspersed rest).map fun p =>
        (p.withOption o (some v)).withFlags flags
    | .waiting flags o name =>
      match rest with
      | [] => .error (.needsValue name)
      | v :: more =>
        (readArguments options interspersed more).map fun p =>
          (p.withOption o (some v)).withFlags flags

/-- Reads the arguments of a command. -/
def CommandSpec.readArguments (c : CommandSpec) (args : List String) : Except UsageError Parsed :=
  CommandLine.readArguments c.allOptions (!c.isGroup) args

/-- The first of the positional arguments, for a description that takes one. -/
def takeOne (a : ArgumentSpec) : List String → Except UsageError (String × List String)
  | [] => .error (.missingArgument a.shown)
  | v :: rest => .ok (v, rest)

/-- All positional arguments, of which there must be one at least. -/
def takeSome (a : ArgumentSpec) (args : List String) : Except UsageError (List String) :=
  if args.isEmpty then .error (.missingArgument a.shown) else .ok args

/-- Refuses arguments that nothing takes. -/
def refuseExtra (extra : List String) : Except UsageError Unit :=
  if extra.isEmpty then .ok () else .error (.extraArguments extra)

end FleetWarden.CommandLine
