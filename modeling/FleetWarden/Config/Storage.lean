import FleetWarden.Action
import FleetWarden.Config.Paths
import FleetWarden.Config.Sources
import FleetWarden.Event
import FleetWarden.Toml.Document
import FleetWarden.Toml.Written

/-!
# Configuration files

Loading a file first takes away what rights others have on it, and then reads, checks and reports
the configuration. Saving writes a file beside the target and moves it into its place, so that the
target is either the old file or the new one. The client secret is not saved.
-/

namespace FleetWarden

open Text Numeral

/-- What loading and saving work on. -/
structure Storage where
  disk : Disk
  log : List Event

namespace Storage

/-- Something done with files that may be refused. -/
abbrev Act (α : Type) := Action Storage ConfigFault α

def report (e : Event) : Act Unit := Action.change fun s => { s with log := s.log ++ [e] }

/-- A result as an act. -/
def given {α : Type} (x : Except ConfigFault α) : Act α := Action.ofExcept x

/-- A disk error that nobody foresees. -/
def unforeseen (e : DiskError) (path : FilePath) : Breakdown := .system e.kind (e.message [path])

/-- The limits of the host. -/
def limits : Act Limits := Action.look fun st => st.disk.host.limits

/-- The path that a text stands for, with the home directory filled in. -/
def pathOf (s : String) : Act FilePath := fun st =>
  ((expandHome st.disk (.ofText s)).mapError .broke, st)

/-- The rights of the group and of others. -/
def othersMask : Nat := 0o077

/-- The mode of a configuration file. -/
def ownerOnly : Nat := 0o600

/-- A mode in octal form. -/
def octal (n : Nat) : String := "0o" ++ String.ofList (Nat.toDigits 8 n)

/-- Refuses a path that leads nowhere. -/
def requireThere (p : FilePath) : Act Unit := fun st =>
  match pathFault? st.disk.host p with
  | some _ => (.error (.refused (.fileNotFound p.text)), st)
  | none =>
    match st.disk.isThere p with
    | .error e => (.error (.broke (unforeseen e p)), st)
    | .ok true => (.ok (), st)
    | .ok false => (.error (.refused (.fileNotFound p.text)), st)

/-- A disk operation of loading, and the paths that its errors name. -/
def loading {α : Type} (paths : List FilePath) (f : Disk → Except DiskError α) : Act α := fun st =>
  match f st.disk with
  | .ok a => (.ok a, st)
  | .error e => (.error (.refused (.loadFailed (e.message paths) e.kind)), st)

/-- Takes away the rights of others. -/
def tighten (p : FilePath) : Act Unit := do
  let node ← loading [p] (·.stat p)
  let mode := node.mode % 0o1000
  if mode &&& othersMask ≠ 0 then
    report (.insecureMode (octal mode))
    let disk ← loading [p] (·.changeMode p ownerOnly)
    Action.change fun st => { st with disk }

/-- The content of a configuration file, after the rights of others on it are taken away. -/
def readFile (p : FilePath) : Act ByteArray := do
  requireThere p
  tighten p
  let place ← loading [p] (·.openToRead p)
  loading [] (·.fetch place)

/-- The text of the fault that is reported for a malformed document. -/
def malformedText : String := "<toml error>"

/-- The table in a file. -/
def parse (limits : Limits) (content : ByteArray) : Except ConfigFault Toml.Table :=
  match String.fromUTF8? content with
  | none => .error (.broke .notUnicode)
  | some s =>
    match Toml.read limits s with
    | .ok table => .ok table
    | .error .malformed =>
      .error (.refused (.loadFailed malformedText (.other "TOMLDecodeError")))
    | .error (.tooLong n) => .error (.broke (.unreadable n))
    | .error .tooDeep => .error (.broke (.tooDeep (Toml.tooDeepText limits)))
    | .error .tooManyParts => .error (.broke (.tooDeep (Toml.tooManyPartsText limits)))

/-- Loads and checks a configuration. -/
def load (s : String) : Act FleetConfig := do
  let limits ← limits
  let p ← pathOf s
  let content ← readFile p
  let table ← given (parse limits content)
  let c ← given (FleetConfig.ofPairs limits fileKeys (FleetConfig.documentPairs table))
  given c.check
  let subscription ← given (c.subscriptionId.tellWithin limits .reporting)
  report (.configRead subscription)
  let masked ← given c.maskedEntries
  let shown ← given ((Value.table masked).tellWithin limits .reporting)
  report (.configLoaded p.text shown)
  pure c

/-- The checked configuration of an environment. -/
def loadEnvironment (environment : List (String × String)) : Act FleetConfig := do
  let limits ← limits
  let c ← given (FleetConfig.ofEnvironment limits environment)
  let subscription ← given (c.subscriptionId.tellWithin limits .reporting)
  report (.configRead subscription)
  pure c

/-- The configuration in a file if one is named, else that of the environment. -/
def loadFrom (path : Option String) (environment : List (String × String)) : Act FleetConfig :=
  match path with
  | some s => if s = "" then loadEnvironment environment else load s
  | none => loadEnvironment environment

/-- A fault while a configuration is saved. -/
inductive SaveFault where
  | disk (e : DiskError) (paths : List FilePath)
  | other (f : ConfigFault)

/-- A step of saving. -/
abbrev SaveAct (α : Type) := Action Storage SaveFault α

/-- A change of the disk, with the paths that its errors name. -/
def changing (paths : List FilePath) (f : Disk → Except DiskError Disk) : SaveAct Unit := fun st =>
  match f st.disk with
  | .ok disk => (.ok (), { st with disk })
  | .error e => (.error (.disk e paths), st)

/-- Opens a file for writing. -/
def opening (p : FilePath) : SaveAct Place := fun st =>
  match st.disk.openToWrite p with
  | .ok (place, disk) => (.ok place, { st with disk })
  | .error e => (.error (.disk e [p]), st)

/-- Writes to a file that is open. -/
def filling (place : Place) (content : ByteArray) : SaveAct Unit := fun st =>
  match st.disk.fill place content with
  | (none, disk) => (.ok (), { st with disk })
  | (some e, disk) => (.error (.disk e []), { st with disk })

/-- Makes a directory unless it is there. -/
def ensureDirectory (p : FilePath) : SaveAct Unit := fun st =>
  match st.disk.makeDirectory p with
  | .ok disk => (.ok (), { st with disk })
  | .error e =>
    if e.isMissing then (.error (.disk e [p]), st)
    else
      match st.disk.isDirectory p with
      | .ok true => (.ok (), st)
      | .ok false => (.error (.disk e [p]), st)
      | .error e' => (.error (.disk e' [p]), st)

/-- Makes a directory and those above it, up to so many. -/
def ensureDirectories : Nat → FilePath → SaveAct Unit
  | 0, p => ensureDirectory p
  | n + 1, p => fun st =>
    match st.disk.makeDirectory p with
    | .error e =>
      if e.isMissing then (do
        ensureDirectories n p.parent
        ensureDirectory p) st
      else ensureDirectory p st
    | .ok _ => ensureDirectory p st

/-- Refuses a path that cannot be one. -/
def requirePath (p : FilePath) : SaveAct Unit := fun st =>
  match pathFault? st.disk.host p with
  | some b => (.error (.other (.broke b)), st)
  | none => (.ok (), st)

/-- What comes of a value that cannot be written. -/
def unwritten : Toml.Obstacle → Breakdown
  | .nothing => .system (.other "ConvertError")
      "Unable to convert an object of <class 'NoneType'> to a TOML item"
  | .tooManyDigits => .unwritable

/-- What keeps a value from becoming a part of a document, if something does. -/
def conversionFault? (limits : Limits) (v : Value) : Option Breakdown :=
  match limits.overflow? .converting v with
  | some said => some (.tooDeep said)
  | none => (Toml.obstacle? v).map unwritten

/-- What keeps a table from becoming a document, if something does: the first fault of an entry. -/
def documentFault? (limits : Limits) (entries : Toml.Table) : Option Breakdown :=
  entries.findSome? fun p => conversionFault? limits p.2

/-- The document of a configuration, as a table and as a text. -/
def documentOf (limits : Limits) (c : FleetConfig) : Except ConfigFault (Toml.Table × String) := do
  let entries ← c.entries
  match documentFault? limits entries, Toml.document? entries with
  | none, some cs => .ok (entries, String.ofList cs)
  | found, _ => .error (.broke (found.getD (unwritten .nothing)))

/-- The bytes of a document. -/
def spell (host : Host) (document : Toml.Table × String) : Except Breakdown ByteArray :=
  match host.limits.overflow? .writing (.table document.1), host.encode? document.2 with
  | some said, _ => .error (.tooDeep said)
  | none, some content => .ok content
  | none, none => .error .unencodable

/-- A result as a step of saving. -/
def supplied {α : Type} (f : Host → Except ConfigFault α) : SaveAct α := fun st =>
  ((f st.disk.host).mapError .other, st)

/-- Writes a configuration beside its target and moves it there. The file is open before the bytes
of the document are known. -/
def writeVia (temp target : FilePath) (c : FleetConfig) : SaveAct Unit := do
  requirePath target.parent
  ensureDirectories target.parent.parts.length target.parent
  let document ← supplied fun host => documentOf host.limits c
  requirePath temp
  let place ← opening temp
  let content ← supplied fun host => (spell host document).mapError .broke
  filling place content
  changing [temp] (·.changeMode temp ownerOnly)
  requirePath target
  changing [temp, target] (·.moveFile temp target)

/-- Removes what was written beside the target, if it is there. -/
def cleanUp (temp : FilePath) : Act Unit := fun st =>
  match pathFault? st.disk.host temp, st.disk.isThere temp with
  | some _, _ => (.ok (), st)
  | none, .error e => (.error (.broke (unforeseen e temp)), st)
  | none, .ok false => (.ok (), st)
  | none, .ok true =>
    match st.disk.removeFile temp with
    | .ok disk => (.ok (), { st with disk })
    | .error e => (.error (.broke (unforeseen e temp)), st)

/-- Turns a fault of saving into one of the configuration, after cleaning up. -/
def settle (temp : FilePath) (x : SaveAct Unit) : Act Unit := fun st =>
  match x st with
  | (.ok _, st') => (.ok (), st')
  | (.error (.other f), st') => (.error f, st')
  | (.error (.disk e paths), st') =>
    (do
      cleanUp temp
      .fail (.refused (.saveFailed (e.message paths) e.kind)) : Act Unit) st'

/-- The path to save to. -/
def targetOf : Option String → Act FilePath
  | some s => if s = "" then Action.look fun st => defaultPath st.disk.home else pathOf s
  | none => Action.look fun st => defaultPath st.disk.home

/-- Saves a configuration and answers with the path that was written. -/
def save (c : FleetConfig) (path : Option String) : Act FilePath := do
  let target ← targetOf path
  let temp ← given (tempOf target)
  settle temp (writeVia temp target c)
  report (.configSaved target.text)
  pure target

end Storage
end FleetWarden
