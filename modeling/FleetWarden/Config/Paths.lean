import FleetWarden.Config.Fault
import FleetWarden.Disk.Basic

/-!
# Paths of configuration files

A path is given as a text. A tilde at its front stands for the home directory, and a tilde before a
name for that of an account. What has no bytes on the host, or a null byte among them, cannot be
looked up at all.
-/

namespace FleetWarden.Storage

/-- What is said about a text with a null byte. -/
def nullByte : Breakdown := .badPath "embedded null byte"

/-- Why a text cannot be handed to the host, if it cannot. -/
def textFault? (host : Host) (s : String) : Option Breakdown :=
  if host.encode? s = none then some .unencodable
  else if s.toList.contains '\x00' then some nullByte
  else none

/-- Why a path cannot be a path, if it cannot. -/
def pathFault? (host : Host) (p : FilePath) : Option Breakdown := textFault? host p.text

/-- Whether a text begins with a tilde. -/
def hasTilde (s : String) : Bool := s.toList.head? = some '~'

/-- The home directory that a name after a tilde stands for. No name stands for the own one. -/
def homeOf (d : Disk) (name : String) : Except Breakdown FilePath :=
  if name = "" then .ok d.home
  else
    match textFault? d.host name with
    | some b => .error b
    | none =>
      match d.host.account? name with
      | some home => .ok home
      | none => .error .noHome

/-- The path with the tilde at its front replaced by a home directory. -/
def expandHome (d : Disk) (p : FilePath) : Except Breakdown FilePath :=
  match p.root, p.parts with
  | "", first :: rest =>
    if hasTilde first then do
      let home ← homeOf d (String.ofList first.toList.tail)
      if hasTilde home.text then .error .noHome
      .ok { home with parts := home.parts ++ rest }
    else .ok p
  | _, _ => .ok p

/-- Where a configuration is saved unless a path is given. -/
def defaultPath (home : FilePath) : FilePath :=
  { home with parts := home.parts ++ [".azfleet", "config.toml"] }

/-- The suffix of the file that is written beside the target. -/
def tempSuffix : String := ".tmp"

/-- The path of the file that is written beside the target. -/
def tempOf (target : FilePath) : Except ConfigFault FilePath :=
  match target.withSuffix? tempSuffix with
  | some p => .ok p
  | none => .error (.broke (.badPath ("PosixPath(" ++ target.quoted ++ ") has an empty name")))

end FleetWarden.Storage
