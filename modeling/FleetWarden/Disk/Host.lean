import FleetWarden.Disk.Error
import FleetWarden.Limits

/-!
# Hosts

What a program cannot know of the machine that it runs on: who has an account, how texts become
bytes, and which accesses are refused, be it for want of permission, for want of space, or for some
other reason. A host is fixed for a run, and an access to a place is refused each time or never.
-/

namespace FleetWarden

/-- A list of names from the root. -/
abbrev Place := List String

/-- A kind of access to a place. -/
inductive Access where
  /-- To look names up in a directory, or to follow a link. -/
  | enter
  | look
  /-- To ask whether a file may be read. -/
  | testRead
  | read
  /-- To get the content of a file that is open. -/
  | fetch
  /-- To open a file that is there for writing. -/
  | write
  | create
  | changeMode
  | remove
  | makeDirectory
  | move (target : Place)
deriving DecidableEq, Repr

/-- A machine. -/
structure Host where
  /-- The home directories of accounts. -/
  account? : String → Option FilePath
  /-- The bytes of a text, if the host has some for each of its characters. -/
  encode? : String → Option ByteArray
  refuses? : Access → Place → Option DiskError
  /-- The error that cuts writing short, and the number of bytes that were written before it. -/
  cutsShort? : Place → ByteArray → Option (DiskError × Nat)
  /-- The modes of new files and directories. -/
  fileMode : Nat
  directoryMode : Nat
  limits : Limits

namespace Host

/-- A host that refuses nothing. -/
def standard : Host where
  account? _ := none
  encode? s := some s.toUTF8
  refuses? _ _ := none
  cutsShort? _ _ := none
  fileMode := 0o644
  directoryMode := 0o755
  limits := .standard

instance : Inhabited Host := ⟨standard⟩

/-- The number of bytes of a text. -/
def size (host : Host) (s : String) : Nat := ((host.encode? s).map ByteArray.size).getD 0

/-- An access that is not refused. -/
def allow (host : Host) (access : Access) (place : Place) : Except DiskError Unit :=
  match host.refuses? access place with
  | none => .ok ()
  | some e => .error e

end Host
end FleetWarden
