import FleetWarden.Disk.Host

/-!
# Files and directories

A disk maps places, which are lists of names from the root, to what lies there. Paths are looked up
from the working directory, one name after the other; each name before the last must be a directory
or a link that leads to one. Operations fail with a stated reason and change nothing when they fail,
except that writing may be cut short.

## Implementation notes

The operations that change what a directory holds work on the place that the last name stands for,
and leave a link there alone; all others follow it. A file that is open is known by its place, so a
place has one file at a time.
-/

namespace FleetWarden

/-- What lies at a place. -/
inductive DiskNode where
  | directory (mode : Nat)
  | file (content : ByteArray) (mode : Nat)
  | link (target : FilePath)
  /-- A device, a pipe or a socket. What is written to it is gone, and what is read from it is the
  same each time, unless it cannot be opened at all. -/
  | special (content : Option ByteArray) (mode : Nat)

namespace DiskNode

def mode : DiskNode → Nat
  | directory mode => mode
  | file _ mode => mode
  | link _ => 0o777
  | special _ mode => mode

def isDirectory : DiskNode → Bool
  | directory _ => true
  | _ => false

/-- What can be read of the node. -/
def content? : DiskNode → Option ByteArray
  | file content _ => some content
  | special content _ => content
  | _ => none

/-- Why the node cannot be opened, if it cannot. -/
def openFault? : DiskNode → Option DiskError
  | directory _ => some .isDirectory
  | link _ => some .tooManyLinks
  | special none _ => some .noDevice
  | _ => none

/-- The node with another mode; links have none of their own. -/
def withMode (mode : Nat) : DiskNode → DiskNode
  | directory _ => directory mode
  | file content _ => file content mode
  | link target => link target
  | special content _ => special content mode

/-- The node with another content, if it is a file. -/
def withContent (content : ByteArray) : DiskNode → DiskNode
  | file _ mode => file content mode
  | node => node

end DiskNode

/-- What lies at each place, the working directory, the home directory, and the host. -/
structure Disk where
  nodes : List (Place × DiskNode)
  /-- The directory that relative paths start from. -/
  current : Place
  home : FilePath
  host : Host

namespace Disk

/-- The most bytes of a name, and of a path. -/
def nameLimit : Nat := 255

def pathLimit : Nat := 4095

/-- The most links that are followed on the way along a path. -/
def linkLimit : Nat := 40

/-- What lies at a place; the root is always there. -/
def node? (d : Disk) (place : Place) : Option DiskNode :=
  if place = [] then some ((d.nodes.lookup []).getD (.directory 0o755)) else d.nodes.lookup place

/-- Puts a node at a place, whatever was there. -/
def put (d : Disk) (place : Place) (node : DiskNode) : Disk :=
  { d with nodes := (place, node) :: d.nodes.filter (·.1 ≠ place) }

/-- Removes what lies at a place. -/
def erase (d : Disk) (place : Place) : Disk :=
  { d with nodes := d.nodes.filter (·.1 ≠ place) }

/-- The place that a path starts from when it is seen from a place. -/
def startOf (p : FilePath) (seen : Place) : Place := if p.root = "" then seen else []

/-- The place that a name stands for in a directory. -/
def step (d : Disk) (place : Place) (name : String) : Except DiskError Place :=
  match d.node? place with
  | none => .error .missing
  | some (.directory _) => do
    d.host.allow .enter place
    if name = ".." then .ok place.dropLast
    else if nameLimit < d.host.size name then .error .nameTooLong
    else .ok (place ++ [name])
  | some _ => .error .notDirectory

/-- Follows names from a place; a link at the end is followed if `through` says so. `jump` goes on
from where a link leads. -/
def walk (d : Disk) (through : Bool) (jump : Place → List String → Except DiskError Place) :
    Place → List String → Except DiskError Place
  | place, [] => .ok place
  | place, name :: rest => do
    let next ← d.step place name
    match d.node? next with
    | some (.link target) =>
      if rest.isEmpty && !through then .ok next
      else do
        d.host.allow .enter next
        jump (startOf target place) (target.parts ++ rest)
    | _ => d.walk through jump next rest

/-- Follows names and so many links. -/
def follow (d : Disk) (through : Bool) : Nat → Place → List String → Except DiskError Place
  | 0 => d.walk through fun _ _ => .error .tooManyLinks
  | links + 1 => d.walk through (d.follow through links)

/-- The place that a path leads to; nothing need be there. -/
def lead (d : Disk) (through : Bool) (p : FilePath) : Except DiskError Place :=
  if pathLimit < d.host.size p.text then .error .nameTooLong
  else d.follow through linkLimit (startOf p d.current) p.parts

/-- The place that a path leads to, through a link at its end too. -/
def resolve (d : Disk) (p : FilePath) : Except DiskError Place := d.lead true p

/-- The place that the last name of a path stands for. -/
def locate (d : Disk) (p : FilePath) : Except DiskError Place := d.lead false p

/-- What lies at a place that is looked for. -/
def found (d : Disk) (place : Place) : Except DiskError DiskNode :=
  match d.node? place with
  | some node => .ok node
  | none => .error .missing

/-- What a path leads to. -/
def stat (d : Disk) (p : FilePath) : Except DiskError DiskNode := do
  let place ← d.resolve p
  let node ← d.found place
  d.host.allow .look place
  .ok node

/-- The answer to a question about what a path leads to, which is no if it leads nowhere. -/
def ask (d : Disk) (p : FilePath) (question : DiskNode → Bool) : Except DiskError Bool :=
  match d.stat p with
  | .ok node => .ok (question node)
  | .error e => if e.isAbsence then .ok false else .error e

/-- Whether a path leads somewhere. -/
def isThere (d : Disk) (p : FilePath) : Except DiskError Bool := d.ask p fun _ => true

/-- Whether a path leads to a directory. -/
def isDirectory (d : Disk) (p : FilePath) : Except DiskError Bool := d.ask p (·.isDirectory)

/-- Whether what a path leads to may be read. -/
def isReadable (d : Disk) (p : FilePath) : Bool :=
  (do
    let place ← d.resolve p
    let _ ← d.found place
    d.host.allow .testRead place).isOk

/-- Changes the mode of what a path leads to. -/
def changeMode (d : Disk) (p : FilePath) (mode : Nat) : Except DiskError Disk := do
  let place ← d.resolve p
  let node ← d.found place
  d.host.allow .changeMode place
  .ok (d.put place (node.withMode mode))

/-- The place of a file that was opened for reading. -/
def openToRead (d : Disk) (p : FilePath) : Except DiskError Place := do
  let place ← d.resolve p
  let node ← d.found place
  d.host.allow .read place
  match node.openFault? with
  | none => .ok place
  | some e => .error e

/-- The content of a file that is open. -/
def fetch (d : Disk) (place : Place) : Except DiskError ByteArray := do
  d.host.allow .fetch place
  match (d.node? place).bind (·.content?) with
  | some content => .ok content
  | none => .error .missing

/-- Makes a directory. -/
def makeDirectory (d : Disk) (p : FilePath) : Except DiskError Disk := do
  let place ← d.locate p
  match d.node? place with
  | some _ => .error .alreadyThere
  | none => do
    d.host.allow .makeDirectory place
    .ok (d.put place (.directory d.host.directoryMode))

/-- The place of a file that was opened for writing. It is empty, whether it is new or old; an old
one keeps its mode. -/
def openToWrite (d : Disk) (p : FilePath) : Except DiskError (Place × Disk) := do
  let place ← d.resolve p
  match d.node? place with
  | none => do
    d.host.allow .create place
    .ok (place, d.put place (.file .empty d.host.fileMode))
  | some node => do
    if node.isDirectory then .error .isDirectory
    d.host.allow .write place
    match node.openFault? with
    | none => .ok (place, d.put place (node.withContent .empty))
    | some e => .error e

/-- Gives a file its content. -/
def setContent (d : Disk) (place : Place) (content : ByteArray) : Disk :=
  match d.node? place with
  | some node => d.put place (node.withContent content)
  | none => d

/-- Writes to a file that is open, with the error that cuts the writing short, if one does. -/
def fill (d : Disk) (place : Place) (content : ByteArray) : Option DiskError × Disk :=
  match d.host.cutsShort? place content with
  | none => (none, d.setContent place content)
  | some (e, n) => (some e, d.setContent place (content.extract 0 n))

/-- Removes what the last name of a path stands for. -/
def removeFile (d : Disk) (p : FilePath) : Except DiskError Disk := do
  let place ← d.locate p
  let node ← d.found place
  d.host.allow .remove place
  if node.isDirectory then .error .isDirectory else .ok (d.erase place)

/-- Moves what the last name of a path stands for to another path, whatever file was there. -/
def moveFile (d : Disk) (source target : FilePath) : Except DiskError Disk := do
  let old ← d.locate source
  let new ← d.locate target
  if target.name? = some ".." then .error .busy
  let node ← d.found old
  if old = new then .ok d
  else do
    d.host.allow (.move new) old
    match d.node? new with
    | some (.directory _) => .error .isDirectory
    | _ => .ok ((d.erase old).put new node)

end Disk
end FleetWarden
