import FleetWarden.Disk.FilePath
import FleetWarden.Fault

/-!
# Errors of the disk

An error has a number, which gives its kind, and a text. Some numbers mean that there is nothing at
a path, which is an answer and no error where that is the question.
-/

namespace FleetWarden

/-- Why an operation on the disk fails. -/
structure DiskError where
  number : Nat
  text : String
deriving DecidableEq, Repr

namespace DiskError

def notPermitted : DiskError := ⟨1, "Operation not permitted"⟩

def missing : DiskError := ⟨2, "No such file or directory"⟩

def noDevice : DiskError := ⟨6, "No such device or address"⟩

def denied : DiskError := ⟨13, "Permission denied"⟩

def busy : DiskError := ⟨16, "Device or resource busy"⟩

def alreadyThere : DiskError := ⟨17, "File exists"⟩

def notDirectory : DiskError := ⟨20, "Not a directory"⟩

def isDirectory : DiskError := ⟨21, "Is a directory"⟩

def nameTooLong : DiskError := ⟨36, "File name too long"⟩

def tooManyLinks : DiskError := ⟨40, "Too many levels of symbolic links"⟩

/-- The kinds of error that have a name of their own. -/
def kinds : List (Nat × String) :=
  [(1, "PermissionError"), (2, "FileNotFoundError"), (3, "ProcessLookupError"),
   (4, "InterruptedError"), (10, "ChildProcessError"), (11, "BlockingIOError"),
   (13, "PermissionError"), (17, "FileExistsError"), (20, "NotADirectoryError"),
   (21, "IsADirectoryError"), (32, "BrokenPipeError"), (103, "ConnectionAbortedError"),
   (104, "ConnectionResetError"), (108, "BrokenPipeError"), (110, "TimeoutError"),
   (111, "ConnectionRefusedError"), (114, "BlockingIOError"), (115, "BlockingIOError")]

def kind (e : DiskError) : ErrorKind := .other ((kinds.lookup e.number).getD "OSError")

/-- Whether the error says that something is not there. -/
def isMissing (e : DiskError) : Bool := e.number = missing.number

/-- Whether the error says that a path leads nowhere. -/
def isAbsence (e : DiskError) : Bool := e.number ∈ [2, 9, 20, 40]

/-- What is said about an error on the given paths. -/
def message (e : DiskError) (paths : List FilePath) : String :=
  "[Errno " ++ Numeral.Whole.text e.number ++ "] " ++ e.text ++
    if paths = [] then "" else ": " ++ String.intercalate " -> " (paths.map (·.quoted))

end DiskError
end FleetWarden
