import FleetWarden.Fleet.InstanceRef
import FleetWarden.Fleet.Spec
import FleetWarden.Value.Text

/-!
# Faults

A fault is the reason why an operation on fleets gave no answer. Faults come from the remote side,
which may raise whatever it likes, from answers that cannot be used, and from the guards of the
manager. Every fault has a kind with a published name, and a message.
-/

namespace FleetWarden

open Text Numeral

/-- The kinds of failure that the remote side documents. -/
inductive AzureKind where
  | general
  | response
  | notFound
  | authentication
  | request
deriving DecidableEq, Repr

/-- The kinds of fault; kinds without a name of their own here are kept by their published name. -/
inductive ErrorKind where
  | azure (kind : AzureKind)
  | client
  | manager
  | consistency
  | unmanaged
  | crossFleet
  | staleId
  | refresh
  | config
  | credential
  | value
  | other (name : String)
deriving DecidableEq, Repr

namespace ErrorKind

/-- The published name of a kind. -/
def name : ErrorKind → String
  | azure .general => "AzureError"
  | azure .response => "HttpResponseError"
  | azure .notFound => "ResourceNotFoundError"
  | azure .authentication => "ClientAuthenticationError"
  | azure .request => "ServiceRequestError"
  | client => "FleetClientError"
  | manager => "FleetManagerError"
  | consistency => "FleetConsistencyError"
  | unmanaged => "UnmanagedInstanceError"
  | crossFleet => "CrossFleetDeletionError"
  | staleId => "StaleInstanceIdError"
  | refresh => "BackgroundRefreshError"
  | config => "ConfigError"
  | credential => "CredentialFactoryError"
  | value => "ValueError"
  | other name => name

/-- The kinds that have a name of their own here. -/
def named : List ErrorKind :=
  [azure .general, azure .response, azure .notFound, azure .authentication, azure .request,
   client, manager, consistency, unmanaged, crossFleet, staleId, refresh, config, credential,
   value]

/-- The kind with a published name. -/
def ofName (s : String) : ErrorKind := (named.find? (·.name = s)).getD (other s)

/-- Whether a user is told about the kind in plain words, whatever operation it came from. -/
def isReported : ErrorKind → Bool
  | azure _ => true
  | client => true
  | manager => true
  | consistency => true
  | unmanaged => true
  | crossFleet => true
  | staleId => true
  | config => true
  | credential => true
  | _ => false

end ErrorKind

/-- Why a value is no whole number. -/
inductive WholeError where
  | badText (s : String)
  | longText (digits : Nat)
  | notANumber
  | infinity
  | wrongType (typeName : String)
deriving DecidableEq

namespace WholeError

/-- What is said about a numeral of too many digits. -/
def lengthMessage (digits : Nat) : String :=
  "Exceeds the limit (" ++ Whole.text Whole.digitLimit ++
    " digits) for integer string conversion: value has " ++ Whole.text digits ++
    " digits; use sys.set_int_max_str_digits() to increase the limit"

/-- At most 200 characters of the quoted text are shown. -/
def message : WholeError → String
  | badText s =>
    "invalid literal for int() with base 10: " ++ String.ofList ((quoted s).toList.take 200)
  | longText digits => lengthMessage digits
  | notANumber => "cannot convert float NaN to integer"
  | infinity => "cannot convert float infinity to integer"
  | wrongType typeName =>
    "int() argument must be a string, a bytes-like object or a real number, not '" ++
      typeName ++ "'"

def kind : WholeError → ErrorKind
  | badText _ => .value
  | longText _ => .value
  | notANumber => .value
  | infinity => .other "OverflowError"
  | wrongType _ => .other "TypeError"

end WholeError

namespace Value

/-- The whole number that a value stands for: texts are read, fractions cut off. -/
def whole : Value → Except WholeError Int
  | bool b => .ok (if b then 1 else 0)
  | int n => .ok n
  | float .nan => .error .notANumber
  | float (.infinite _) => .error .infinity
  | float (.finite s code) => .ok (Binary64.truncate s code)
  | text s =>
    match Whole.read s with
    | .ok n => .ok n
    | .error .malformed => .error (.badText s)
    | .error (.tooLong n) => .error (.longText n)
  | null => .error (.wrongType "NoneType")
  | date _ => .error (.wrongType "datetime.date")
  | time _ => .error (.wrongType "datetime.time")
  | moment _ => .error (.wrongType "datetime.datetime")
  | list _ => .error (.wrongType "list")
  | table _ => .error (.wrongType "dict")

end Value

/-- What is said about a whole number of too many digits to be written. -/
def unwritableText : String :=
  "Exceeds the limit (" ++ Whole.text Whole.digitLimit ++
    " digits) for integer string conversion; " ++
    "use sys.set_int_max_str_digits() to increase the limit"

/-- Why an operation gave no answer. -/
inductive Fault where
  /-- Raised by the remote side. -/
  | raised (kind : ErrorKind) (text : String)
  /-- A scale set that does not say how many instances it has. -/
  | noCapacity (fleet : String)
  /-- A scale set whose capacity is no whole number. -/
  | badCapacity (error : WholeError)
  /-- A size that is to be reported and has too many digits to be written. -/
  | unwritable
  /-- An instance listed without an instance id or a resource id. -/
  | instanceWithoutId (fleet : String)
  /-- A blank text where a reference to an instance is needed. -/
  | blankInstance
  /-- A deletion whose first target belongs to no fleet. -/
  | unmanaged (target : InstanceRef)
  /-- A deletion with a target that belongs to another fleet than the first one, or to none. -/
  | crossFleet (target : InstanceRef) (expected : String) (actual : Option String)
  /-- A deletion with a target whose instance id is not known. -/
  | staleId (target : InstanceRef)
deriving DecidableEq

namespace Fault

def kind : Fault → ErrorKind
  | raised kind _ => kind
  | noCapacity _ => .client
  | badCapacity e => e.kind
  | unwritable => .value
  | instanceWithoutId _ => .client
  | blankInstance => .value
  | unmanaged _ => .unmanaged
  | crossFleet _ _ _ => .crossFleet
  | staleId _ => .staleId

/-- The name of the fleet that was found instead; no name and an empty one read the same. -/
def foundName : Option String → String
  | some name => if name = "" then "none" else name
  | none => "none"

def message : Fault → String
  | raised kind text => if kind = .other "KeyError" then quoted text else text
  | noCapacity fleet => "Scale set " ++ fleet ++ " has no SKU capacity"
  | badCapacity e => e.message
  | unwritable => unwritableText
  | instanceWithoutId fleet => "Scale set " ++ fleet ++ " returned a VM without an id"
  | blankInstance => "Instance id must not be empty"
  | unmanaged target => "Instance " ++ target.key ++ " does not belong to any registered scale set"
  | crossFleet target expected actual =>
    "Cannot delete instance (" ++ target.key ++
      ") which doesn't belong to the same scale set (expected " ++ expected ++ ", found " ++
      foundName actual ++ ")"
  | staleId target => "No scale set instance id cached for " ++ target.key

end Fault
end FleetWarden
