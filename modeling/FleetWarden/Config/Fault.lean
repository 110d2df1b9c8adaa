import FleetWarden.Fault

/-!
# Faults of the configuration

A configuration is refused for a stated reason, which may itself have a cause. Apart from that,
values of the wrong kind can make an operation break off where no guard foresees them; such faults
are kept apart, since nobody reports them in plain words.
-/

namespace FleetWarden

open Numeral

/-- Why a configuration, or a file that should hold one, is refused. -/
inductive ConfigError where
  | noResourceGroup
  | noSubscription
  | unknownCloud (cloud : String)
  | noTenant
  | noClientId
  | noClientSecret
  | intervalNotPositive (interval : String)
  | badInterval (interval : String) (cause : ErrorKind)
  | badFleet (error : SpecError)
  | fileNotFound (path : String)
  | loadFailed (text : String) (cause : ErrorKind)
  | saveFailed (text : String) (cause : ErrorKind)
deriving DecidableEq

/-- Faults that no guard foresees. -/
inductive Breakdown where
  /-- A value of a kind that the operation is not made for. -/
  | wrongType
  /-- A value that is no text where a text is taken apart. -/
  | notText
  | unknownKey
  /-- A whole number beyond all double-precision numbers. -/
  | outOfRange
  /-- A whole number of too many digits to be written. -/
  | unwritable
  /-- A numeral of too many digits to be read. -/
  | unreadable (digits : Nat)
  | notUnicode
  /-- A text that has no bytes. -/
  | unencodable
  | badPath (text : String)
  | noHome
  | system (kind : ErrorKind) (text : String)
deriving DecidableEq

/-- A refusal with a stated reason, or a breakdown. -/
inductive ConfigFault where
  | refused (error : ConfigError)
  | broke (breakdown : Breakdown)
deriving DecidableEq

namespace ConfigError

/-- The names of the known clouds, as messages list them. -/
def knownClouds : String := "AzurePublicCloud, AzureChinaCloud, AzureUSGovernmentCloud"

def message : ConfigError → String
  | noResourceGroup => "Resource group not found"
  | noSubscription => "Subscription ID not found"
  | unknownCloud cloud => "Unknown cloud: " ++ cloud ++ ". Expected one of: " ++ knownClouds
  | noTenant => "Tenant ID not found"
  | noClientId => "ARM Client ID not found"
  | noClientSecret => "ARM Client Secret not found"
  | intervalNotPositive interval => "Refresh interval must be positive, got " ++ interval
  | badInterval interval _ => "Invalid refresh interval: " ++ interval
  | badFleet e => "Invalid fleet entry: " ++ e.message
  | fileNotFound path => "Config file not found: " ++ path
  | loadFailed text _ => "Failed to load config: " ++ text
  | saveFailed text _ => "Failed to save config: " ++ text

/-- The kind of the fault that a refusal follows from. -/
def cause? : ConfigError → Option ErrorKind
  | badInterval _ cause => some cause
  | badFleet _ => some .value
  | loadFailed _ cause => some cause
  | saveFailed _ cause => some cause
  | _ => none

end ConfigError

namespace Breakdown

/-- What comes of a value that is too deep to be taken apart. -/
def tooDeep (text : String) : Breakdown := .system (.other "RecursionError") text

def kind : Breakdown → ErrorKind
  | wrongType => .other "TypeError"
  | notText => .other "AttributeError"
  | unknownKey => .other "KeyError"
  | outOfRange => .other "OverflowError"
  | unwritable => .value
  | unreadable _ => .value
  | notUnicode => .other "UnicodeDecodeError"
  | unencodable => .other "UnicodeEncodeError"
  | badPath _ => .value
  | noHome => .other "RuntimeError"
  | system kind _ => kind

def message : Breakdown → String
  | wrongType => "unsupported type"
  | notText => "not a text"
  | unknownKey => "unknown key"
  | outOfRange => "int too large to convert to float"
  | unwritable => unwritableText
  | unreadable digits => WholeError.lengthMessage digits
  | notUnicode => "invalid text encoding"
  | unencodable => "text without an encoding"
  | badPath text => text
  | noHome => "Could not determine home directory."
  | system _ text => text

end Breakdown

namespace ConfigFault

def kind : ConfigFault → ErrorKind
  | refused _ => .config
  | broke b => b.kind

def message : ConfigFault → String
  | refused e => e.message
  | broke b => b.message

def cause? : ConfigFault → Option ErrorKind
  | refused e => e.cause?
  | broke _ => none

end ConfigFault
end FleetWarden
