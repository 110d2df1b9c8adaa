import FleetWarden.Config.Fault
import FleetWarden.Limits
import FleetWarden.Numeral.Real

/-!
# The configuration

The settings of one resource group. Their values come from files and environments and may be of
any kind; `check` refuses a configuration that lacks a required setting or names an unknown cloud,
and `descriptors` reads the fleets.
-/

namespace FleetWarden

open Text Numeral

/-- The settings, as they were given. -/
structure FleetConfig where
  subscriptionId : Value
  resourceGroup : Value
  tenantId : Value
  clientId : Value
  clientSecret : Value
  cloud : Value
  location : Value
  refreshInterval : Value
  fleets : Value

/-- The endpoints of a cloud. -/
structure CloudEndpoints where
  name : String
  resourceManager : String
  authority : String
deriving DecidableEq

/-- The cloud that is meant unless another is configured. -/
def publicCloud : CloudEndpoints :=
  ⟨"AzurePublicCloud", "https://management.azure.com", "login.microsoftonline.com"⟩

/-- The clouds that can be configured. -/
def clouds : List CloudEndpoints :=
  [publicCloud,
   ⟨"AzureChinaCloud", "https://management.chinacloudapi.cn", "login.chinacloudapi.cn"⟩,
   ⟨"AzureUSGovernmentCloud", "https://management.usgovcloudapi.net", "login.microsoftonline.us"⟩]

namespace Value

/-- The form of a value in running text, unless it holds a number that cannot be written. -/
def tell (v : Value) : Except ConfigFault String :=
  if v.isWritable then .ok v.shown else .error (.broke .unwritable)

/-- The form of a value in running text, unless it is too deep to be shown. -/
def tellWithin (limits : Limits) (passage : Passage) (v : Value) : Except ConfigFault String :=
  match limits.overflow? passage v with
  | some said => .error (.broke (.tooDeep said))
  | none => v.tell

/-- The value as a list: texts fall into their characters and tables into their keys. -/
def elements : Value → Except ConfigFault (List Value)
  | list items => .ok items
  | text s => .ok (s.toList.map fun c => text (String.ofList [c]))
  | table entries => .ok (entries.map fun p => text p.1)
  | _ => .error (.broke .wrongType)

/-- Whether a number is zero or less. -/
def atMostZero : Value → Except ConfigFault Bool
  | bool b => .ok (!b)
  | int n => .ok (n ≤ 0)
  | float x => .ok x.atMostZero
  | _ => .error (.broke .wrongType)

end Value

namespace FleetConfig

/-- What is configured when nothing is. -/
def default : FleetConfig where
  subscriptionId := .text ""
  resourceGroup := .text ""
  tenantId := .text ""
  clientId := .text ""
  clientSecret := .text ""
  cloud := .text publicCloud.name
  location := .text ""
  refreshInterval := .float (Binary64.ofNat 3600)
  fleets := .list []

instance : Inhabited FleetConfig := ⟨default⟩

/-- Whether some part of a service principal is configured. -/
def usesServicePrincipal (c : FleetConfig) : Bool :=
  c.tenantId.isTrue || c.clientId.isTrue || c.clientSecret.isTrue

/-- The endpoints of a cloud by its name. -/
def cloudNamed? : Value → Option CloudEndpoints
  | .text s => clouds.find? (·.name = s)
  | _ => none

/-- The endpoints of the configured cloud. -/
def endpoints (c : FleetConfig) : Except ConfigFault CloudEndpoints :=
  if c.cloud.isKey then
    match cloudNamed? c.cloud with
    | some e => .ok e
    | none => .error (.broke .unknownKey)
  else .error (.broke .wrongType)

/-- Reads one configured fleet. -/
def readFleet : Value → Except ConfigFault FleetSpec
  | .text s => (FleetSpec.read s).mapError fun e => .refused (.badFleet e)
  | _ => .error (.broke .notText)

/-- Reads configured fleets up to the first that is refused. -/
def readFleets : List Value → Except ConfigFault (List FleetSpec)
  | [] => .ok []
  | v :: rest => do
    let f ← readFleet v
    let fs ← readFleets rest
    .ok (f :: fs)

/-- The configured fleets. -/
def descriptors (c : FleetConfig) : Except ConfigFault (List FleetSpec) := do
  let items ← c.fleets.elements
  readFleets items

/-- Refuses a setting that counts as not set. -/
def require (v : Value) (e : ConfigError) : Except ConfigFault Unit :=
  if v.isTrue then .ok () else .error (.refused e)

/-- Refuses a cloud that is not known. -/
def checkCloud (c : FleetConfig) : Except ConfigFault Unit :=
  if c.cloud.isKey then
    match cloudNamed? c.cloud with
    | some _ => .ok ()
    | none => do
      let shown ← c.cloud.tell
      .error (.refused (.unknownCloud shown))
  else .error (.broke .wrongType)

/-- A service principal must be configured in full or not at all. -/
def checkServicePrincipal (c : FleetConfig) : Except ConfigFault Unit :=
  if c.usesServicePrincipal then do
    require c.tenantId .noTenant
    require c.clientId .noClientId
    require c.clientSecret .noClientSecret
  else .ok ()

/-- Refuses an interval that is not positive. -/
def checkInterval (c : FleetConfig) : Except ConfigFault Unit := do
  if ← c.refreshInterval.atMostZero then
    let shown ← c.refreshInterval.tell
    .error (.refused (.intervalNotPositive shown))

/-- Refuses a configuration for its first missing or invalid setting. -/
def check (c : FleetConfig) : Except ConfigFault Unit := do
  require c.resourceGroup .noResourceGroup
  require c.subscriptionId .noSubscription
  c.checkCloud
  c.checkServicePrincipal
  c.checkInterval
  let _ ← c.descriptors

/-- The settings that are left out of a file when they are not set. -/
def optionalEntries (c : FleetConfig) : List (String × Value) :=
  [("aadTenantId", c.tenantId), ("aadClientId", c.clientId), ("location", c.location)].filter
    (·.2.isTrue)

/-- The settings as a file holds them. The client secret is not among them. -/
def entries (c : FleetConfig) : Except ConfigFault (List (String × Value)) := do
  let fleets ← c.fleets.elements
  .ok ([("cloud", c.cloud), ("subscriptionId", c.subscriptionId),
        ("resourceGroup", c.resourceGroup), ("refreshInterval", c.refreshInterval),
        ("fleets", .list fleets)] ++ c.optionalEntries)

/-- The settings as a log may show them. -/
def maskedEntries (c : FleetConfig) : Except ConfigFault (List (String × Value)) :=
  c.entries.map fun entries =>
    if c.clientSecret.isTrue then entries ++ [("aadClientSecret", .text "****")] else entries

end FleetConfig
end FleetWarden
