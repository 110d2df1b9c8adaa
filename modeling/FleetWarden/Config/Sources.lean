import FleetWarden.Config.Basic
import FleetWarden.Membership.InsertionMap
import FleetWarden.Text.Parts

/-!
# Where settings come from

Settings are read from pairs of keys and values. A setting goes by several keys, and the last pair
that sets it counts; nothing at all and the empty text set nothing. Files and environments differ
only in their keys.
-/

namespace FleetWarden

open Text Numeral

/-- The settings of a configuration. -/
inductive Setting where
  | subscriptionId
  | resourceGroup
  | tenantId
  | clientId
  | clientSecret
  | cloud
  | location
  | refreshInterval
  | fleets
deriving DecidableEq, Repr

/-- The keys of one source. -/
abbrev KeyTable := List (String × Setting)

/-- The keys that every source knows. -/
def ownKeys : KeyTable :=
  [("subscription_id", .subscriptionId), ("resource_group", .resourceGroup),
   ("tenant_id", .tenantId), ("client_id", .clientId), ("client_secret", .clientSecret),
   ("cloud", .cloud), ("location", .location), ("refresh_interval", .refreshInterval),
   ("fleets", .fleets)]

/-- The keys of configuration files. -/
def fileKeys : KeyTable :=
  [("cloud", .cloud), ("tenantId", .tenantId), ("aadTenantId", .tenantId),
   ("subscriptionId", .subscriptionId), ("resourceGroup", .resourceGroup),
   ("location", .location), ("aadClientId", .clientId), ("aadClientSecret", .clientSecret),
   ("refreshInterval", .refreshInterval), ("fleets", .fleets)]

/-- The variables of the environment. -/
def environmentKeys : KeyTable :=
  [("ARM_SUBSCRIPTION_ID", .subscriptionId), ("ARM_RESOURCE_GROUP", .resourceGroup),
   ("ARM_TENANT_ID", .tenantId), ("ARM_CLIENT_ID", .clientId),
   ("ARM_CLIENT_SECRET", .clientSecret), ("ARM_CLOUD", .cloud), ("AZFLEET_FLEETS", .fleets),
   ("AZFLEET_REFRESH_INTERVAL", .refreshInterval)]

/-- The setting that a key stands for. -/
def KeyTable.setting? (keys : KeyTable) (key : String) : Option Setting :=
  match keys.lookup key with
  | some setting => some setting
  | none => ownKeys.lookup key

namespace FleetConfig

/-- The configuration with one setting changed. -/
def set (c : FleetConfig) (setting : Setting) (v : Value) : FleetConfig :=
  match setting with
  | .subscriptionId => { c with subscriptionId := v }
  | .resourceGroup => { c with resourceGroup := v }
  | .tenantId => { c with tenantId := v }
  | .clientId => { c with clientId := v }
  | .clientSecret => { c with clientSecret := v }
  | .cloud => { c with cloud := v }
  | .location => { c with location := v }
  | .refreshInterval => { c with refreshInterval := v }
  | .fleets => { c with fleets := v }

/-- Fleets given as one text stand between commas; empty items do not count. -/
def fleetList (s : String) : List Value :=
  (((splitBetween ',' s.toList).map fun cs => trim (String.ofList cs)).filter (· ≠ "")).map .text

/-- The number of seconds that a value stands for. -/
def seconds (limits : Limits) : Value → Except ConfigFault Binary64
  | .bool b => .ok (if b then Binary64.ofNat 1 else .zero)
  | .int n =>
    match Binary64.ofInt? n with
    | some x => .ok x
    | none => .error (.broke .outOfRange)
  | .float x => .ok x
  | .text s =>
    match Real.read? s with
    | some x => .ok x
    | none => .error (.refused (.badInterval s .value))
  | v => do
    let shown ← v.tellWithin limits .refusing
    .error (.refused (.badInterval shown (.other "TypeError")))

/-- The value of the last pair that sets a setting. -/
def lastSet? (keys : KeyTable) (setting : Setting) (pairs : List (String × Value)) :
    Option Value :=
  (pairs.filter fun p => keys.setting? p.1 = some setting && !p.2.isUnset).getLast?.map (·.2)

/-- The configuration with a setting taken from the pairs, if they set it. -/
def takeSetting (keys : KeyTable) (pairs : List (String × Value)) (c : FleetConfig)
    (setting : Setting) : FleetConfig :=
  match lastSet? keys setting pairs with
  | some v => c.set setting v
  | none => c

/-- The settings that are taken as they come. -/
def plainSettings : List Setting :=
  [.subscriptionId, .resourceGroup, .tenantId, .clientId, .clientSecret, .cloud, .location]

/-- The fleets that the pairs set. -/
def fleetsFrom (keys : KeyTable) (pairs : List (String × Value)) : Value :=
  match lastSet? keys .fleets pairs with
  | some (.text s) => .list (fleetList s)
  | some v => v
  | none => .list []

/-- The refresh interval that the pairs set. -/
def intervalFrom (limits : Limits) (keys : KeyTable) (pairs : List (String × Value)) :
    Except ConfigFault Value :=
  match lastSet? keys .refreshInterval pairs with
  | some v => (seconds limits v).map .float
  | none => .ok default.refreshInterval

/-- The configuration that the pairs of a source set. A repeated key counts at its first place
with its last value. -/
def ofPairs (limits : Limits) (keys : KeyTable) (source : List (String × Value)) :
    Except ConfigFault FleetConfig := do
  let pairs := (InsertionMap.ofList source).pairs
  let interval ← intervalFrom limits keys pairs
  let plain := plainSettings.foldl (takeSetting keys pairs) default
  .ok { plain with refreshInterval := interval, fleets := fleetsFrom keys pairs }

/-- The pairs of an environment: its recognised variables that are not empty. -/
def environmentPairs (environment : List (String × String)) : List (String × Value) :=
  environmentKeys.filterMap fun (key, _) =>
    match environment.lookup key with
    | some s => if s = "" then none else some (key, .text s)
    | none => none

/-- The checked configuration of an environment. -/
def ofEnvironment (limits : Limits) (environment : List (String × String)) :
    Except ConfigFault FleetConfig := do
  let c ← ofPairs limits environmentKeys (environmentPairs environment)
  c.check
  .ok c

/-- The pairs of a document: those of its `global` table, overridden by the other ones. A key
keeps its place when it is overridden. -/
def documentPairs (document : List (String × Value)) : List (String × Value) :=
  match document.lookup "global" with
  | some (.table common) =>
    (document.filter (·.1 ≠ "global")).foldl (fun pairs p => putPair p.1 p.2 pairs) common
  | _ => document

end FleetConfig
end FleetWarden
