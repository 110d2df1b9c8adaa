import FleetWarden.Fleet.InstanceRef
import FleetWarden.Fleet.Spec
import FleetWarden.Value.Text

/-!
# Events

What the program reports while it works. Each event has a level, the component it comes from, and
a text.
-/

namespace FleetWarden

open Text Numeral

/-- How serious an event is. -/
inductive Level where
  | debug
  | info
  | warning
  | error
deriving DecidableEq, Repr

def Level.name : Level → String
  | debug => "DEBUG"
  | info => "INFO"
  | warning => "WARNING"
  | error => "ERROR"

/-- Something that is reported, with what is said about it. -/
inductive Event where
  | registered (fleet : String)
  /-- A rebuild turns to the next fleet. -/
  | visiting (fleet : String)
  | describeFailed (fleet cause : String)
  | listFailed (fleet cause : String)
  /-- A rebuild meets an instance again, under another fleet than before. -/
  | conflict (target : InstanceRef) (previous kept : Fleet)
  | rebuilt (instances fleets : Nat) (seconds : Binary64)
  | lookingFor (target : InstanceRef)
  | lookupFailed (target : InstanceRef) (cause : String)
  | sizeAsked (fleet : String)
  | sizeAnswered (capacity : Value)
  | resizing (fleet : String) (current : Value) (target : Int)
  | directListFailed (fleet cause : String)
  | deleting (count : Nat) (fleet : String)
  | listed (fleet : String) (count : Nat)
  | loopStarted (interval : String)
  | loopStopped
  | tickFailed (cause : String)
  | clientCreated (subscription group : String)
  | requestSeen (method url : String)
  | responseSeen (status method url : String)
  | insecureMode (mode : String)
  | configRead (subscription : String)
  | configLoaded (path config : String)
  | configSaved (path : String)
  | usingCli
  | usingServicePrincipal (clientId : String)
  | interrupted

namespace Event

def level : Event → Level
  | describeFailed _ _ => .error
  | listFailed _ _ => .error
  | tickFailed _ => .error
  | conflict _ _ _ => .warning
  | lookupFailed _ _ => .warning
  | insecureMode _ => .warning
  | rebuilt _ _ _ => .info
  | resizing _ _ _ => .info
  | deleting _ _ => .info
  | clientCreated _ _ => .info
  | configRead _ => .info
  | _ => .debug

/-- The component that an event comes from. -/
def source : Event → String
  | visiting _ => "cache.membership_cache"
  | describeFailed _ _ => "cache.membership_cache"
  | listFailed _ _ => "cache.membership_cache"
  | conflict _ _ _ => "cache.membership_cache"
  | loopStarted _ => "cache.background_refresh"
  | loopStopped => "cache.background_refresh"
  | tickFailed _ => "cache.background_refresh"
  | listed _ _ => "fleet_client"
  | clientCreated _ _ => "fleet_client"
  | requestSeen _ _ => "fleet_client"
  | responseSeen _ _ _ => "fleet_client"
  | insecureMode _ => "config_manager"
  | configRead _ => "config_manager"
  | configLoaded _ _ => "config_manager"
  | configSaved _ => "config_manager"
  | usingCli => "credential_factory"
  | usingServicePrincipal _ => "credential_factory"
  | interrupted => "cli"
  | _ => "fleet_manager"

def text : Event → String
  | registered fleet => "Registered scale set " ++ fleet
  | visiting fleet => "Regenerating scale set information for " ++ fleet
  | describeFailed fleet cause => "Failed to get scale set " ++ fleet ++ ": " ++ cause
  | listFailed fleet cause => "Failed to list VMs for scale set " ++ fleet ++ ": " ++ cause
  | conflict target previous kept =>
    "Instance " ++ target.key ++ " reported by scale sets " ++ previous.name ++ " and " ++
      kept.name ++ ", keeping " ++ kept.name
  | rebuilt instances fleets seconds =>
    "Scale set cache rebuilt: " ++ Whole.text instances ++ " instances across " ++
      Whole.text fleets ++ " scale sets in " ++ seconds.fixed 2 ++ "s"
  | lookingFor target => "Looking for scale set for instance: " ++ target.key
  | lookupFailed target cause =>
    "Error while looking for scale set for instance " ++ target.key ++ ": " ++ cause
  | sizeAsked fleet => "Get scale set size: " ++ fleet
  | sizeAnswered capacity => "Returning scale set capacity: " ++ capacity.shown
  | resizing fleet current target =>
    "Setting scale set " ++ fleet ++ " size: " ++ current.shown ++ " -> " ++ Whole.text target
  | directListFailed fleet cause => "Failed VM list request for " ++ fleet ++ ": " ++ cause
  | deleting count fleet =>
    "Deleting " ++ Whole.text count ++ " instances from scale set " ++ fleet
  | listed fleet count => "Scale set " ++ fleet ++ " has " ++ Whole.text count ++ " VMs"
  | loopStarted interval => "Periodic refresh started (interval: " ++ interval ++ "s)"
  | loopStopped => "Periodic refresh stopped"
  | tickFailed cause => "Error while regenerating scale set cache: " ++ cause
  | clientCreated subscription group =>
    "Created scale set client for subscription " ++ subscription ++ ", resource group " ++ group
  | requestSeen method url => "Inspecting request: " ++ method ++ " " ++ url
  | responseSeen status method url =>
    "Inspecting response: " ++ status ++ " for " ++ method ++ " " ++ url
  | insecureMode mode =>
    "Config file has insecure permissions: " ++ mode ++ ". Fixing to 0600..."
  | configRead subscription => "Read configuration for subscription " ++ subscription
  | configLoaded path config => "Loaded config from " ++ path ++ ": " ++ config
  | configSaved path => "Saved config to: " ++ path
  | usingCli => "Using Azure CLI credential"
  | usingServicePrincipal clientId =>
    "Using service principal credential for client " ++ clientId
  | interrupted => "Interrupted"

/-- Level, component and text in one line. -/
def line (e : Event) : String := e.level.name ++ " " ++ e.source ++ ": " ++ e.text

end Event
end FleetWarden
