import FleetWarden.Config.Basic
import FleetWarden.Manager.Operations

/-!
# Opening a manager

From a configuration to a manager: the configuration is checked, a credential is made, a remote
client is made for the cloud of the configuration, and the configured fleets are registered. What
was asked of the outside on the way is kept in a trace.
-/

namespace FleetWarden

open Numeral

/-- The parts of a service principal as they are handed to the identity provider. -/
structure ServicePrincipal where
  tenantId : Value
  clientId : Value
  clientSecret : Value
  authority : String

/-- The kinds of credential: that of the command line tool, or a service principal. -/
inductive Credential where
  | cli
  | servicePrincipal
deriving DecidableEq, Repr

def Credential.name : Credential → String
  | cli => "AzureCliCredential"
  | servicePrincipal => "ClientSecretCredential"

/-- Which requests the identity provider fails, and with what kind of fault. -/
structure IdentityProvider where
  cli : Option ErrorKind
  servicePrincipal : ServicePrincipal → Option ErrorKind

/-- Whether a character may stand in a tenant id. -/
def isTenantChar (c : Char) : Bool := c.isAlphanum || c = '-' || c = '.'

/-- Whether a value is the text of one character that may stand in a tenant id. -/
def isTenantPart : Value → Bool
  | .text s => s.length = 1 && s.toList.all isTenantChar
  | _ => false

/-- Why an element of a tenant id is refused, if it is. -/
def tenantPartFault? (part : Value) : Option ErrorKind :=
  if !part.isKey then some (.other "TypeError")
  else if isTenantPart part then none
  else some .value

/-- Why a tenant id is refused, if it is: the fault of its first element that has one. A list of
characters is as good as a text of them. -/
def tenantFault? (tenant : Value) : Option ErrorKind :=
  match tenant.elements with
  | .error f => some f.kind
  | .ok parts => parts.findSome? tenantPartFault?

/-- The identity provider, which may be out of order for the command line credential. -/
def IdentityProvider.standard (cli : Option ErrorKind) : IdentityProvider where
  cli := cli
  servicePrincipal p := tenantFault? p.tenantId

/-- What a remote client is made with. -/
structure ComputeArguments where
  credential : Option Credential
  subscriptionId : Value
  /-- The endpoint, unless it is the default one. -/
  baseUrl : Option String

namespace ComputeArguments

/-- The text without the slashes at its end. -/
def withoutSlashes (s : String) : String :=
  String.ofList (s.toList.reverse.dropWhile (· = '/')).reverse

/-- The scope that tokens are asked for. -/
def scope? (a : ComputeArguments) : Option String :=
  a.baseUrl.map fun url => withoutSlashes url ++ "/.default"

end ComputeArguments

/-- Where credentials and remote clients come from. -/
structure CloudProvider extends IdentityProvider where
  /-- Why no remote client is made with the arguments, if none is. -/
  client : ComputeArguments → Option Fault

/-- A provider that makes every remote client it is asked for. -/
def CloudProvider.standard (cli : Option ErrorKind) : CloudProvider where
  toIdentityProvider := .standard cli
  client _ := none

/-- Why there is no credential. -/
inductive CredentialError where
  | cliFailed (kind : ErrorKind)
  | incomplete
  | principalFailed (kind : ErrorKind)
deriving DecidableEq

namespace CredentialError

def message : CredentialError → String
  | cliFailed kind =>
    "Failed to create Azure CLI credential. Is Azure CLI installed and authenticated? Error: " ++
      kind.name
  | incomplete => "Service principal requires tenant id, client id and client secret"
  | principalFailed kind => "Failed to create service principal credential: " ++ kind.name

def cause? : CredentialError → Option ErrorKind
  | cliFailed kind => some kind
  | incomplete => none
  | principalFailed kind => some kind

end CredentialError

/-- Why there is no manager. -/
inductive StartupFault where
  | config (fault : ConfigFault)
  | credential (error : CredentialError)
  /-- The remote client was not made. -/
  | client (fault : Fault)
  | loop (error : LoopError)
deriving DecidableEq

namespace StartupFault

def kind : StartupFault → ErrorKind
  | config f => f.kind
  | credential _ => .credential
  | client f => f.kind
  | loop e => e.kind

def message : StartupFault → String
  | config f => f.message
  | credential e => e.message
  | client f => f.message
  | loop e => e.message

def cause? : StartupFault → Option ErrorKind
  | config f => f.cause?
  | credential e => e.cause?
  | client _ => none
  | loop _ => none

end StartupFault

/-- What was asked of the outside, and what was reported. -/
structure StartupTrace where
  log : List Event
  requested : Option ServicePrincipal
  compute : Option ComputeArguments

/-- A manager about to be opened: its loop, the fleets to register, and its resource group. -/
structure Opening where
  loop : RefreshLoop
  fleets : List Fleet
  group : Value

namespace Startup

/-- A step of opening a manager. -/
abbrev Act (α : Type) := Action StartupTrace StartupFault α

def emptyTrace : StartupTrace := ⟨[], none, none⟩

def report (e : Event) : Act Unit := Action.change fun t => { t with log := t.log ++ [e] }

/-- A result of the configuration as an act. -/
def configured {α : Type} : Except ConfigFault α → Act α
  | .ok a => pure a
  | .error f => .fail (.config f)

/-- The command line credential. -/
def cliCredential (provider : IdentityProvider) : Act Credential := do
  report .usingCli
  match provider.cli with
  | some kind => .fail (.credential (.cliFailed kind))
  | none => pure .cli

/-- Asks the identity provider for a service principal. -/
def requestPrincipal (provider : IdentityProvider) (p : ServicePrincipal) : Act Unit := do
  Action.change fun t => { t with requested := some p }
  match provider.servicePrincipal p with
  | some kind => .fail (.credential (.principalFailed kind))
  | none => pure ()

/-- The credential of a service principal, which must be configured in full. -/
def principalCredential (limits : Limits) (provider : IdentityProvider) (c : FleetConfig) :
    Act Credential :=
  if c.tenantId.isTrue && c.clientId.isTrue && c.clientSecret.isTrue then
    match c.endpoints with
    | .error f => .fail (.credential (.principalFailed f.kind))
    | .ok e => do
      requestPrincipal provider ⟨c.tenantId, c.clientId, c.clientSecret, e.authority⟩
      let shown ← configured (c.clientId.tellWithin limits .reporting)
      report (.usingServicePrincipal shown)
      pure .servicePrincipal
  else .fail (.credential .incomplete)

/-- The credential of a configuration. -/
def credential (limits : Limits) (provider : IdentityProvider) (c : FleetConfig) :
    Act Credential :=
  if c.usesServicePrincipal then principalCredential limits provider c else cliCredential provider

/-- Asks the provider for a remote client. -/
def requestClient (provider : CloudProvider) (args : ComputeArguments) : Act Unit := do
  Action.change fun t => { t with compute := some args }
  match provider.client args with
  | some f => .fail (.client f)
  | none => pure ()

/-- Makes a remote client; an empty endpoint stands for the default one. -/
def createClient (limits : Limits) (provider : CloudProvider) (credential : Option Credential)
    (subscription group : Value) (baseUrl : Option String) : Act Unit := do
  requestClient provider ⟨credential, subscription, baseUrl.filter (· ≠ "")⟩
  let shownSubscription ← configured (subscription.tellWithin limits .reporting)
  let shownGroup ← configured (group.tellWithin limits .reporting)
  report (.clientCreated shownSubscription shownGroup)

/-- What a client reports about a request and the response to it. -/
def inspection (method url status : String) : List Event :=
  [.requestSeen method url, .responseSeen status method url]

/-- The quantity that a setting holds, where it holds one. -/
def quantity : Value → Except ConfigFault Quantity
  | .int n => .ok (.int n)
  | .float x => .ok (.float x)
  | .bool b => .ok (.truth b)
  | _ => .error (.broke .wrongType)

/-- The loop of a manager with the configured interval. -/
def makeLoop (c : FleetConfig) : Act RefreshLoop := do
  let interval ← configured (quantity c.refreshInterval)
  match RefreshLoop.make interval with
  | .ok loop => pure loop
  | .error e => .fail (.loop e)

/-- Opens a manager. -/
def openManager (limits : Limits) (provider : CloudProvider) (c : FleetConfig) : Act Opening := do
  configured c.check
  let made ← credential limits provider.toIdentityProvider c
  let e ← configured c.endpoints
  createClient limits provider (some made) c.subscriptionId c.resourceGroup (some e.resourceManager)
  let loop ← makeLoop c
  let specs ← configured c.descriptors
  pure ⟨loop, specs.mapIdx fun i spec => ⟨i, spec⟩, c.resourceGroup⟩

end Startup

namespace Opening

/-- The system of an opened manager: nothing is cached and the loop is not started. -/
def system {ρ : Type} (o : Opening) (world : World ρ) : System ρ :=
  o.fleets.foldl (fun s fleet => s.register fleet) (System.start o.loop world)

end Opening
end FleetWarden
