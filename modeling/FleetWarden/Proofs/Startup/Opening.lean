import FleetWarden.Proofs.Config.Acceptance
import FleetWarden.Proofs.Manager.Deeds
import FleetWarden.Startup

/-!
# What a check is worth

After a configuration passed its check, nothing but the outside can keep its manager from being
opened: the provider of credentials, or that of remote clients. The guards on the way ask for no
more than the check did, so they never stop an accepted configuration (`openManager_of_check`).
-/

namespace FleetWarden

open Numeral

namespace FleetConfig

/-- The settings are texts, apart from the refresh interval, which is a number, and the fleets,
which are a list of texts. -/
structure Regular (c : FleetConfig) : Prop extends Textual c where
  interval : (∃ n, c.refreshInterval = .int n) ∨ ∃ x, c.refreshInterval = .float x

/-- What is reported of a configuration on the way to its manager can be told. -/
def Told (limits : Limits) (c : FleetConfig) (setting : Setting) : Prop :=
  ∃ shown, (c.get setting).tellWithin limits .reporting = .ok shown

end FleetConfig

namespace Startup
variable {limits : Limits} {provider : CloudProvider} {c : FleetConfig} {cloud : CloudEndpoints}
  {t : StartupTrace}

/-- The service principal of a configuration in a cloud. -/
def principalOf (c : FleetConfig) (cloud : CloudEndpoints) : ServicePrincipal :=
  ⟨c.tenantId, c.clientId, c.clientSecret, cloud.authority⟩

/-- The credential that a configuration asks for. -/
def credentialOf (c : FleetConfig) : Credential :=
  if c.usesServicePrincipal then .servicePrincipal else .cli

/-- What the provider makes of the credential that a configuration asks for. -/
def credentialError? (provider : IdentityProvider) (c : FleetConfig) (cloud : CloudEndpoints) :
    Option CredentialError :=
  if c.usesServicePrincipal then
    (provider.servicePrincipal (principalOf c cloud)).map .principalFailed
  else provider.cli.map .cliFailed

/-- What a remote client is made with for a configuration in a cloud. -/
def argumentsOf (c : FleetConfig) (cloud : CloudEndpoints) : ComputeArguments :=
  ⟨some (credentialOf c), c.subscriptionId, some cloud.resourceManager⟩

theorem endpoints_of_cloudNamed? (h : FleetConfig.cloudNamed? c.cloud = some cloud) :
    c.endpoints = .ok cloud := by
  have hkey : c.cloud.isKey = true := by
    rw [(FleetConfig.eq_text_of_cloudNamed? h).1]
    rfl
  rw [FleetConfig.endpoints, if_pos hkey, h]

/-- An act that is begun with these requests ends like this, with those requests. -/
def Ends {α : Type} (x : Act α) (t : StartupTrace) (outcome : Except StartupFault α)
    (requested : Option ServicePrincipal) (compute : Option ComputeArguments) : Prop :=
  ∃ log, x t = (outcome, ⟨log, requested, compute⟩)

section Ends
variable {α β : Type} {x : Act α} {f : α → Act β} {requested : Option ServicePrincipal}
  {compute : Option ComputeArguments}

theorem ends_pure (a : α) (t : StartupTrace) : Ends (pure a) t (.ok a) t.requested t.compute :=
  ⟨t.log, rfl⟩

theorem ends_fail (e : StartupFault) (t : StartupTrace) :
    Ends (.fail e : Act α) t (.error e) t.requested t.compute := ⟨t.log, rfl⟩

theorem ends_report (e : Event) (t : StartupTrace) :
    Ends (report e) t (.ok ()) t.requested t.compute := ⟨t.log ++ [e], rfl⟩

theorem ends_tell {v : Value} {shown : String} (h : v.tellWithin limits .reporting = .ok shown)
    (t : StartupTrace) :
    Ends (configured (v.tellWithin limits .reporting)) t (.ok shown) t.requested t.compute := by
  rw [h]
  exact ends_pure _ t

theorem Ends.then {a : α} {outcome : Except StartupFault β} {requested' : Option ServicePrincipal}
    {compute' : Option ComputeArguments} (hx : Ends x t (.ok a) requested compute)
    (hf : ∀ log, Ends (f a) ⟨log, requested, compute⟩ outcome requested' compute') :
    Ends (x >>= f) t outcome requested' compute' := by
  obtain ⟨log, hrun⟩ := hx
  obtain ⟨log', hrest⟩ := hf log
  exact ⟨log', (Action.bind_of_ok hrun).trans hrest⟩

theorem Ends.failed {e : StartupFault} (hx : Ends x t (.error e) requested compute) :
    Ends (x >>= f) t (.error e) requested compute := by
  obtain ⟨log, hrun⟩ := hx
  exact ⟨log, Action.bind_of_error hrun⟩

end Ends

theorem ends_cliCredential (provider : IdentityProvider) (t : StartupTrace) :
    Ends (cliCredential provider) t
      (match provider.cli with
        | some kind => .error (.credential (.cliFailed kind))
        | none => .ok .cli)
      t.requested t.compute := by
  refine (ends_report _ t).then fun log => ?_
  cases provider.cli with
  | some kind => exact ends_fail _ _
  | none => exact ends_pure _ _

theorem ends_principalCredential (provider : IdentityProvider)
    (hset : c.tenantId.isTrue = true ∧ c.clientId.isTrue = true ∧ c.clientSecret.isTrue = true)
    (hcloud : FleetConfig.cloudNamed? c.cloud = some cloud)
    (htold : c.Told limits .clientId) (t : StartupTrace) :
    Ends (principalCredential limits provider c) t
      (match provider.servicePrincipal (principalOf c cloud) with
        | some kind => .error (.credential (.principalFailed kind))
        | none => .ok .servicePrincipal)
      (some (principalOf c cloud)) t.compute := by
  obtain ⟨shown, hshown⟩ := htold
  have hchange : Ends (.change fun t => { t with requested := some (principalOf c cloud) }) t
      (.ok ()) (some (principalOf c cloud)) t.compute := ⟨t.log, rfl⟩
  rw [principalCredential, hset.1, hset.2.1, hset.2.2, endpoints_of_cloudNamed? hcloud]
  change Ends (requestPrincipal provider (principalOf c cloud) >>= _) t _ _ _
  rw [requestPrincipal]
  cases hp : provider.servicePrincipal (principalOf c cloud) with
  | some kind => exact (hchange.then fun log => ends_fail _ _).failed
  | none =>
      refine (hchange.then fun log => ends_pure () _).then fun log => ?_
      refine (ends_tell hshown _).then fun log => ?_
      exact (ends_report _ _).then fun log => ends_pure _ _

theorem ends_credential (provider : IdentityProvider) (h : c.Accepted)
    (hcloud : FleetConfig.cloudNamed? c.cloud = some cloud)
    (htold : c.Told limits .clientId) (t : StartupTrace) :
    Ends (credential limits provider c) t
      (match credentialError? provider c cloud with
        | some e => .error (.credential e)
        | none => .ok (credentialOf c))
      (if c.usesServicePrincipal then some (principalOf c cloud) else t.requested) t.compute := by
  rw [credential, credentialError?, credentialOf]
  by_cases huses : c.usesServicePrincipal = true
  · have hrun := ends_principalCredential provider (h.servicePrincipal huses) hcloud
      htold t
    rw [if_pos huses, if_pos huses, if_pos huses, if_pos huses]
    cases hp : provider.servicePrincipal (principalOf c cloud) <;>
      · rw [hp] at hrun
        exact hrun
  · have hrun := ends_cliCredential provider t
    rw [if_neg huses, if_neg huses, if_neg huses, if_neg huses]
    cases hp : provider.cli <;>
      · rw [hp] at hrun
        exact hrun

theorem ends_createClient (provider : CloudProvider) {subscription group : Value}
    {shown shown' : String} (hsubscription : subscription.tellWithin limits .reporting = .ok shown)
    (hgroup : group.tellWithin limits .reporting = .ok shown')
    {credential : Option Credential} {url : Option String} {args : ComputeArguments}
    (hargs : args = ⟨credential, subscription, url.filter (· ≠ "")⟩) (t : StartupTrace) :
    Ends (createClient limits provider credential subscription group url) t
      (match provider.client args with
        | some f => .error (.client f)
        | none => .ok ())
      t.requested (some args) := by
  have hchange : Ends (.change fun t => { t with compute := some args }) t (.ok ()) t.requested
      (some args) := ⟨t.log, rfl⟩
  rw [createClient, ← hargs, requestClient]
  cases hclient : provider.client args with
  | some f => exact (hchange.then fun log => ends_fail _ _).failed
  | none =>
      refine (hchange.then fun log => ends_pure () _).then fun log => ?_
      refine (ends_tell hsubscription _).then fun log => (ends_tell hgroup _).then fun log => ?_
      exact ends_report _ _

theorem atMostZero_eq_ok_iff {v : Value} {low : Bool} :
    v.atMostZero = .ok low ↔ ∃ q, quantity v = .ok q ∧ q.atMostZero = low := by
  cases v <;> simp [Value.atMostZero, quantity, Quantity.atMostZero]

theorem ends_makeLoop {q : Quantity} (hq : quantity c.refreshInterval = .ok q)
    (hpositive : q.atMostZero = false) (t : StartupTrace) :
    Ends (makeLoop c) t (.ok (RefreshLoop.fresh q)) t.requested t.compute := by
  have hmake : RefreshLoop.make q = .ok (RefreshLoop.fresh q) := by
    rw [RefreshLoop.make, hpositive]
    rfl
  rw [makeLoop, hq]
  refine (ends_pure q t).then fun log => ?_
  rw [hmake]
  exact ends_pure _ _

/-- The fleets of a manager, numbered in their order. -/
def numbered (specs : List FleetSpec) : List Fleet := specs.mapIdx fun i spec => ⟨i, spec⟩

/-- What comes of opening a manager for an accepted configuration: the outside fails to make the
credential or the client, or there is a manager. -/
def openingOf (provider : CloudProvider) (c : FleetConfig) (cloud : CloudEndpoints) (q : Quantity)
    (specs : List FleetSpec) : Except StartupFault Opening :=
  match credentialError? provider.toIdentityProvider c cloud with
  | some e => .error (.credential e)
  | none =>
    match provider.client (argumentsOf c cloud) with
    | some f => .error (.client f)
    | none => .ok ⟨RefreshLoop.fresh q, numbered specs, c.resourceGroup⟩

theorem eq_of_openingOf {q : Quantity} {specs : List FleetSpec} {o : Opening}
    (h : openingOf provider c cloud q specs = .ok o) :
    o = ⟨RefreshLoop.fresh q, numbered specs, c.resourceGroup⟩ := by
  rw [openingOf] at h
  split at h
  · cases h
  · split at h
    · cases h
    · exact (Except.ok.inj h).symm

theorem filter_resourceManager (h : cloud ∈ clouds) :
    (some cloud.resourceManager).filter (· ≠ "") = some cloud.resourceManager := by
  revert cloud
  decide

theorem withoutSlashes_resourceManager (h : cloud ∈ clouds) :
    ComputeArguments.withoutSlashes cloud.resourceManager = cloud.resourceManager := by
  revert cloud
  decide +kernel

theorem ends_openManager (provider : CloudProvider) (h : c.Accepted)
    (hcloud : FleetConfig.cloudNamed? c.cloud = some cloud)
    (hclient : c.Told limits .clientId) (hsubscription : c.Told limits .subscriptionId)
    (hgroup : c.Told limits .resourceGroup) {q : Quantity}
    (hq : quantity c.refreshInterval = .ok q) (hpositive : q.atMostZero = false)
    {specs : List FleetSpec} (hspecs : c.descriptors = .ok specs) (t : StartupTrace) :
    Ends (openManager limits provider c) t (openingOf provider c cloud q specs)
      (if c.usesServicePrincipal then some (principalOf c cloud) else t.requested)
      (if credentialError? provider.toIdentityProvider c cloud = none then
        some (argumentsOf c cloud) else t.compute) := by
  obtain ⟨subscription, hsubscription⟩ := hsubscription
  obtain ⟨group, hgroup⟩ := hgroup
  rw [openManager, openingOf, FleetConfig.check_eq_ok_iff.2 h]
  refine (ends_pure () t).then fun log => ?_
  have hcredential := ends_credential provider.toIdentityProvider h hcloud hclient
    ⟨log, t.requested, t.compute⟩
  cases he : credentialError? provider.toIdentityProvider c cloud with
  | some e =>
      rw [he] at hcredential
      exact hcredential.failed
  | none =>
      rw [he] at hcredential
      rw [if_pos rfl, endpoints_of_cloudNamed? hcloud, hspecs]
      refine hcredential.then fun log => (ends_pure cloud _).then fun log => ?_
      have hargs : argumentsOf c cloud = ⟨some (credentialOf c), c.subscriptionId,
          (some cloud.resourceManager).filter (· ≠ "")⟩ := by
        rw [filter_resourceManager (FleetConfig.eq_text_of_cloudNamed? hcloud).2, argumentsOf]
      have hcreate := ends_createClient provider hsubscription hgroup hargs
      cases hfault : provider.client (argumentsOf c cloud) with
      | some f =>
          rw [hfault] at hcreate
          exact (hcreate _).failed
      | none =>
          rw [hfault] at hcreate
          refine (hcreate _).then fun log => (ends_makeLoop hq hpositive _).then fun log => ?_
          exact (ends_pure specs _).then fun log => ends_pure _ _

theorem scope?_argumentsOf (h : cloud ∈ clouds) :
    (argumentsOf c cloud).scope? = some (cloud.resourceManager ++ "/.default") := by
  rw [ComputeArguments.scope?, argumentsOf, Option.map_some, withoutSlashes_resourceManager h]

theorem map_spec_numbered (specs : List FleetSpec) : (numbered specs).map (·.spec) = specs := by
  apply List.ext_getElem
  · simp [numbered]
  · intro i hi hspec
    simp [numbered]

theorem map_id_numbered (specs : List FleetSpec) :
    (numbered specs).map (·.id) = List.range specs.length := by
  apply List.ext_getElem
  · simp [numbered]
  · intro i hi hid
    simp [numbered]

end Startup

/-- A manager that has done nothing yet, with a loop of this interval and these fleets, each under a
number and a name of its own. -/
structure System.IsNew {ρ : Type} (s : System ρ) (q : Quantity) (specs : List FleetSpec) :
    Prop where
  snapshot : s.snapshot = .empty
  rebuilds : s.rebuilds = 0
  interval : s.loop.interval = q
  stage : s.loop.stage = .idle
  stopped : s.loop.stopped = false
  ticks : s.loop.ticks = 0
  fleets : s.fleets.map (·.spec) = specs
  ids : s.fleets.map (·.id) = List.range specs.length
  names : s.entries.map (·.observedName) = specs.map (·.name)

namespace Opening
variable {ρ : Type}

theorem foldl_register (fleets : List Fleet) (s : System ρ) :
    (fleets.foldl (fun s fleet => s.register fleet) s).records = s.records.register fleets ∧
      (fleets.foldl (fun s fleet => s.register fleet) s).loop = s.loop := by
  induction fleets generalizing s with
  | nil => exact ⟨(Records.register_nil _).symm, rfl⟩
  | cons fleet rest ih =>
      obtain ⟨hrecords, hloop⟩ := ih (s.register fleet)
      have hfirst : (s.register fleet).records = s.records.register [fleet] := rfl
      constructor
      · rw [List.foldl_cons, hrecords, hfirst, Records.register_register, List.singleton_append]
      · exact hloop

theorem isNew_system {o : Opening} {q : Quantity} {specs : List FleetSpec}
    (hloop : o.loop = RefreshLoop.fresh q) (hfleets : o.fleets = Startup.numbered specs)
    (world : World ρ) : (o.system world).IsNew q specs := by
  obtain ⟨hrecords, hsame⟩ := foldl_register o.fleets (System.start o.loop world)
  change (o.system world).records = _ at hrecords
  change (o.system world).loop = o.loop at hsame
  have hentries : (o.system world).entries = (Startup.numbered specs).map .fresh :=
    hfleets ▸ congrArg Records.entries hrecords
  have hall : (o.system world).fleets = Startup.numbered specs := by
    rw [System.fleets, hentries, List.map_map]
    exact List.map_id _
  rw [hloop] at hsame
  constructor
  · exact congrArg Records.snapshot hrecords
  · exact congrArg Records.rebuilds hrecords
  · rw [hsame, RefreshLoop.fresh]
  · rw [hsame, RefreshLoop.fresh]
  · rw [hsame, RefreshLoop.fresh]
  · rw [hsame, RefreshLoop.fresh]
  · rw [hall, Startup.map_spec_numbered]
  · rw [hall, Startup.map_id_numbered]
  · calc (o.system world).entries.map (·.observedName)
        = (Startup.numbered specs).map fun fleet => fleet.spec.name := by
          rw [hentries, List.map_map]
          rfl
      _ = ((Startup.numbered specs).map (·.spec)).map (·.name) := List.map_map.symm
      _ = specs.map (·.name) := by rw [Startup.map_spec_numbered]

end Opening

namespace Startup
variable {c : FleetConfig}

/-- For a configuration of texts and a number, whatever the outside does: if its check refuses it,
opening ends with the very fault of the check and asks for nothing. If the check passes, only the
outside can fail, by its answer for the credential or for the client (`openingOf`). A service
principal is asked for exactly if some part of one is set, with the authority of the cloud whose
endpoint and scope the client gets. The manager has an empty snapshot, a loop that is not started,
and the configured fleets in their order. -/
theorem openManager_of_check (limits : Limits) (provider : CloudProvider) (hc : c.Regular)
    (t : StartupTrace) :
    (∀ f, c.check = .error f → openManager limits provider c t = (.error (.config f), t)) ∧
    (c.check = .ok () → ∃ cloud ∈ clouds, ∃ q names specs, c.cloud = .text cloud.name ∧
      quantity c.refreshInterval = .ok q ∧ c.fleets = .list (List.map .text names) ∧
      List.map FleetSpec.read names = List.map .ok specs ∧
      (openManager limits provider c t).1 = openingOf provider c cloud q specs ∧
      (openManager limits provider c t).2.requested =
        (if c.usesServicePrincipal then
          some ⟨c.tenantId, c.clientId, c.clientSecret, cloud.authority⟩ else t.requested) ∧
      (openManager limits provider c t).2.compute =
        (if credentialError? provider.toIdentityProvider c cloud = none then
          some ⟨some (credentialOf c), c.subscriptionId, some cloud.resourceManager⟩
          else t.compute) ∧
      (argumentsOf c cloud).scope? = some (cloud.resourceManager ++ "/.default") ∧
      ∀ o, (openManager limits provider c t).1 = .ok o →
        ∀ {ρ : Type} (world : World ρ), (o.system world).IsNew q specs) := by
  constructor
  · intro f hf
    rw [openManager, hf]
    rfl
  · intro hcheck
    have h := FleetConfig.check_eq_ok_iff.1 hcheck
    obtain ⟨cloud, hcloud⟩ := h.cloud
    obtain ⟨hname, hknown⟩ := FleetConfig.eq_text_of_cloudNamed? hcloud
    obtain ⟨q, hq, hpositive⟩ := atMostZero_eq_ok_iff.1 h.interval
    obtain ⟨names, hnames⟩ := hc.fleets
    obtain ⟨specs, hspecs⟩ := h.fleets
    have hread : FleetConfig.readFleets (names.map .text) = .ok specs := by
      rw [FleetConfig.descriptors, hnames] at hspecs
      exact hspecs
    obtain ⟨log, hrun⟩ := ends_openManager provider h hcloud
      (hc.exists_tellWithin (by decide) limits .reporting)
      (hc.exists_tellWithin (by decide) limits .reporting)
      (hc.exists_tellWithin (by decide) limits .reporting) hq hpositive hspecs t
    refine ⟨cloud, hknown, q, names, specs, hname, hq, hnames,
      FleetConfig.readFleets_eq_ok_iff.1 hread, ?_, ?_, ?_, scope?_argumentsOf hknown, ?_⟩
    · rw [hrun]
    · rw [hrun]
      rfl
    · rw [hrun]
      rfl
    · intro o ho ρ world
      rw [hrun] at ho
      obtain rfl := eq_of_openingOf ho
      exact Opening.isNew_system rfl rfl world

/-- A configuration for another cloud than the public one, with a service principal and fleets. -/
def governmentConfig : FleetConfig :=
  { FleetConfig.default with
    subscriptionId := .text "sub", resourceGroup := .text "rg", tenantId := .text "tenant"
    clientId := .text "client", clientSecret := .text "s3cret"
    cloud := .text "AzureUSGovernmentCloud", refreshInterval := .int 60
    fleets := .list [.text "0:3:pool-a", .text "1:2:pool-b"] }

theorem regular_governmentConfig : governmentConfig.Regular where
  texts := by
    intro setting hs
    cases setting <;> first | exact ⟨_, rfl⟩ | exact absurd hs (by decide)
  interval := .inl ⟨60, rfl⟩
  fleets := ⟨["0:3:pool-a", "1:2:pool-b"], rfl⟩

theorem exists_opening_governmentConfig :
    ∃ o, (openManager .standard (.standard none) governmentConfig emptyTrace).1 = .ok o := by
  have hopened :
      (openManager .standard (.standard none) governmentConfig emptyTrace).1.isOk = true := by
    decide +kernel
  cases ho : (openManager .standard (.standard none) governmentConfig emptyTrace).1 with
  | error f =>
      rw [ho] at hopened
      cases hopened
  | ok o => exact ⟨o, rfl⟩

theorem openManager_of_check_governmentConfig :
    governmentConfig.Regular ∧ governmentConfig.check = .ok () ∧
    ∃ o specs, (openManager .standard (.standard none) governmentConfig emptyTrace).1 = .ok o ∧
      specs.length = 2 ∧ ∀ world : World Unit, (o.system world).IsNew (.int 60) specs := by
  have hcheck : governmentConfig.check = .ok () := by decide +kernel
  obtain ⟨cloud, -, q, names, specs, -, hq, hfleets, hread, -, -, -, -, hnew⟩ :=
    (openManager_of_check .standard (.standard none) regular_governmentConfig emptyTrace).2 hcheck
  obtain ⟨o, ho⟩ := exists_opening_governmentConfig
  obtain rfl : .int 60 = q := Except.ok.inj hq
  have hnames : names.length = 2 := by
    have hlist := congrArg List.length (Value.list.inj hfleets)
    rw [List.length_map] at hlist
    exact hlist.symm
  have hspecs : specs.length = names.length := by
    have hlength := congrArg List.length hread
    rw [List.length_map, List.length_map] at hlength
    exact hlength.symm
  exact ⟨regular_governmentConfig, hcheck, o, specs, ho, hspecs.trans hnames,
    fun world => hnew o ho world⟩

end Startup

end FleetWarden
