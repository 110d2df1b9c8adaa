import FleetWarden.Proofs.Config.RoundTrip
import FleetWarden.Proofs.Config.SecretSources
import FleetWarden.Proofs.Startup.Opening

/-!
# The client secret is unseen

Two runs that differ in nothing but the client secret look the same from outside: they show, write
and report the same, they end with the same fault, and they ask the provider for the same but for
the secret itself (`client_secret_unseen`). The provider is trusted to fail, or not to fail, without
regard to the secret.
-/

namespace FleetWarden

open FleetWarden.Action

/-- The service principal with its client secret behind a veil. -/
def ServicePrincipal.veiled (p : ServicePrincipal) : ServicePrincipal :=
  { p with clientSecret := p.clientSecret.veiled }

/-- Whether the provider fails for a service principal, and how, does not depend on its secret. -/
def IdentityProvider.IgnoresSecret (provider : IdentityProvider) : Prop :=
  ∀ p q : ServicePrincipal, p.veiled = q.veiled →
    provider.servicePrincipal p = provider.servicePrincipal q

theorem IdentityProvider.ignoresSecret_standard (cli : Option ErrorKind) :
    (standard cli).IgnoresSecret := by
  intro p q h
  have htenant : p.tenantId = q.tenantId := congrArg (·.tenantId) h
  exact congrArg tenantFault? htenant

/-- The same reports and the same requests, but for the client secret in them. -/
structure StartupTrace.Alike (t u : StartupTrace) : Prop where
  log : t.log = u.log
  requested : t.requested.map ServicePrincipal.veiled = u.requested.map ServicePrincipal.veiled
  compute : t.compute = u.compute

theorem StartupTrace.Alike.refl (t : StartupTrace) : t.Alike t := ⟨rfl, rfl, rfl⟩

namespace Startup
variable {c d : FleetConfig} {p q : ServicePrincipal}

section
variable {α : Type}

theorem endAlike_report (e : Event) :
    EndAlike StartupTrace.Alike (· = ·) (report e) (report e) :=
  endAlike_change fun _ _ h => ⟨congrArg (· ++ [e]) h.log, h.requested, h.compute⟩

theorem endAlike_configured (x : Except ConfigFault α) :
    EndAlike StartupTrace.Alike (· = ·) (configured x) (configured x) := by
  cases x with
  | error f => exact endAlike_fail _
  | ok a => exact endAlike_pure rfl

end

theorem endAlike_cliCredential (provider : IdentityProvider) :
    EndAlike StartupTrace.Alike (· = ·) (cliCredential provider) (cliCredential provider) := by
  apply (endAlike_report _).then
  intro _
  cases provider.cli with
  | some kind => exact endAlike_fail _
  | none => exact endAlike_pure rfl

theorem endAlike_requestPrincipal {provider : IdentityProvider} (h : p.veiled = q.veiled)
    (hprovider : provider.servicePrincipal p = provider.servicePrincipal q) :
    EndAlike StartupTrace.Alike (· = ·) (requestPrincipal provider p)
      (requestPrincipal provider q) := by
  have hchange : EndAlike StartupTrace.Alike (· = ·)
      (.change fun t => { t with requested := some p } : Act Unit)
      (.change fun t => { t with requested := some q }) :=
    endAlike_change fun _ _ hR => ⟨hR.log, congrArg some h, hR.compute⟩
  apply hchange.then
  intro _
  rw [hprovider]
  cases provider.servicePrincipal q with
  | some kind => exact endAlike_fail _
  | none => exact endAlike_pure rfl

theorem endAlike_requestClient (provider : CloudProvider) (args : ComputeArguments) :
    EndAlike StartupTrace.Alike (· = ·) (requestClient provider args)
      (requestClient provider args) := by
  apply EndAlike.then (endAlike_change fun _ _ hR => ⟨hR.log, hR.requested, rfl⟩)
  intro _
  cases provider.client args with
  | some f => exact endAlike_fail _
  | none => exact endAlike_pure rfl

theorem endAlike_createClient (limits : Limits) (provider : CloudProvider)
    (made : Option Credential) (subscription group : Value) (url : Option String) :
    EndAlike StartupTrace.Alike (· = ·) (createClient limits provider made subscription group url)
      (createClient limits provider made subscription group url) := by
  apply (endAlike_requestClient provider _).then
  intro _
  apply (endAlike_configured _).then
  intro shownSubscription
  apply (endAlike_configured _).then
  intro shownGroup
  exact endAlike_report _

theorem endAlike_makeLoop (c : FleetConfig) :
    EndAlike StartupTrace.Alike (· = ·) (makeLoop c) (makeLoop c) := by
  apply (endAlike_configured _).then
  intro interval
  cases RefreshLoop.make interval with
  | error e => exact endAlike_fail _
  | ok loop => exact endAlike_pure rfl

theorem endAlike_credential (limits : Limits) {provider : IdentityProvider}
    (hprovider : provider.IgnoresSecret) (h : c.veiled = d.veiled) :
    EndAlike StartupTrace.Alike (· = ·) (credential limits provider c)
      (credential limits provider d) := by
  have hsecret : c.clientSecret.veiled = d.clientSecret.veiled := congrArg (·.clientSecret) h
  have hset : c.clientSecret.isTrue = d.clientSecret.isTrue := by
    rw [← Value.isTrue_veiled, hsecret, Value.isTrue_veiled]
  have htenant : c.tenantId = d.tenantId := congrArg (·.tenantId) h
  have hclient : c.clientId = d.clientId := congrArg (·.clientId) h
  have huses : c.usesServicePrincipal = d.usesServicePrincipal := by
    rw [FleetConfig.usesServicePrincipal, htenant, hclient, hset]
    rfl
  have hendpoints : c.endpoints = d.endpoints := congrArg (·.endpoints) h
  rw [credential, credential, huses]
  split_ifs
  · rw [principalCredential, principalCredential, htenant, hclient, hset, hendpoints]
    split_ifs
    · cases d.endpoints with
      | error f => exact endAlike_fail _
      | ok cloud =>
          have hveiled : ServicePrincipal.veiled
              ⟨d.tenantId, d.clientId, c.clientSecret, cloud.authority⟩ =
              ServicePrincipal.veiled ⟨d.tenantId, d.clientId, d.clientSecret, cloud.authority⟩ :=
            congrArg (ServicePrincipal.mk _ _ · _) hsecret
          apply (endAlike_requestPrincipal hveiled (hprovider _ _ hveiled)).then
          intro _
          apply (endAlike_configured _).then
          intro shown
          apply (endAlike_report _).then
          intro _
          exact endAlike_pure rfl
    · exact endAlike_fail _
  · exact endAlike_cliCredential provider

theorem endAlike_openManager (limits : Limits) {provider : CloudProvider}
    (hprovider : provider.toIdentityProvider.IgnoresSecret) (h : c.veiled = d.veiled) :
    EndAlike StartupTrace.Alike (· = ·) (openManager limits provider c)
      (openManager limits provider d) := by
  have hendpoints : c.endpoints = d.endpoints := congrArg (·.endpoints) h
  have hsubscription : c.subscriptionId = d.subscriptionId := congrArg (·.subscriptionId) h
  have hgroup : c.resourceGroup = d.resourceGroup := congrArg (·.resourceGroup) h
  have hinterval : c.refreshInterval = d.refreshInterval := congrArg (·.refreshInterval) h
  have hloop : makeLoop c = makeLoop d := by rw [makeLoop, makeLoop, hinterval]
  have hdescriptors : c.descriptors = d.descriptors := congrArg (·.descriptors) h
  rw [openManager, openManager, FleetConfig.check_eq_of_veiled_eq h, hendpoints, hsubscription,
    hgroup, hloop, hdescriptors]
  apply (endAlike_configured _).then
  intro _
  apply (endAlike_credential limits hprovider h).then
  intro made
  apply (endAlike_configured _).then
  intro cloud
  apply (endAlike_createClient limits provider _ _ _ _).then
  intro _
  apply (endAlike_makeLoop d).then
  intro loop
  apply (endAlike_configured _).then
  intro specs
  exact endAlike_pure rfl

/-- Two configurations, sources or environments that differ in nothing but a client secret that is
set in both look the same, as long as the provider does: what is shown, checked and saved of the
configurations is the same; the credential and the manager for them are made, or refused, with the
same reports, faults and requests but for the secret; and so are they loaded. Whatever limits there
are, they are met in both. -/
theorem client_secret_unseen (provider : CloudProvider)
    (hprovider : provider.toIdentityProvider.IgnoresSecret) :
    (∀ c d : FleetConfig, c.veiled = d.veiled →
      c.entries = d.entries ∧ c.maskedEntries = d.maskedEntries ∧ c.check = d.check ∧
      (∀ path, Storage.save c path = Storage.save d path) ∧
      ∀ limits,
        EndAlike StartupTrace.Alike (· = ·) (credential limits provider.toIdentityProvider c)
          (credential limits provider.toIdentityProvider d) ∧
        EndAlike StartupTrace.Alike (· = ·) (openManager limits provider c)
          (openManager limits provider d)) ∧
    (∀ limits path, EndAlike (Storage.Alike limits) (fun c d => c.veiled = d.veiled)
      (Storage.load path) (Storage.load path)) ∧
    ∀ limits e f, FleetConfig.EnvironmentsAlike e f →
      EndAlike (Storage.Alike limits) (fun c d => c.veiled = d.veiled) (Storage.loadEnvironment e)
        (Storage.loadEnvironment f) := by
  refine ⟨?_, fun limits => Storage.endAlike_load, ?_⟩
  · intro c d h
    exact ⟨FleetConfig.entries_eq_of_veiled_eq h, FleetConfig.maskedEntries_eq_of_veiled_eq h,
      FleetConfig.check_eq_of_veiled_eq h, Storage.save_eq_of_veiled_eq h, fun limits =>
        ⟨endAlike_credential limits hprovider h, endAlike_openManager limits hprovider h⟩⟩
  · intro limits e f h
    exact Storage.endAlike_loadEnvironment h

/-- The configuration with another client secret. -/
def rotatedConfig : FleetConfig := { governmentConfig with clientSecret := .text "rotated" }

/-- An environment with a service principal. -/
def principalEnvironment (secret : String) : List (String × String) :=
  [("ARM_CLIENT_SECRET", secret), ("ARM_SUBSCRIPTION_ID", "sub"), ("ARM_RESOURCE_GROUP", "rg"),
   ("ARM_TENANT_ID", "tenant"), ("ARM_CLIENT_ID", "client")]

/-- The pairs of a document with a service principal. -/
def principalPairs (secret : String) : List (String × Value) :=
  [("subscriptionId", .text "sub"), ("resourceGroup", .text "rg"), ("tenantId", .text "tenant"),
   ("aadClientId", .text "client"), ("aadClientSecret", .text secret)]

theorem exists_parse_principalPairs (secret : String) :
    ∃ content, Storage.parse .standard content = .ok (principalPairs secret) := by
  have hkeys : ((principalPairs secret).map Prod.fst).Nodup := by simp [principalPairs]
  have hplain : ∀ p ∈ principalPairs secret, Toml.isPlain p.2 = true := by
    simp [principalPairs, Toml.isPlain, Toml.isSimple]
  obtain ⟨cs, -, hread⟩ := Toml.read_document .standard hkeys hplain
  exact ⟨_, Storage.parse_toUTF8 hread⟩

theorem environmentsAlike_principalEnvironment {secret secret' : String} (h : secret ≠ "")
    (h' : secret' ≠ "") : FleetConfig.EnvironmentsAlike (principalEnvironment secret)
      (principalEnvironment secret') := by
  intro key
  by_cases hkey : key = "ARM_CLIENT_SECRET"
  · subst hkey
    exact .inr ⟨rfl, secret, secret', h, h', rfl, rfl⟩
  · have hother : ∀ s, (principalEnvironment s).lookup key =
        (principalEnvironment s).tail.lookup key := fun s => lookup_cons_of_key_ne s _ hkey
    exact .inl ((hother secret).trans (hother secret').symm)

theorem alike_soleFile {a b : ByteArray} (h : ContentsAlike .standard a b) :
    (Storage.soleFile a).Alike .standard (Storage.soleFile b) where
  disk := (Disk.Alike.refl Storage.empty.disk).put ["conf.toml"] (.file h Storage.ownerOnly)
  log := rfl
  limits := rfl

theorem client_secret_unseen_rotated :
    (IdentityProvider.standard none).IgnoresSecret ∧
    governmentConfig.clientSecret ≠ rotatedConfig.clientSecret ∧
    (∀ path, Storage.save governmentConfig path = Storage.save rotatedConfig path) ∧
    (openManager .standard (.standard none) governmentConfig emptyTrace).2.log =
      (openManager .standard (.standard none) rotatedConfig emptyTrace).2.log ∧
    (Storage.loadEnvironment (principalEnvironment "first") Storage.empty).2.log =
      (Storage.loadEnvironment (principalEnvironment "second") Storage.empty).2.log ∧
    ∃ a b, Storage.parse .standard a = .ok (principalPairs "first") ∧
      Storage.parse .standard b = .ok (principalPairs "second") ∧
      (Storage.load "conf.toml" (Storage.soleFile a)).2.log =
        (Storage.load "conf.toml" (Storage.soleFile b)).2.log := by
  have hprovider := IdentityProvider.ignoresSecret_standard none
  obtain ⟨hconfig, hload, henvironment⟩ := client_secret_unseen (.standard none) hprovider
  obtain ⟨-, -, -, hsave, hlimits⟩ := hconfig governmentConfig rotatedConfig rfl
  obtain ⟨-, hopen⟩ := hlimits .standard
  obtain ⟨a, ha⟩ := exists_parse_principalPairs "first"
  obtain ⟨b, hb⟩ := exists_parse_principalPairs "second"
  have hfiles : ContentsAlike .standard a b := .inr ⟨_, _, ha, hb, rfl⟩
  have hvariables := environmentsAlike_principalEnvironment
    (by decide : "first" ≠ "") (by decide : "second" ≠ "")
  have hother : governmentConfig.clientSecret ≠ rotatedConfig.clientSecret := by
    simp [governmentConfig, rotatedConfig]
  refine ⟨hprovider, hother, hsave, (hopen _ _ (.refl _)).2.log,
    (henvironment _ _ _ hvariables _ _ (.refl _)).2.log, a, b, ha, hb, ?_⟩
  exact (hload _ "conf.toml" _ _ (alike_soleFile hfiles)).2.log

end Startup
end FleetWarden
