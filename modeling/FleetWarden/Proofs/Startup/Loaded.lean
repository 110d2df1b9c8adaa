import FleetWarden.Proofs.Config.Intervals

/-!
# Opening a loaded configuration

A configuration that was loaded, from a file or from an environment, passed its check, and what is
reported of it while a manager is opened can be told. So only the outside can refuse to open its
manager, by the credential or by the client.
-/

namespace FleetWarden

open Numeral

namespace FleetConfig

/-- What a manager needs of a configuration: it passes its check, and what is reported of it can be
told. -/
structure Openable (limits : Limits) (c : FleetConfig) : Prop where
  accepted : c.Accepted
  client : c.Told limits .clientId
  subscription : c.Told limits .subscriptionId
  group : c.Told limits .resourceGroup

end FleetConfig

namespace Storage
open FleetConfig
variable {c : FleetConfig} {st : Storage}

theorem openable_of_load {s : String} (h : (load s st).1 = .ok c) :
    c.Openable st.disk.host.limits := by
  obtain ⟨content, -, hcontent⟩ := holds_of_load h
  obtain ⟨table, -, hpairs, haccepted, hreported⟩ := ofContent_eq_ok_iff.1 hcontent
  obtain ⟨x, hx⟩ := exists_float_of_ofPairs hpairs
  constructor
  · exact haccepted
  · exact tellWithin_of_reported haccepted hx hreported (by decide)
  · exact tellWithin_of_reported haccepted hx hreported (by decide)
  · exact tellWithin_of_reported haccepted hx hreported (by decide)

theorem openable_of_loadEnvironment {environment : List (String × String)}
    (h : (loadEnvironment environment st).1 = .ok c) : c.Openable st.disk.host.limits := by
  rw [fst_loadEnvironment] at h
  have hkinds := wellTyped_of_ofEnvironment h
  obtain ⟨c', -, hcheck⟩ := except_bind_eq_ok_iff.1 h
  obtain ⟨hchecked, heq⟩ := except_then_eq_ok_iff.1 hcheck
  obtain rfl : c' = c := Except.ok.inj heq
  constructor
  · exact check_eq_ok_iff.1 hchecked
  · exact hkinds.exists_tellWithin (by decide) _ _
  · exact hkinds.exists_tellWithin (by decide) _ _
  · exact hkinds.exists_tellWithin (by decide) _ _

theorem openable_of_loadFrom {path : Option String} {environment : List (String × String)}
    (h : (loadFrom path environment st).1 = .ok c) : c.Openable st.disk.host.limits := by
  cases path with
  | none => exact openable_of_loadEnvironment h
  | some s =>
      rw [loadFrom] at h
      split_ifs at h
      · exact openable_of_loadEnvironment h
      · exact openable_of_load h

theorem host_loadFrom (path : Option String) (environment : List (String × String))
    (st : Storage) : (loadFrom path environment st).2.disk.host = st.disk.host := by
  have hnone : (loadEnvironment environment st).2.disk.host = st.disk.host :=
    congrArg Disk.host (keeps_loadEnvironment st.disk environment st rfl)
  cases path with
  | none => exact hnone
  | some s =>
      rw [loadFrom]
      split_ifs
      · exact hnone
      · exact host_load s st

end Storage

namespace Startup
variable {limits : Limits} {provider : CloudProvider} {c : FleetConfig} {t : StartupTrace}

/-- The faults that the outside has to answer for when a manager is opened. -/
inductive Outside (provider : CloudProvider) : StartupFault → Prop
  | credential (e : CredentialError) : Outside provider (.credential e)
  | client {args : ComputeArguments} {f : Fault} (h : provider.client args = some f) :
      Outside provider (.client f)

theorem outside_of_openingOf {cloud : CloudEndpoints} {q : Quantity} {specs : List FleetSpec}
    {f : StartupFault} (h : openingOf provider c cloud q specs = .error f) :
    Outside provider f := by
  rw [openingOf] at h
  split at h
  · cases h
    exact .credential _
  · split at h
    · next hclient =>
        cases h
        exact .client hclient
    · cases h

/-- The manager of a loaded configuration works on its resource group, and only the outside can
refuse to open it. -/
theorem openManager_of_openable (provider : CloudProvider) (hc : c.Openable limits)
    (t : StartupTrace) :
    (∀ o, (openManager limits provider c t).1 = .ok o → o.group = c.resourceGroup) ∧
      ∀ f, (openManager limits provider c t).1 = .error f → Outside provider f := by
  obtain ⟨cloud, hcloud⟩ := hc.accepted.cloud
  obtain ⟨q, hq, hpositive⟩ := atMostZero_eq_ok_iff.1 hc.accepted.interval
  obtain ⟨specs, hspecs⟩ := hc.accepted.fleets
  obtain ⟨log, hrun⟩ := ends_openManager provider hc.accepted hcloud hc.client hc.subscription
    hc.group hq hpositive hspecs t
  rw [hrun]
  constructor
  · intro o h
    obtain rfl := eq_of_openingOf h
    rfl
  · intro f h
    exact outside_of_openingOf h

end Startup
end FleetWarden
