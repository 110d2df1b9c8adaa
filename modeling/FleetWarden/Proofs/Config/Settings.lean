import FleetWarden.Config.Sources
import FleetWarden.Proofs.Membership.Sightings
import FleetWarden.Proofs.Outcome

/-!
# Settings one by one

A configuration is known by its nine settings. Each setting is taken on its own from the pairs of a
source: from the last pair that sets it, or else by default. Only the refresh interval and the
fleets are converted on the way; `ofPairs_eq_ok_iff` puts all of this into one equation for each
setting.
-/

namespace FleetWarden

open Text Numeral

namespace FleetConfig

/-- The value of a setting. -/
def get (c : FleetConfig) : Setting → Value
  | .subscriptionId => c.subscriptionId
  | .resourceGroup => c.resourceGroup
  | .tenantId => c.tenantId
  | .clientId => c.clientId
  | .clientSecret => c.clientSecret
  | .cloud => c.cloud
  | .location => c.location
  | .refreshInterval => c.refreshInterval
  | .fleets => c.fleets

theorem get_set (c : FleetConfig) (setting other : Setting) (v : Value) :
    (c.set setting v).get other = if other = setting then v else c.get other := by
  cases setting <;> cases other <;> rfl

theorem ext_get {c d : FleetConfig} (h : ∀ setting, c.get setting = d.get setting) : c = d := by
  obtain ⟨⟩ := c
  obtain ⟨⟩ := d
  simp only [FleetConfig.mk.injEq]
  exact ⟨h .subscriptionId, h .resourceGroup, h .tenantId, h .clientId, h .clientSecret, h .cloud,
    h .location, h .refreshInterval, h .fleets⟩

section
variable (keys : KeyTable) (pairs : List (String × Value))

theorem get_takeSetting (c : FleetConfig) (setting other : Setting) :
    (takeSetting keys pairs c setting).get other =
      if other = setting then (lastSet? keys setting pairs).getD (c.get other)
      else c.get other := by
  rw [takeSetting]
  cases lastSet? keys setting pairs with
  | none => simp
  | some v => simp [get_set]

theorem get_foldl_takeSetting (settings : List Setting) (c : FleetConfig) (other : Setting) :
    (settings.foldl (takeSetting keys pairs) c).get other =
      if other ∈ settings then (lastSet? keys other pairs).getD (c.get other)
      else c.get other := by
  induction settings generalizing c with
  | nil => simp
  | cons setting rest ih =>
      rw [List.foldl_cons, ih, get_takeSetting]
      by_cases h : other = setting
      · subst h
        by_cases hr : other ∈ rest <;> cases lastSet? keys other pairs <;> simp [hr]
      · simp [h]

end

theorem lastSet?_append (keys : KeyTable) (setting : Setting) (xs ys : List (String × Value)) :
    lastSet? keys setting (xs ++ ys) =
      (lastSet? keys setting ys).or (lastSet? keys setting xs) := by
  rw [lastSet?, lastSet?, lastSet?, List.filter_append, List.getLast?_append, Option.map_or]

section
variable {keys : KeyTable} {setting : Setting}

theorem lastSet?_eq_none_iff {pairs : List (String × Value)} :
    lastSet? keys setting pairs = none ↔
      ∀ p ∈ pairs, keys.setting? p.1 = some setting → p.2.isUnset = true := by
  simp [lastSet?]

theorem exists_mem_of_lastSet? {pairs : List (String × Value)} {v : Value}
    (h : lastSet? keys setting pairs = some v) :
    ∃ p ∈ pairs, keys.setting? p.1 = some setting ∧ p.2.isUnset = false ∧ p.2 = v := by
  obtain ⟨p, hp, rfl⟩ := Option.map_eq_some_iff.1 h
  obtain ⟨hmem, hset⟩ := List.mem_filter.1 (List.mem_of_getLast? hp)
  rw [Bool.and_eq_true, decide_eq_true_iff, Bool.not_eq_true'] at hset
  exact ⟨p, hmem, hset.1, hset.2, rfl⟩

/-- Only the pairs that set the setting matter. -/
theorem lastSet?_filter {p : String × Value → Bool} {pairs : List (String × Value)}
    (h : ∀ q ∈ pairs, keys.setting? q.1 = some setting → q.2.isUnset = false → p q = true) :
    lastSet? keys setting (pairs.filter p) = lastSet? keys setting pairs := by
  have hfilter : ∀ q ∈ pairs, (decide (keys.setting? q.1 = some setting) && !q.2.isUnset && p q) =
      (decide (keys.setting? q.1 = some setting) && !q.2.isUnset) := by
    intro q hq
    by_cases hkey : keys.setting? q.1 = some setting
    · by_cases hset : q.2.isUnset = false
      · simp [h q hq hkey hset]
      · simp [hset]
    · simp [hkey]
  rw [lastSet?, lastSet?, List.filter_filter, List.filter_congr hfilter]

theorem lastSet?_map {g : String × Value → String × Value} {pairs : List (String × Value)}
    (hkey : ∀ q, (g q).1 = q.1)
    (h : ∀ q ∈ pairs, keys.setting? q.1 = some setting → g q = q) :
    lastSet? keys setting (pairs.map g) = lastSet? keys setting pairs := by
  induction pairs using List.reverseRecOn with
  | nil => rfl
  | append_singleton pairs q ih =>
      have hlast : lastSet? keys setting [g q] = lastSet? keys setting [q] := by
        by_cases hq : keys.setting? q.1 = some setting
        · rw [h q (by simp) hq]
        · simp [lastSet?, hkey, hq]
      rw [List.map_append, lastSet?_append, lastSet?_append, List.map_singleton, hlast,
        ih fun q' hq' => h q' (List.mem_append_left _ hq')]

end

/-- What becomes of the value that a source gives for a setting. -/
def settled (limits : Limits) : Setting → Option Value → Except ConfigFault Value
  | .refreshInterval, some v => (seconds limits v).map .float
  | .fleets, some (.text s) => .ok (.list (fleetList s))
  | setting, v? => .ok (v?.getD (default.get setting))

variable {limits : Limits} {keys : KeyTable} {source : List (String × Value)} {c : FleetConfig}

theorem settled_of_plain {setting : Setting} (h : setting ∈ plainSettings) (v? : Option Value) :
    settled limits setting v? = .ok (v?.getD (default.get setting)) := by
  cases setting <;> first | rfl | exact absurd h (by decide)

theorem settled_fleets (keys : KeyTable) (pairs : List (String × Value)) :
    settled limits .fleets (lastSet? keys .fleets pairs) = .ok (fleetsFrom keys pairs) := by
  rw [fleetsFrom]
  cases lastSet? keys .fleets pairs with
  | none => rfl
  | some v => cases v <;> rfl

theorem settled_refreshInterval (keys : KeyTable) (pairs : List (String × Value)) :
    settled limits .refreshInterval (lastSet? keys .refreshInterval pairs) =
      intervalFrom limits keys pairs := by
  rw [intervalFrom]
  cases lastSet? keys .refreshInterval pairs <;> rfl

/-- The value of the last pair of a source that sets a setting, a repeated key counting once. -/
def given? (keys : KeyTable) (source : List (String × Value)) (setting : Setting) : Option Value :=
  lastSet? keys setting (InsertionMap.ofList source).pairs

theorem get_of_plain {setting : Setting} (h : setting ∈ plainSettings) (interval fleets : Value) :
    ({ plainSettings.foldl (takeSetting keys (InsertionMap.ofList source).pairs) default with
        refreshInterval := interval, fleets := fleets } : FleetConfig).get setting =
      (given? keys source setting).getD (default.get setting) := by
  have hget := get_foldl_takeSetting keys (InsertionMap.ofList source).pairs plainSettings default
    setting
  rw [if_pos h] at hget
  rw [given?, ← hget]
  cases setting <;> first | rfl | exact absurd h (by decide)

/-- Every setting comes from the last pair that sets it. -/
theorem ofPairs_eq_ok_iff :
    ofPairs limits keys source = .ok c ↔
      ∀ setting, settled limits setting (given? keys source setting) = .ok (c.get setting) := by
  rw [ofPairs, except_bind_eq_ok_iff]
  constructor
  · rintro ⟨interval, hinterval, hc⟩ setting
    cases hc
    by_cases h : setting ∈ plainSettings
    · rw [settled_of_plain h, get_of_plain h]
    · cases setting with
      | refreshInterval => rw [given?, settled_refreshInterval, hinterval]; rfl
      | fleets => rw [given?, settled_fleets]; rfl
      | _ => exact absurd (by decide) h
  · intro h
    refine ⟨c.refreshInterval, ?_, ?_⟩
    · have hinterval := h .refreshInterval
      rwa [given?, settled_refreshInterval] at hinterval
    · refine congrArg Except.ok (ext_get fun setting => ?_)
      by_cases hs : setting ∈ plainSettings
      · rw [get_of_plain hs]
        have hsetting := h setting
        rw [settled_of_plain hs] at hsetting
        exact Except.ok.inj hsetting
      · cases setting with
        | refreshInterval => rfl
        | fleets =>
            have hfleets := h .fleets
            rw [given?, settled_fleets] at hfleets
            exact Except.ok.inj hfleets
        | _ => exact absurd (by decide) hs

/-- A source is refused or broken off for its refresh interval only. -/
theorem ofPairs_eq_error_iff {f : ConfigFault} :
    ofPairs limits keys source = .error f ↔
      settled limits .refreshInterval (given? keys source .refreshInterval) = .error f := by
  rw [ofPairs, except_bind_eq_error_iff, ← settled_refreshInterval, ← given?]
  constructor
  · rintro (h | ⟨_, -, h⟩)
    · exact h
    · cases h
  · exact Or.inl

/-- What comes of a source depends on nothing but what each setting is settled as. -/
theorem ofPairs_congr {limits' : Limits} {keys' : KeyTable} {source' : List (String × Value)}
    (h : ∀ setting, settled limits setting (given? keys source setting) =
      settled limits' setting (given? keys' source' setting)) :
    ofPairs limits keys source = ofPairs limits' keys' source' := by
  cases hsource : ofPairs limits keys source with
  | error f =>
      rw [ofPairs_eq_error_iff, h] at hsource
      exact (ofPairs_eq_error_iff.2 hsource).symm
  | ok c =>
      simp only [ofPairs_eq_ok_iff, h] at hsource
      exact (ofPairs_eq_ok_iff.2 hsource).symm

end FleetConfig
end FleetWarden
