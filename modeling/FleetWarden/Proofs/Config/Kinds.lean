import FleetWarden.Proofs.Config.Acceptance
import FleetWarden.Proofs.Config.BadFiles
import FleetWarden.Proofs.Pairs

/-!
# Kinds of settings

A configuration is well typed if all settings are texts, apart from the refresh interval, which is a
number, and the fleets, which are a list of texts. A source may give values of any kind, and only
the refresh interval is converted. The check compares the cloud with the known names and reads the
fleets; of the other settings it looks at nothing but whether they are set (`Accepted.set`), so
their values are accepted whatever kind they are of.
-/

namespace FleetWarden

namespace FleetConfig

/-- Every setting is of the kind that is asked for. -/
structure WellTyped (c : FleetConfig) : Prop extends Textual c where
  interval : ∃ x, c.refreshInterval = .float x

/-- The settings that a check takes for set or not set, and no more. -/
def uncheckedSettings : List Setting :=
  [.subscriptionId, .resourceGroup, .tenantId, .clientId, .clientSecret, .location]

section
variable {limits : Limits} {c : FleetConfig} {keys : KeyTable} {source : List (String × Value)}
  {setting : Setting} {key : String} {v : Value}

/-- Nothing of the right kind breaks a check off. -/
theorem WellTyped.check_ne_broke (h : c.WellTyped) (b : Breakdown) :
    c.check ≠ .error (.broke b) := by
  obtain ⟨x, hx⟩ := h.interval
  obtain ⟨names, hnames⟩ := h.fleets
  obtain ⟨cloud, hcloud⟩ := h.texts .cloud (by decide)
  change c.cloud = .text cloud at hcloud
  intro hbroke
  cases (check_eq_broke_iff hx).1 hbroke with
  | cloudNotKey _ hkey =>
      rw [hcloud] at hkey
      cases hkey
  | cloudUnwritable _ _ _ hwritable =>
      rw [hcloud] at hwritable
      cases hwritable
  | fleetsWithoutItems _ hfleets => exact hfleets _ (congrArg Value.elements hnames)
  | @fleetNotText _ before after v hfleets _ hv =>
      rw [hnames] at hfleets
      have hmem : v ∈ names.map Value.text := by
        rw [Except.ok.inj hfleets]
        simp
      obtain ⟨s, -, hs⟩ := List.mem_map.1 hmem
      exact hv s hs.symm

/-- Settings of the right kind are not deep. -/
theorem WellTyped.levels_le (h : c.WellTyped) (setting : Setting) : (c.get setting).levels ≤ 2 := by
  by_cases hplain : setting ∈ plainSettings
  · obtain ⟨s, hs⟩ := h.texts setting hplain
    rw [hs]
    exact Nat.le_succ 1
  · cases setting with
    | refreshInterval =>
        obtain ⟨x, hx⟩ := h.interval
        rw [get, hx]
        exact Nat.le_succ 1
    | fleets =>
        obtain ⟨names, hnames⟩ := h.fleets
        rw [get, hnames]
        refine Nat.succ_le_succ (Value.itemLevels_le fun v hv => ?_)
        obtain ⟨s, -, rfl⟩ := List.mem_map.1 hv
        exact Nat.le_refl 1
    | _ => exact absurd (by decide) hplain

theorem WellTyped.levels_masked (h : c.WellTyped) {masked : List (String × Value)}
    (hmasked : c.maskedEntries = .ok masked) : (Value.table masked).levels ≤ 3 := by
  obtain ⟨names, hnames⟩ := h.fleets
  have hitems : Value.list (names.map .text) = c.get .fleets := hnames.symm
  obtain ⟨shown, hentries, rfl⟩ := except_map_eq_ok_iff.1 hmasked
  obtain ⟨items, hfleets, hshown⟩ := except_bind_eq_ok_iff.1 hentries
  rw [hnames] at hfleets
  obtain rfl := Except.ok.inj hfleets
  obtain rfl := Except.ok.inj hshown
  have hoptional : ∀ p ∈ c.optionalEntries, p.2.levels ≤ 2 := by
    intro p hp
    have hp := List.mem_of_mem_filter hp
    simp only [List.mem_cons, List.not_mem_nil, or_false] at hp
    rcases hp with rfl | rfl | rfl
    · exact h.levels_le .tenantId
    · exact h.levels_le .clientId
    · exact h.levels_le .location
  have hshown : ∀ p ∈ [("cloud", c.cloud), ("subscriptionId", c.subscriptionId),
      ("resourceGroup", c.resourceGroup), ("refreshInterval", c.refreshInterval),
      ("fleets", .list (names.map .text))] ++ c.optionalEntries, p.2.levels ≤ 2 := by
    refine List.forall_mem_append.2 ⟨?_, hoptional⟩
    rw [hitems]
    simp only [List.forall_mem_cons, List.not_mem_nil, false_implies, forall_const, and_true]
    exact ⟨h.levels_le .cloud, h.levels_le .subscriptionId, h.levels_le .resourceGroup,
      h.levels_le .refreshInterval, h.levels_le .fleets⟩
  refine Nat.succ_le_succ (Value.entryLevels_le ?_)
  split_ifs
  · exact List.forall_mem_append.2 ⟨hshown, by simp [Value.levels]⟩
  · exact hshown

/-- A configuration of the right kinds can be reported if it is accepted. -/
theorem WellTyped.reported_of_accepted (h : c.WellTyped) (haccepted : c.Accepted) :
    Storage.reported limits c = .ok () := by
  obtain ⟨x, hx⟩ := h.interval
  have hplain : ∀ setting ∈ shownSettings, setting ∈ plainSettings := by decide
  have hsubscription : limits.overflow? .reporting c.subscriptionId = none :=
    limits.shallow _ _ (Nat.le_succ_of_le (h.levels_le .subscriptionId))
  cases hreported : Storage.reported limits c with
  | ok u => rfl
  | error f =>
      obtain ⟨b, -, hb⟩ := (reported_eq_error_iff haccepted hx).1 hreported
      cases hb with
      | subscriptionTooDeep hdeep => cases hsubscription.symm.trans hdeep
      | settingsTooDeep _ hmasked hdeep =>
          cases (limits.shallow _ _ (h.levels_masked hmasked)).symm.trans hdeep
      | subscriptionUnwritable _ hfalse =>
          cases hfalse.symm.trans (h.isWritable (hplain .subscriptionId (by decide)))
      | settingUnwritable _ _ _ hsetting hfalse =>
          cases hfalse.symm.trans (h.isWritable (hplain _ hsetting))

theorem Accepted.set (h : c.Accepted) (hsetting : setting ∈ uncheckedSettings)
    (hv : v.isTrue = (c.get setting).isTrue) : (c.set setting v).Accepted := by
  have hprincipal : (c.set setting v).usesServicePrincipal = true →
      (c.set setting v).tenantId.isTrue = true ∧ (c.set setting v).clientId.isTrue = true ∧
        (c.set setting v).clientSecret.isTrue = true := by
    have hold := h.servicePrincipal
    rw [usesServicePrincipal] at hold ⊢
    cases setting with
    | tenantId => exact hv ▸ hold
    | clientId => exact hv ▸ hold
    | clientSecret => exact hv ▸ hold
    | _ => exact hold
  cases setting with
  | subscriptionId =>
      exact ⟨⟨⟨h.resourceGroup, hv.trans h.subscriptionId⟩, h.cloud, hprincipal, h.interval⟩,
        h.fleets⟩
  | resourceGroup =>
      exact ⟨⟨⟨hv.trans h.resourceGroup, h.subscriptionId⟩, h.cloud, hprincipal, h.interval⟩,
        h.fleets⟩
  | tenantId | clientId | clientSecret | location =>
      exact ⟨⟨⟨h.resourceGroup, h.subscriptionId⟩, h.cloud, hprincipal, h.interval⟩, h.fleets⟩
  | cloud | refreshInterval | fleets => exact absurd hsetting (by decide)

/-- A further key puts its value last. -/
theorem given?_append_new (hkey : key ∉ source.map Prod.fst)
    (hsetting : keys.setting? key = some setting) (hv : v.isUnset = false) (other : Setting) :
    given? keys (source ++ [(key, v)]) other =
      if other = setting then some v else given? keys source other := by
  have hnew : key ∉ (InsertionMap.ofList source).pairs.map Prod.fst := by
    intro hmem
    have hkeys : key ∈ (InsertionMap.ofList source).keys := hmem
    rw [InsertionMap.keys_ofList, List.mem_eraseDups] at hkeys
    exact hkey hkeys
  have hpairs : (InsertionMap.ofList (source ++ [(key, v)])).pairs =
      (InsertionMap.ofList source).pairs ++ [(key, v)] := by
    rw [InsertionMap.ofList_append_singleton]
    exact putPair_of_not_mem hnew
  rw [given?, hpairs, lastSet?_append, ← given?]
  by_cases hother : other = setting
  · subst hother
    simp [lastSet?, hsetting, hv]
  · have hne : ¬setting = other := fun heq => hother heq.symm
    simp [lastSet?, hsetting, hother, hne]

theorem ofPairs_append_new (h : ofPairs limits keys source = .ok c)
    (hkey : key ∉ source.map Prod.fst) (hsetting : keys.setting? key = some setting)
    (hplain : setting ∈ plainSettings) (hv : v.isUnset = false) :
    ofPairs limits keys (source ++ [(key, v)]) = .ok (c.set setting v) := by
  rw [ofPairs_eq_ok_iff] at h ⊢
  intro other
  rw [given?_append_new hkey hsetting hv, get_set]
  by_cases hother : other = setting
  · subst hother
    rw [if_pos rfl, if_pos rfl, settled_of_plain hplain]
    rfl
  · rw [if_neg hother, if_neg hother]
    exact h other

theorem exists_texts {items : List Value} (h : ∀ v ∈ items, ∃ s, v = .text s) :
    ∃ names : List String, items = names.map .text := by
  induction items with
  | nil => exact ⟨[], rfl⟩
  | cons v items ih =>
      obtain ⟨⟨s, rfl⟩, hitems⟩ := List.forall_mem_cons.1 h
      obtain ⟨names, rfl⟩ := ih hitems
      exact ⟨s :: names, rfl⟩

theorem fleets_ne_text (h : ofPairs limits keys source = .ok c) (s : String) :
    c.fleets ≠ .text s := by
  have hfleets := ofPairs_eq_ok_iff.1 h .fleets
  change _ = Except.ok c.fleets at hfleets
  cases hgiven : given? keys source .fleets with
  | none =>
      rw [hgiven] at hfleets
      rw [← Except.ok.inj hfleets]
      exact nofun
  | some v =>
      rw [hgiven] at hfleets
      cases v <;>
        · rw [← Except.ok.inj hfleets]
          exact nofun

theorem fleets_of_accepted (h : ofPairs limits keys source = .ok c) (hc : c.Accepted) :
    (∃ names : List String, c.fleets = .list (names.map .text)) ∨
      ∃ entries, c.fleets = .table entries := by
  obtain ⟨fs, hfs⟩ := hc.fleets
  obtain ⟨items, hitems, hread⟩ := except_bind_eq_ok_iff.1 hfs
  cases hfleets : c.fleets with
  | list items' =>
      rw [hfleets] at hitems
      obtain rfl := Except.ok.inj hitems
      obtain ⟨names, rfl⟩ := exists_texts (eq_text_of_readFleets hread)
      exact .inl ⟨names, rfl⟩
  | table entries => exact .inr ⟨entries, rfl⟩
  | text s => exact absurd hfleets (fleets_ne_text h s)
  | _ =>
      rw [hfleets] at hitems
      cases hitems

/-- Of an accepted configuration, the cloud is one of the known names, the refresh interval is a
number and the fleets are texts. Any other setting may be of any kind: it is taken from the source
as it comes, and what counts as set is accepted as well as what is there. -/
theorem kinds_of_accepted (h : ofPairs limits keys source = .ok c) (hc : c.check = .ok ()) :
    (∃ e ∈ clouds, c.cloud = .text e.name) ∧ (∃ x, c.refreshInterval = .float x) ∧
      ((∃ names : List String, c.fleets = .list (names.map .text)) ∨
        ∃ entries, c.fleets = .table entries) ∧
      ∀ setting ∈ uncheckedSettings, ∀ v : Value,
        (v.isTrue = (c.get setting).isTrue → (c.set setting v).check = .ok ()) ∧
        ∀ key, keys.setting? key = some setting → key ∉ source.map Prod.fst → v.isUnset = false →
          ofPairs limits keys (source ++ [(key, v)]) = .ok (c.set setting v) := by
  have haccepted := check_eq_ok_iff.1 hc
  obtain ⟨found, hfound⟩ := haccepted.cloud
  obtain ⟨hcloud, hknown⟩ := eq_text_of_cloudNamed? hfound
  refine ⟨⟨found, hknown, hcloud⟩, exists_float_of_ofPairs h, fleets_of_accepted h haccepted,
    fun setting hsetting v => ⟨fun hv => check_eq_ok_iff.2 (haccepted.set hsetting hv), ?_⟩⟩
  intro key hkey hnew hv
  have hplain : setting ∈ plainSettings :=
    (by decide : ∀ setting ∈ uncheckedSettings, setting ∈ plainSettings) setting hsetting
  exact ofPairs_append_new h hnew hkey hplain hv

theorem kinds_of_accepted_required :
    ∃ c, ofPairs .standard fileKeys
        [("subscriptionId", .text "sub"), ("resourceGroup", .text "rg")] = .ok c ∧
      c.check = .ok () ∧ (∃ e ∈ clouds, c.cloud = .text e.name) ∧
      ofPairs .standard fileKeys [("subscriptionId", .text "sub"), ("resourceGroup", .text "rg"),
        ("location", .int 5)] = .ok (c.set .location (.int 5)) := by
  have h : ofPairs .standard fileKeys
      [("subscriptionId", .text "sub"), ("resourceGroup", .text "rg")] = .ok
      { default with subscriptionId := .text "sub", resourceGroup := .text "rg" } := rfl
  have hc : FleetConfig.check
      { default with subscriptionId := .text "sub", resourceGroup := .text "rg" } = .ok () := by
    decide +kernel
  obtain ⟨hcloud, -, -, hkinds⟩ := kinds_of_accepted h hc
  exact ⟨_, h, hc, hcloud,
    (hkinds .location (by decide) (.int 5)).2 "location" (by decide) (by decide) rfl⟩

/-- A whole number is accepted for the subscription. -/
theorem number_accepted_as_subscription :
    ∃ c, ofPairs .standard fileKeys
        [("subscriptionId", .int 5), ("resourceGroup", .text "rg")] = .ok c ∧
      c.check = .ok () ∧ c.subscriptionId = .int 5 ∧ ¬c.WellTyped := by
  refine ⟨{ default with subscriptionId := .int 5, resourceGroup := .text "rg" }, rfl,
    by decide +kernel, rfl, fun h => ?_⟩
  obtain ⟨s, hs⟩ := h.texts .subscriptionId (by decide)
  cases hs

end

end FleetConfig
end FleetWarden
