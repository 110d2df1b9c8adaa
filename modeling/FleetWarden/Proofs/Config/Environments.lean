import FleetWarden.Proofs.Config.RoundTrip

/-!
# Environments and files

An environment comes to the same as a file that holds its recognised variables as texts: the same
configuration or the same refusal (`environment_loads_as_file`). Both are sources that give each
setting the value of one variable, if that is set and not empty, and nothing else of a source
matters. Texts never break anything off, so an environment is read or refused in plain words.
-/

namespace FleetWarden

namespace FleetConfig

/-- The value of a variable, unless it is empty. -/
def valueOf? (environment : List (String × String)) (name : String) : Option String :=
  (environment.lookup name).filter (· ≠ "")

/-- The pairs of a file that holds the recognised variables of an environment. -/
def environmentTable (environment : List (String × String)) : Toml.Table :=
  environmentKeys.filterMap fun row =>
    (environment.lookup row.1).map fun s => (savedKey row.2, .text s)

section
variable {limits : Limits} {keys : KeyTable} {environment : List (String × String)}
variable {setting : Setting} {source : List (String × Value)} {key : String × Setting → String}
variable {v : Value}

theorem valueOf?_eq_some_iff {name s : String} :
    valueOf? environment name = some s ↔ environment.lookup name = some s ∧ s ≠ "" := by
  simp [valueOf?, Option.filter_eq_some_iff]

theorem environmentPairs_eq (environment : List (String × String)) :
    environmentPairs environment = environmentKeys.filterMap fun row =>
      (valueOf? environment row.1).map fun s => (row.1, .text s) := by
  refine List.filterMap_congr fun ⟨name, setting⟩ _ => ?_
  dsimp only [valueOf?]
  cases environment.lookup name with
  | none => rfl
  | some s => by_cases hs : s = "" <;> simp [hs]

theorem keys_filterMap {α β γ : Type} (rows : List α) (value? : α → Option β) (key : α → String)
    (f : β → γ) : ((rows.filterMap fun row => (value? row).map fun b => (key row, f b)).map
      Prod.fst).Sublist (rows.map key) := by
  induction rows with
  | nil => exact .slnil
  | cons row rows ih =>
      cases h : value? row with
      | none => simpa [h] using ih.cons (key row)
      | some b => simpa [h] using ih.cons_cons (key row)

/-- Each variable that is set and not empty stands in the source once, under its key, and nothing
else that is set does. -/
structure HoldsVariables (keys : KeyTable) (key : String × Setting → String)
    (environment : List (String × String)) (source : List (String × Value)) : Prop where
  nodup : (source.map Prod.fst).Nodup
  setting : ∀ row ∈ environmentKeys, keys.setting? (key row) = some row.2
  mem_iff : ∀ p : String × Value, p ∈ source ∧ p.2.isUnset = false ↔
    ∃ row ∈ environmentKeys, ∃ s, valueOf? environment row.1 = some s ∧ p = (key row, .text s)

namespace HoldsVariables

theorem exists_row_of_given? (h : HoldsVariables keys key environment source)
    (hgiven : given? keys source setting = some v) : ∃ row ∈ environmentKeys, row.2 = setting ∧
      ∃ s, valueOf? environment row.1 = some s ∧ v = .text s := by
  rw [given?, pairs_ofList h.nodup] at hgiven
  obtain ⟨p, hp, hkey, hset, rfl⟩ := exists_mem_of_lastSet? hgiven
  obtain ⟨row, hrow, s, hs, rfl⟩ := (h.mem_iff p).1 ⟨hp, hset⟩
  exact ⟨row, hrow, Option.some.inj ((h.setting row hrow).symm.trans hkey), s, hs, rfl⟩

/-- What the source gives for a setting is the value of its variable. -/
theorem given?_eq_some_iff (h : HoldsVariables keys key environment source) :
    given? keys source setting = some v ↔ ∃ row ∈ environmentKeys, row.2 = setting ∧
      ∃ s, valueOf? environment row.1 = some s ∧ v = .text s := by
  refine ⟨h.exists_row_of_given?, ?_⟩
  rintro ⟨row, hrow, rfl, s, hs, rfl⟩
  obtain ⟨hmem, hset⟩ := (h.mem_iff _).2 ⟨row, hrow, s, hs, rfl⟩
  cases hgiven : given? keys source row.2 with
  | none =>
      rw [given?, pairs_ofList h.nodup] at hgiven
      rw [lastSet?_eq_none_iff.1 hgiven _ hmem (h.setting row hrow)] at hset
      cases hset
  | some v =>
      obtain ⟨row', hrow', hsame, s', hs', rfl⟩ := h.exists_row_of_given? hgiven
      -- each setting has one variable
      have hone : ∀ row ∈ environmentKeys, ∀ row' ∈ environmentKeys, row'.2 = row.2 →
          row' = row := by decide
      obtain rfl := hone row hrow row' hrow' hsame
      rw [Option.some.inj (hs'.symm.trans hs)]

theorem exists_text (h : HoldsVariables keys key environment source)
    (hgiven : given? keys source setting = some v) : ∃ s, v = .text s := by
  obtain ⟨-, -, -, s, -, hv⟩ := h.exists_row_of_given? hgiven
  exact ⟨s, hv⟩

end HoldsVariables

theorem holdsVariables_environmentPairs (environment : List (String × String)) :
    HoldsVariables environmentKeys Prod.fst environment (environmentPairs environment) where
  nodup := by
    rw [environmentPairs_eq]
    exact (by decide : (environmentKeys.map Prod.fst).Nodup).sublist (keys_filterMap ..)
  setting := by decide
  mem_iff p := by
    simp only [environmentPairs_eq, List.mem_filterMap, Option.map_eq_some_iff]
    constructor
    · rintro ⟨⟨row, hrow, s, hs, rfl⟩, -⟩
      exact ⟨row, hrow, s, hs, rfl⟩
    · rintro ⟨row, hrow, s, hs, rfl⟩
      exact ⟨⟨row, hrow, s, hs, rfl⟩, decide_eq_false (valueOf?_eq_some_iff.1 hs).2⟩

theorem keys_environmentTable (environment : List (String × String)) :
    ((environmentTable environment).map Prod.fst).Sublist
      (environmentKeys.map fun row => savedKey row.2) :=
  keys_filterMap ..

theorem nodup_environmentTable (environment : List (String × String)) :
    ((environmentTable environment).map Prod.fst).Nodup :=
  (by decide : (environmentKeys.map fun row => savedKey row.2).Nodup).sublist
    (keys_environmentTable environment)

section
variable {table : Toml.Table} (hperm : table.Perm (environmentTable environment))
include hperm

theorem holdsVariables_table :
    HoldsVariables fileKeys (fun row => savedKey row.2) environment table where
  nodup := (hperm.map _).nodup_iff.2 (nodup_environmentTable environment)
  setting row _ := setting?_savedKey row.2
  mem_iff p := by
    simp only [hperm.mem_iff, environmentTable, List.mem_filterMap, Option.map_eq_some_iff,
      valueOf?_eq_some_iff]
    constructor
    · rintro ⟨⟨row, hrow, s, hs, rfl⟩, hset⟩
      exact ⟨row, hrow, s, ⟨hs, of_decide_eq_false hset⟩, rfl⟩
    · rintro ⟨row, hrow, s, ⟨hs, hne⟩, rfl⟩
      exact ⟨⟨row, hrow, s, hs, rfl⟩, decide_eq_false hne⟩

theorem documentPairs_table : documentPairs table = table := by
  have hglobal : table.lookup "global" = none := by
    refine lookup_eq_none_iff_not_mem.2 fun hmem => ?_
    have hkey := (keys_environmentTable environment).subset ((hperm.map _).subset hmem)
    exact absurd hkey (by decide)
  rw [documentPairs, hglobal]

theorem exists_text_of_table (limits : Limits) : ∃ text, Toml.read limits text = .ok table := by
  have hplain : ∀ p ∈ table, Toml.isPlain p.2 = true := by
    intro p hp
    obtain ⟨row, -, hrow⟩ := List.mem_filterMap.1 (hperm.subset hp)
    obtain ⟨s, -, rfl⟩ := Option.map_eq_some_iff.1 hrow
    rfl
  obtain ⟨cs, -, hread⟩ :=
    Toml.read_document limits (holdsVariables_table hperm).nodup hplain
  exact ⟨_, hread⟩

end

namespace HoldsVariables

/-- Texts are settled alike under all limits. -/
theorem ofPairs_eq {keys' : KeyTable} {key' : String × Setting → String}
    {source' : List (String × Value)} (h : HoldsVariables keys key environment source)
    (h' : HoldsVariables keys' key' environment source') (limits limits' : Limits) :
    ofPairs limits keys source = ofPairs limits' keys' source' := by
  refine ofPairs_congr fun setting => ?_
  have hsame : given? keys source setting = given? keys' source' setting :=
    Option.ext fun _ => h.given?_eq_some_iff.trans h'.given?_eq_some_iff.symm
  rw [← hsame]
  cases hgiven : given? keys source setting with
  | none => cases setting <;> rfl
  | some v =>
      obtain ⟨s, rfl⟩ := h.exists_text hgiven
      cases setting <;> rfl

theorem ofPairs_ne_broke (h : HoldsVariables keys key environment source) (b : Breakdown) :
    ofPairs limits keys source ≠ .error (.broke b) := by
  intro hbroke
  obtain ⟨v, hgiven, hv⟩ := ofPairs_eq_broke_iff.1 hbroke
  obtain ⟨s, rfl⟩ := h.exists_text hgiven
  have hshallow := limits.shallow .refusing (.text s) (by simp [Value.levels])
  obtain ⟨n, hn, -⟩ | ⟨said, hdeep, -⟩ | ⟨-, -, hwritable, -⟩ := seconds_eq_broke_iff.1 hv
  · cases hn
  · cases hshallow.symm.trans hdeep
  · cases hwritable

theorem wellTyped (h : HoldsVariables keys key environment source) {c : FleetConfig}
    (hc : ofPairs limits keys source = .ok c) : c.WellTyped := by
  rw [ofPairs_eq_ok_iff] at hc
  refine ⟨⟨fun setting hplain => ?_, ?_⟩, exists_float_of_ofPairs (ofPairs_eq_ok_iff.2 hc)⟩
  · have hsetting := hc setting
    rw [settled_of_plain hplain] at hsetting
    rw [← Except.ok.inj hsetting]
    cases hgiven : given? keys source setting with
    | some v => exact h.exists_text hgiven
    | none =>
        cases setting with
        | refreshInterval | fleets => exact absurd hplain (by decide)
        | _ => exact ⟨_, rfl⟩
  · have hfleets := hc .fleets
    cases hgiven : given? keys source .fleets with
    | none =>
        rw [hgiven] at hfleets
        exact ⟨[], (Except.ok.inj hfleets).symm⟩
    | some v =>
        obtain ⟨s, rfl⟩ := h.exists_text hgiven
        rw [hgiven] at hfleets
        exact ⟨_, (Except.ok.inj hfleets).symm⟩

end HoldsVariables

/-- An environment is read or refused in plain words. -/
theorem exists_refused_of_ofEnvironment {f : ConfigFault}
    (h : ofEnvironment limits environment = .error f) : ∃ e, f = .refused e := by
  have hholds := holdsVariables_environmentPairs environment
  cases f with
  | refused e => exact ⟨e, rfl⟩
  | broke b =>
      exfalso
      rcases except_bind_eq_error_iff.1 h with hpairs | ⟨c, hc, hrest⟩
      · exact hholds.ofPairs_ne_broke b hpairs
      · rcases except_then_eq_error_iff.1 hrest with hcheck | ⟨-, hok⟩
        · exact (hholds.wellTyped hc).check_ne_broke b hcheck
        · cases hok

theorem wellTyped_of_ofEnvironment {c : FleetConfig}
    (h : ofEnvironment limits environment = .ok c) : c.WellTyped := by
  obtain ⟨c', hc', hrest⟩ := except_bind_eq_ok_iff.1 h
  obtain ⟨-, hsame⟩ := except_then_eq_ok_iff.1 hrest
  obtain rfl : c' = c := Except.ok.inj hsame
  exact (holdsVariables_environmentPairs environment).wellTyped hc'

end
end FleetConfig

namespace Storage

open FleetConfig

variable {limits : Limits} {environment : List (String × String)}

theorem loadEnvironment_eq (environment : List (String × String)) (st : Storage) :
    loadEnvironment environment st = (do
      let c ← given (ofEnvironment st.disk.host.limits environment)
      let subscription ← given (c.subscriptionId.tellWithin st.disk.host.limits .reporting)
      report (.configRead subscription)
      pure c) st := rfl

theorem keeps_loadEnvironment (d : Disk) (environment : List (String × String)) :
    Action.Keeps (fun st => st.disk = d) (loadEnvironment environment) := by
  refine (Action.keeps_look _).bind fun limits => (Action.keeps_ofExcept _).bind fun c => ?_
  refine (Action.keeps_ofExcept _).bind fun subscription => ?_
  exact (keeps_report d _).bind fun _ => Action.keeps_pure _

/-- What is reported of an environment can always be written. -/
theorem fst_loadEnvironment (environment : List (String × String)) (st : Storage) :
    (loadEnvironment environment st).1 = ofEnvironment st.disk.host.limits environment := by
  rw [loadEnvironment_eq]
  simp only [fst_given_bind, fst_report_bind]
  cases h : ofEnvironment st.disk.host.limits environment with
  | error f => rfl
  | ok c =>
      obtain ⟨shown, hshown⟩ := (wellTyped_of_ofEnvironment h).exists_tellWithin
        (by decide : Setting.subscriptionId ∈ plainSettings) st.disk.host.limits .reporting
      change (c.subscriptionId.tellWithin st.disk.host.limits .reporting >>= fun _ => _) = _
      change c.subscriptionId.tellWithin _ _ = _ at hshown
      rw [hshown]
      rfl

theorem ofContent_of_table {content : ByteArray} {table : Toml.Table}
    (hparse : parse limits content = .ok table) (hperm : table.Perm (environmentTable environment))
    (limits' : Limits) : ofContent limits content = ofEnvironment limits' environment := by
  have hholds := holdsVariables_table hperm
  have hpairs := hholds.ofPairs_eq (holdsVariables_environmentPairs environment) limits limits'
  rw [ofContent, hparse]
  change (ofPairs limits fileKeys (documentPairs table) >>= _) = _
  rw [documentPairs_table hperm, ofEnvironment, ← hpairs]
  cases hc : ofPairs limits fileKeys table with
  | error f => rfl
  | ok c =>
      change (c.check >>= fun _ => reported limits c >>= fun _ => .ok c) =
        (c.check >>= fun _ => .ok c)
      cases hcheck : c.check with
      | error f => rfl
      | ok u =>
          change (reported limits c >>= fun _ => .ok c) = _
          rw [(hholds.wellTyped hc).reported_of_accepted (check_eq_ok_iff.1 hcheck)]

theorem loadEnvironment_congr {other : List (String × String)}
    (h : ∀ row ∈ environmentKeys, valueOf? other row.1 = valueOf? environment row.1) :
    loadEnvironment other = loadEnvironment environment := by
  have hpairs : environmentPairs other = environmentPairs environment := by
    rw [environmentPairs_eq, environmentPairs_eq]
    exact List.filterMap_congr fun row hrow => by rw [h row hrow]
  have hsame : ∀ limits, ofEnvironment limits other = ofEnvironment limits environment := by
    intro limits
    rw [ofEnvironment, ofEnvironment, hpairs]
  funext st
  rw [loadEnvironment_eq, loadEnvironment_eq, hsame]

/-- An environment is loaded, or refused, as any file is that holds its recognised variables as
texts under the keys of files, in any order. Nothing else of the environment matters, neither other
variables nor the order of the variables, and an empty variable counts as one that is not set.
Whatever the variables are, nothing but a refusal keeps an environment from being loaded. -/
theorem environment_loads_as_file (environment : List (String × String)) :
    (∀ table : Toml.Table, table.Perm (environmentTable environment) →
      (∀ limits, ∃ content, parse limits content = .ok table) ∧
      ∀ content s (st st' : Storage), parse st.disk.host.limits content = .ok table →
        Holds st.disk s content → (load s st).1 = (loadEnvironment environment st').1) ∧
    (∀ other, (∀ row ∈ environmentKeys, valueOf? other row.1 = valueOf? environment row.1) →
      loadEnvironment other = loadEnvironment environment) ∧
    (∀ other, other.Perm environment → (environment.map Prod.fst).Nodup →
      loadEnvironment other = loadEnvironment environment) ∧
    ∀ st f, (loadEnvironment environment st).1 = .error f → ∃ e, f = .refused e := by
  refine ⟨fun table hperm => ⟨fun limits => ?_, ?_⟩, fun other h => loadEnvironment_congr h,
    fun other hperm hnodup => loadEnvironment_congr fun row _ => ?_, fun st f h => ?_⟩
  · obtain ⟨text, hread⟩ := exists_text_of_table hperm limits
    exact ⟨_, parse_toUTF8 hread⟩
  · intro content s st st' hparse hholds
    rw [fst_load_of_holds hholds, fst_loadEnvironment]
    exact ofContent_of_table hparse hperm st'.disk.host.limits
  · rw [valueOf?, valueOf?, lookup_perm hperm hnodup]
  · rw [fst_loadEnvironment] at h
    exact exists_refused_of_ofEnvironment h

/-- Variables of which one is empty and one is not recognised. -/
def someVariables : List (String × String) :=
  [("ARM_RESOURCE_GROUP", "rg"), ("HOME", "/root"), ("ARM_SUBSCRIPTION_ID", "sub"),
    ("ARM_CLOUD", ""), ("AZFLEET_FLEETS", "1:2:pool,"), ("AZFLEET_REFRESH_INTERVAL", " 1_0.5 ")]

/-- A file that holds the variables in the opposite order, and the variables themselves in the
opposite order and without those that do not count. -/
theorem environment_loads_as_file_someVariables :
    (∃ content c, parse .standard content = .ok (environmentTable someVariables).reverse ∧
      (load "conf.toml" (soleFile content)).1 = .ok c ∧
      (loadEnvironment someVariables empty).1 = .ok c ∧ c.resourceGroup.shown = "rg") ∧
    loadEnvironment someVariables.reverse = loadEnvironment someVariables ∧
    loadEnvironment (someVariables.filter fun p => p.1 ≠ "HOME" ∧ p.1 ≠ "ARM_CLOUD") =
      loadEnvironment someVariables ∧
    ∃ e, (loadEnvironment [("ARM_RESOURCE_GROUP", "rg")] empty).1 = .error (.refused e) := by
  obtain ⟨hfiles, hothers, horders, -⟩ := environment_loads_as_file someVariables
  obtain ⟨hexists, hload⟩ := hfiles _ (List.reverse_perm _)
  obtain ⟨content, hparse⟩ := hexists .standard
  have hsame := hload content "conf.toml" (soleFile content) empty hparse (holds_soleFile content)
  have hgroup : (loadEnvironment someVariables empty).1.map (·.resourceGroup.shown) =
      .ok "rg" := by decide +kernel
  obtain ⟨c, hc, hshown⟩ := except_map_eq_ok_iff.1 hgroup
  refine ⟨⟨content, c, hparse, hsame.trans hc, hc, hshown⟩,
    horders _ (List.reverse_perm _) (by decide), hothers _ (by decide +kernel), ?_⟩
  have hfails : ((loadEnvironment [("ARM_RESOURCE_GROUP", "rg")] empty).1.map fun _ => ()) =
      .error (.refused .noSubscription) := by decide +kernel
  obtain ⟨-, -, -, hrefused⟩ := environment_loads_as_file [("ARM_RESOURCE_GROUP", "rg")]
  have hf := except_map_eq_error_iff.1 hfails
  obtain ⟨e, he⟩ := hrefused _ _ hf
  exact ⟨e, he ▸ hf⟩

end Storage
end FleetWarden
