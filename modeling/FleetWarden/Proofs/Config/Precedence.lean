import FleetWarden.Proofs.Config.BadFiles
import FleetWarden.Proofs.Toml.DistinctKeys

/-!
# Which pair of a document counts

The pairs of a document override the pairs of its `global` table key by key, before it is known
which keys stand for the same setting. So a pair of the document counts before all `global` pairs if
`global` lacks its key; if `global` has the key, the pair only takes the place of the `global` one,
and a later spelling of the same setting in `global` counts instead (`settings_of_load`).
-/

namespace FleetWarden

namespace FleetConfig

/-- The pairs of the `global` table of a document. -/
def commonPairs (document : List (String × Value)) : List (String × Value) :=
  match document.lookup "global" with
  | some (.table common) => common
  | _ => []

/-- The pairs of a document next to its `global` table. -/
def ownPairs (document : List (String × Value)) : List (String × Value) :=
  document.filter (·.1 ≠ "global")

/-- The `global` pairs, with the values that the document has for their keys. -/
def overriddenPairs (document : List (String × Value)) : List (String × Value) :=
  (commonPairs document).map fun p => (p.1, ((ownPairs document).lookup p.1).getD p.2)

/-- The pairs of the document whose keys `global` lacks. -/
def addedPairs (document : List (String × Value)) : List (String × Value) :=
  (ownPairs document).filter fun p => p.1 ∉ (commonPairs document).map Prod.fst

section
variable {keys : KeyTable} {setting : Setting} {document : List (String × Value)}

theorem nodup_commonPairs (h : Toml.Tidy (.table document)) :
    ((commonPairs document).map Prod.fst).Nodup := by
  rw [commonPairs]
  split
  · rename_i common hcommon
    exact (h.of_lookup hcommon).keys
  · exact List.nodup_nil

theorem nodup_ownPairs (h : Toml.Tidy (.table document)) :
    ((ownPairs document).map Prod.fst).Nodup :=
  h.keys.sublist (List.filter_sublist.map Prod.fst)

/-- The pairs that a document comes to, in order. -/
theorem given?_documentPairs (h : Toml.Tidy (.table document))
    (hglobal : keys.setting? "global" = none) (setting : Setting) :
    given? keys (documentPairs document) setting =
      (lastSet? keys setting (addedPairs document)).or
        (lastSet? keys setting (overriddenPairs document)) := by
  have hcommonNodup := nodup_commonPairs h
  rw [given?, documentPairs]
  split
  · rename_i common hcommon
    have hpairs : commonPairs document = common := by rw [commonPairs, hcommon]
    rw [hpairs] at hcommonNodup
    rw [pairs_ofList (nodup_foldl_putPair _ hcommonNodup), ← lastSet?_append, overriddenPairs,
      addedPairs, hpairs]
    exact congrArg (lastSet? keys setting) (foldl_putPair (nodup_ownPairs h) hcommonNodup)
  · rename_i hnone
    have hpairs : commonPairs document = [] := by
      rw [commonPairs]
      split
      · rename_i common hcommon
        exact absurd hcommon (hnone common)
      · rfl
    have hown : lastSet? keys setting (ownPairs document) = lastSet? keys setting document := by
      refine lastSet?_filter fun q _ hkey _ => decide_eq_true ?_
      rintro heq
      rw [heq, hglobal] at hkey
      cases hkey
    have hadded : addedPairs document = ownPairs document := by
      rw [addedPairs, hpairs]
      exact List.filter_eq_self.2 fun _ _ => rfl
    rw [pairs_ofList h.keys, overriddenPairs, hpairs, hadded, hown]
    exact (Option.or_none).symm

/-- If no key of the setting stands in both places, the document counts before its `global` table.
-/
theorem given?_of_no_shared_key (h : Toml.Tidy (.table document))
    (hglobal : keys.setting? "global" = none)
    (hkeys : ∀ key, keys.setting? key = some setting → key ∈ (ownPairs document).map Prod.fst →
      key ∉ (commonPairs document).map Prod.fst) :
    given? keys (documentPairs document) setting =
      (lastSet? keys setting (ownPairs document)).or
        (lastSet? keys setting (commonPairs document)) := by
  have hadded : lastSet? keys setting (addedPairs document) =
      lastSet? keys setting (ownPairs document) :=
    lastSet?_filter fun q hq hkey _ => decide_eq_true (hkeys q.1 hkey (List.mem_map_of_mem hq))
  have hoverridden : lastSet? keys setting (overriddenPairs document) =
      lastSet? keys setting (commonPairs document) := by
    refine lastSet?_map (fun q => rfl) fun q hq hkey => ?_
    have hnone : (ownPairs document).lookup q.1 = none :=
      lookup_eq_none_iff_not_mem.2 fun hown => hkeys q.1 hkey hown (List.mem_map_of_mem hq)
    rw [hnone]
    rfl
  rw [given?_documentPairs h hglobal, hadded, hoverridden]

end

end FleetConfig

namespace Storage

open FleetConfig

/-- A loaded configuration has each setting from the last pair that sets it among the pairs that the
document adds to its `global` table, else from the last one among the `global` pairs with the values
that the document has for their keys, else by default. Where the document and its `global` table
share no key of the setting, the document counts first and its `global` table next. -/
theorem settings_of_load {s : String} {st : Storage} {c : FleetConfig}
    (h : (load s st).1 = .ok c) :
    ∃ content table, Holds st.disk s content ∧ parse st.disk.host.limits content = .ok table ∧
      ∀ setting,
        settled st.disk.host.limits setting ((lastSet? fileKeys setting (addedPairs table)).or
          (lastSet? fileKeys setting (overriddenPairs table))) = .ok (c.get setting) ∧
        ((∀ key, fileKeys.setting? key = some setting → key ∈ (ownPairs table).map Prod.fst →
            key ∉ (commonPairs table).map Prod.fst) →
          settled st.disk.host.limits setting ((lastSet? fileKeys setting (ownPairs table)).or
            (lastSet? fileKeys setting (commonPairs table))) = .ok (c.get setting)) := by
  obtain ⟨content, hholds, hcontent⟩ := holds_of_load h
  obtain ⟨table, hparse, hpairs, -⟩ := ofContent_eq_ok_iff.1 hcontent
  obtain ⟨text, -, hread⟩ := parse_eq_ok_iff.1 hparse
  have htidy := Toml.tidy_of_read hread
  have hsettled := ofPairs_eq_ok_iff.1 hpairs
  have hglobal : fileKeys.setting? "global" = none := by decide
  refine ⟨content, table, hholds, hparse, fun setting => ⟨?_, fun hkeys => ?_⟩⟩
  · rw [← given?_documentPairs htidy hglobal]
    exact hsettled setting
  · rw [← given?_of_no_shared_key htidy hglobal hkeys]
    exact hsettled setting

/-- A document whose resource group is set in it and, by two spellings, in its `global` table. -/
def twoSpellings : String :=
  "resourceGroup = \"own\"\nsubscriptionId = \"sub\"\n" ++
    "[global]\nresourceGroup = \"common\"\nresource_group = \"later\"\n"

theorem ofContent_twoSpellings :
    (ofContent .standard twoSpellings.toUTF8).map (·.resourceGroup.shown) = .ok "later" := by
  decide +kernel

theorem settings_of_load_twoSpellings :
    ∃ c content table, (load "conf.toml" (soleFile twoSpellings.toUTF8)).1 = .ok c ∧
      parse .standard content = .ok table ∧
      settled .standard .resourceGroup ((lastSet? fileKeys .resourceGroup (addedPairs table)).or
        (lastSet? fileKeys .resourceGroup (overriddenPairs table))) =
          .ok (c.get .resourceGroup) := by
  obtain ⟨c, hc, -⟩ := except_map_eq_ok_iff.1 ofContent_twoSpellings
  rw [← fst_load_soleFile] at hc
  obtain ⟨content, table, -, hparse, hsettings⟩ := settings_of_load hc
  exact ⟨c, content, table, hc, hparse, (hsettings .resourceGroup).1⟩

/-- The later spelling in the `global` table counts before the setting of the document. -/
theorem common_spelling_counts_first :
    ∃ c table, (load "conf.toml" (soleFile twoSpellings.toUTF8)).1 = .ok c ∧
      parse .standard twoSpellings.toUTF8 = .ok table ∧
      (lastSet? fileKeys .resourceGroup (ownPairs table)).map Value.shown = some "own" ∧
      c.resourceGroup.shown = "later" := by
  have hown : ((parse .standard twoSpellings.toUTF8).map fun table =>
      (lastSet? fileKeys .resourceGroup (ownPairs table)).map Value.shown) = .ok (some "own") := by
    decide +kernel
  obtain ⟨table, htable, hshown⟩ := except_map_eq_ok_iff.1 hown
  obtain ⟨c, hc, hlater⟩ := except_map_eq_ok_iff.1 ofContent_twoSpellings
  rw [← fst_load_soleFile] at hc
  exact ⟨c, table, hc, htable, hshown, hlater⟩

end Storage
end FleetWarden
