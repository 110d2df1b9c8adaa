import FleetWarden.Proofs.Config.Settings
import FleetWarden.Proofs.Pairs

/-!
# The client secret behind a veil

A veil leaves nothing of the client secret but whether it is set. It can be drawn before or after
settings are read from a source, with the same result: over a configuration, over the pairs of a
source, over a document with its `global` table, or over an environment. What is saved of a
configuration, what is shown of it and what its check says is the same behind the veil.
-/

namespace FleetWarden

/-- The value with nothing left of a text but whether it is empty. -/
def Value.veiled : Value → Value
  | .text s => .text (if s = "" then "" else "****")
  | v => v

@[simp] theorem Value.isTrue_veiled (v : Value) : v.veiled.isTrue = v.isTrue := by
  cases v with
  | text s => by_cases h : s = "" <;> simp [veiled, isTrue, h]
  | _ => rfl

@[simp] theorem Value.isUnset_veiled (v : Value) : v.veiled.isUnset = v.isUnset := by
  cases v with
  | text s => by_cases h : s = "" <;> simp [veiled, isUnset, h]
  | _ => rfl

namespace FleetConfig
variable {limits : Limits} {keys : KeyTable} {c d : FleetConfig}

/-- The configuration with its client secret behind a veil. -/
def veiled (c : FleetConfig) : FleetConfig := c.set .clientSecret c.clientSecret.veiled

/-- A pair behind a veil, if its key stands for the client secret. -/
def veiledPair (keys : KeyTable) (p : String × Value) : String × Value :=
  if keys.setting? p.1 = some .clientSecret then (p.1, p.2.veiled) else p

@[simp] theorem fst_veiledPair (keys : KeyTable) (p : String × Value) :
    (veiledPair keys p).1 = p.1 := by
  rw [veiledPair]
  split <;> rfl

@[simp] theorem isUnset_veiledPair (keys : KeyTable) (p : String × Value) :
    (veiledPair keys p).2.isUnset = p.2.isUnset := by
  rw [veiledPair]
  split
  · exact p.2.isUnset_veiled
  · rfl

theorem veiledPair_of_ne {setting : Setting} (h : setting ≠ .clientSecret) {p : String × Value}
    (hp : keys.setting? p.1 = some setting) : veiledPair keys p = p := by
  rw [veiledPair, hp, if_neg]
  intro heq
  exact h (Option.some.inj heq)

theorem lastSet?_veiledPair (setting : Setting) (pairs : List (String × Value)) :
    lastSet? keys setting (pairs.map (veiledPair keys)) =
      (lastSet? keys setting pairs).map
        (if setting = .clientSecret then Value.veiled else id) := by
  have hsame : (fun p => decide (keys.setting? p.1 = some setting) && !p.2.isUnset) ∘
      veiledPair keys = fun p => decide (keys.setting? p.1 = some setting) && !p.2.isUnset := by
    funext p
    simp
  rw [lastSet?, lastSet?, List.filter_map, hsame, List.getLast?_map, Option.map_map, Option.map_map]
  refine Option.map_congr fun p hp => ?_
  have hkey : keys.setting? p.1 = some setting := by
    have hmem := List.mem_filter.1 (List.mem_of_getLast? hp)
    simpa using (Bool.and_eq_true_iff.1 hmem.2).1
  by_cases h : setting = .clientSecret
  · subst h
    simp [veiledPair, hkey]
  · simp [veiledPair_of_ne h hkey, h]

theorem given?_veiledPair (setting : Setting) (source : List (String × Value)) :
    given? keys (source.map (veiledPair keys)) setting =
      (given? keys source setting).map
        (if setting = .clientSecret then Value.veiled else id) := by
  rw [given?, given?, pairs_ofList_map (fst_veiledPair keys), lastSet?_veiledPair]

/-- The veil may be drawn over the pairs of a source as well as over the configuration. -/
theorem ofPairs_veiledPair (keys : KeyTable) (source : List (String × Value)) :
    ofPairs limits keys (source.map (veiledPair keys)) =
      (ofPairs limits keys source).map veiled := by
  cases h : ofPairs limits keys source with
  | error f =>
      apply ofPairs_eq_error_iff.2
      rw [given?_veiledPair, if_neg nofun, Option.map_id]
      exact ofPairs_eq_error_iff.1 h
  | ok c =>
      refine ofPairs_eq_ok_iff.2 fun setting => ?_
      have hold := ofPairs_eq_ok_iff.1 h setting
      rw [given?_veiledPair, veiled, get_set]
      by_cases hs : setting = .clientSecret
      · subst hs
        rw [if_pos rfl, if_pos rfl, settled_of_plain (by decide)]
        rw [settled_of_plain (by decide)] at hold
        change _ = Except.ok c.clientSecret.veiled
        rw [← show _ = c.clientSecret from Except.ok.inj hold]
        cases given? keys source .clientSecret <;> rfl
      · rw [if_neg hs, if_neg hs, Option.map_id]
        exact hold

/-- The `global` table of a document behind a veil. -/
def veiledCommon : Value → Value
  | .table common => .table (common.map (veiledPair fileKeys))
  | v => v

/-- A pair of a document behind a veil. -/
def veiledEntry (p : String × Value) : String × Value :=
  if p.1 = "global" then (p.1, veiledCommon p.2) else veiledPair fileKeys p

@[simp] theorem fst_veiledEntry (p : String × Value) : (veiledEntry p).1 = p.1 := by
  rw [veiledEntry]
  split
  · rfl
  · exact fst_veiledPair fileKeys p

theorem veiledEntry_of_ne {p : String × Value} (h : p.1 ≠ "global") :
    veiledEntry p = veiledPair fileKeys p := if_neg h

/-- The entry of a `global` that is no table is no setting, either. -/
theorem veiledEntry_of_plain {p : String × Value} (h : ∀ common, p.2 ≠ .table common) :
    veiledEntry p = veiledPair fileKeys p := by
  by_cases hp : p.1 = "global"
  · have hcommon : veiledCommon p.2 = p.2 := by
      cases hv : p.2 with
      | table common => exact absurd hv (h common)
      | _ => rfl
    have hkey : ¬fileKeys.setting? "global" = some .clientSecret := by decide
    rw [veiledEntry, if_pos hp, hcommon, veiledPair, if_neg (hp ▸ hkey)]
  · exact veiledEntry_of_ne hp

theorem filter_map_veiledEntry (document : List (String × Value)) :
    (document.map veiledEntry).filter (·.1 ≠ "global") =
      (document.filter (·.1 ≠ "global")).map (veiledPair fileKeys) := by
  have hsame : (fun p : String × Value => decide (p.1 ≠ "global")) ∘ veiledEntry =
      fun p => decide (p.1 ≠ "global") := by
    funext p
    simp
  rw [List.filter_map, hsame]
  refine List.map_congr_left fun p hp => veiledEntry_of_ne ?_
  exact of_decide_eq_true (List.mem_filter.1 hp).2

/-- The veil may be drawn over a document as well as over the pairs that it comes to. -/
theorem documentPairs_veiledEntry {document : List (String × Value)}
    (h : (document.map Prod.fst).Nodup) :
    documentPairs (document.map veiledEntry) =
      (documentPairs document).map (veiledPair fileKeys) := by
  have hlookup : (document.map veiledEntry).lookup "global" =
      (document.lookup "global").map veiledCommon := lookup_map fst_veiledEntry "global" document
  by_cases hcommon : ∃ common, document.lookup "global" = some (.table common)
  · obtain ⟨common, hcommon⟩ := hcommon
    rw [hcommon] at hlookup
    rw [documentPairs, documentPairs, hlookup, hcommon]
    change List.foldl _ (common.map (veiledPair fileKeys)) _ = _
    rw [filter_map_veiledEntry]
    exact (map_foldl_putPair (fst_veiledPair fileKeys) _ common).symm
  · have hplain : ∀ p ∈ document, veiledEntry p = veiledPair fileKeys p := by
      intro p hp
      by_cases hglobal : p.1 = "global"
      · refine veiledEntry_of_plain fun common htable => hcommon ⟨common, ?_⟩
        rw [← hglobal, lookup_of_mem h hp, htable]
      · exact veiledEntry_of_ne hglobal
    have hkeep : ∀ pairs : List (String × Value),
        (¬∃ common, pairs.lookup "global" = some (.table common)) →
          documentPairs pairs = pairs := by
      intro pairs hno
      rw [documentPairs]
      split
      · rename_i common hcommon
        exact absurd ⟨common, hcommon⟩ hno
      · rfl
    rw [hkeep document hcommon, hkeep, List.map_congr_left hplain]
    rintro ⟨common, hveiled⟩
    rw [hlookup] at hveiled
    obtain ⟨v, hv, htable⟩ := Option.map_eq_some_iff.1 hveiled
    cases v with
    | table inner => exact hcommon ⟨inner, hv⟩
    | _ => cases htable

theorem check_veiled (c : FleetConfig) : c.veiled.check = c.check := by
  have hprincipal : c.veiled.checkServicePrincipal = c.checkServicePrincipal := by
    have hset : c.clientSecret.veiled.isTrue = c.clientSecret.isTrue := c.clientSecret.isTrue_veiled
    have huses : c.veiled.usesServicePrincipal = c.usesServicePrincipal := by
      change (_ || _ || c.clientSecret.veiled.isTrue) = _
      rw [hset]
      rfl
    have hrequire : require c.veiled.clientSecret .noClientSecret =
        require c.clientSecret .noClientSecret := by
      change (if c.clientSecret.veiled.isTrue then _ else _) = _
      rw [hset]
      rfl
    rw [checkServicePrincipal, huses, hrequire]
    rfl
  rw [check, hprincipal]
  rfl

theorem entries_veiled (c : FleetConfig) : c.veiled.entries = c.entries := rfl

theorem maskedEntries_veiled (c : FleetConfig) : c.veiled.maskedEntries = c.maskedEntries := by
  have hset : c.veiled.clientSecret.isTrue = c.clientSecret.isTrue := c.clientSecret.isTrue_veiled
  rw [maskedEntries, entries_veiled, hset]
  rfl

end FleetConfig
end FleetWarden
