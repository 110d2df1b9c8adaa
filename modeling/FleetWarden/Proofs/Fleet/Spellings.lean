import Mathlib.Logic.Relation
import FleetWarden.Fleet.InstanceRef
import FleetWarden.Proofs.Text.Lowering

/-!
# The spellings of a resource id

A resource id may be written with blanks around it, with its letters in ASCII in any case, and with
or without the scheme. `spellings_share_key` says that all of these have one key, that this key
is its own key, and that only the blank texts have none.
-/

namespace FleetWarden

open Text

variable {raw raw' mark s t : String}

section Scheme

theorem hasScheme_iff : hasScheme s = true ↔ scheme.toList <+: s.toList :=
  List.isPrefixOf_iff_prefix

theorem hasScheme_append (s : String) : hasScheme (scheme ++ s) = true := by
  rw [hasScheme_iff, String.toList_append]
  exact List.prefix_append _ _

theorem withScheme_of_hasScheme (h : hasScheme s = true) : withScheme s = s := if_pos h

theorem withScheme_of_bare (h : hasScheme s = false) : withScheme s = scheme ++ s :=
  if_neg (by rw [h]; exact Bool.false_ne_true)

theorem hasScheme_withScheme (s : String) : hasScheme (withScheme s) = true := by
  cases h : hasScheme s with
  | true => rw [withScheme_of_hasScheme h, h]
  | false => rw [withScheme_of_bare h, hasScheme_append]

theorem isSmall_scheme : ∀ c ∈ scheme.toList, IsSmall c :=
  List.all_iff_forall_prop.1 (by decide +kernel)

/-- The scheme ends in a slash, so what stands behind it is lower-cased as if it stood alone. -/
theorem lower_scheme_append (s : String) : lower (scheme ++ s) = scheme ++ lower s := by
  have hslash : scheme.toList.reverse ++ [] = [] ++ '/' :: ['/', ':', 'e', 'r', 'u', 'z', 'a'] := by
    decide
  apply String.toList_injective
  rw [lower, lower, String.toList_ofList, String.toList_append, String.toList_append,
    String.toList_ofList, lowerFrom_append_of_isSmall isSmall_scheme, hslash,
    lowerFrom_append_slash]

/-- Whether a text begins with the scheme, in whatever case. -/
def BeginsWithScheme (s : String) : Prop := scheme.toList <+: s.toList.map Char.toLower

instance (s : String) : Decidable (BeginsWithScheme s) := inferInstanceAs (Decidable (_ <+: _))

theorem hasScheme_lower_iff : hasScheme (lower s) = true ↔ BeginsWithScheme s := by
  rw [hasScheme_iff, lower, String.toList_ofList]
  constructor
  · exact isPrefix_of_lowerFrom (List.all_iff_forall_prop.1 (by decide))
  · rintro ⟨rest, hrest⟩
    rw [← lowerFrom_map_toLower, ← hrest, lowerFrom_append_of_isSmall isSmall_scheme]
    exact List.prefix_append _ _

end Scheme

section Keys

theorem instanceKey?_of_set (h : blank raw = false) :
    instanceKey? raw = some (withScheme (lower (trim raw))) := by
  rw [instanceKey?, if_neg]
  rw [trim_eq_empty_iff, h]
  exact Bool.false_ne_true

theorem instanceKey?_eq_none_iff : instanceKey? raw = none ↔ blank raw = true := by
  rw [← InstanceRef.ofRaw?_eq_none_iff, ← InstanceRef.map_key_ofRaw?, Option.map_eq_none_iff]

theorem InstanceRef.ofRaw?_eq_some_iff {ref : InstanceRef} :
    InstanceRef.ofRaw? raw = some ref ↔ instanceKey? raw = some ref.key := by
  rw [← InstanceRef.map_key_ofRaw?, Option.map_eq_some_iff]
  constructor
  · intro h
    exact ⟨ref, h, rfl⟩
  · rintro ⟨ref', h, hkey⟩
    rw [h]
    cases ref
    cases ref'
    cases hkey
    rfl

theorem isTrimmed_mark_append (hmark : SameLetters mark scheme) (h : IsTrimmed isBlank s.toList) :
    IsTrimmed isBlank (mark ++ s).toList := by
  rw [String.toList_append]
  apply h.append
  exact hmark.isBlank_eq_false (List.all_iff_forall_prop.1 (by decide))

theorem isTrimmed_withScheme (h : IsTrimmed isBlank s.toList) :
    IsTrimmed isBlank (withScheme s).toList := by
  cases hscheme : hasScheme s with
  | true => rwa [withScheme_of_hasScheme hscheme]
  | false =>
      rw [withScheme_of_bare hscheme]
      exact isTrimmed_mark_append rfl h

theorem lower_withScheme_lower (s : String) :
    lower (withScheme (lower s)) = withScheme (lower s) := by
  have hsmall : ∀ c ∈ (withScheme (lower s)).toList, IsSmall c := by
    intro c hc
    have hlower : ∀ c ∈ (lower s).toList, IsSmall c := by
      intro c hc
      rw [lower, String.toList_ofList] at hc
      exact isSmall_of_mem_lowerFrom hc
    cases hscheme : hasScheme (lower s) with
    | true =>
        rw [withScheme_of_hasScheme hscheme] at hc
        exact hlower c hc
    | false =>
        rw [withScheme_of_bare hscheme, String.toList_append, List.mem_append] at hc
        exact hc.elim (isSmall_scheme c) (hlower c)
  rw [lower, lowerFrom_of_isSmall hsmall, String.ofList_toList]

/-- A key is its own key. -/
theorem instanceKey?_key {key : String} (h : instanceKey? raw = some key) :
    instanceKey? key = some key := by
  have hset : blank raw = false := by
    rw [← Bool.not_eq_true, ← instanceKey?_eq_none_iff, h]
    exact Option.some_ne_none key
  have hkey : withScheme (lower (trim raw)) = key := by
    rw [instanceKey?_of_set hset] at h
    exact Option.some.inj h
  subst hkey
  have htrim : trim (withScheme (lower (trim raw))) = withScheme (lower (trim raw)) := by
    apply trim_of_isTrimmed
    apply isTrimmed_withScheme
    rw [lower, String.toList_ofList]
    exact isTrimmed_lowerFrom (isTrimmed_trim raw)
  have hne : withScheme (lower (trim raw)) ≠ "" := by
    intro hempty
    have hscheme := hasScheme_withScheme (lower (trim raw))
    rw [hempty] at hscheme
    revert hscheme
    decide
  rw [instanceKey?, htrim, if_neg hne, lower_withScheme_lower,
    withScheme_of_hasScheme (hasScheme_withScheme _)]

end Keys

section Spellings

/-- One step from a spelling of a resource id to another one. -/
inductive Respelled : String → String → Prop
  /-- Blanks are put around it. -/
  | padded {before after : String} (raw : String) (hbefore : blank before = true)
    (hafter : blank after = true) : Respelled raw (before ++ raw ++ after)
  /-- Letters in ASCII change their case. -/
  | recased {raw raw' : String} (hletters : SameLetters raw raw') : Respelled raw raw'
  /-- The scheme, in whatever case, is put directly before the trimmed text, which has none. -/
  | marked {raw mark : String} (hmark : SameLetters mark scheme)
    (hbare : ¬ BeginsWithScheme (trim raw)) : Respelled raw (mark ++ trim raw)

theorem Respelled.instanceKey?_eq (h : Respelled raw raw') (hset : blank raw = false) :
    instanceKey? raw' = instanceKey? raw := by
  cases h with
  | padded _ hbefore hafter => rw [instanceKey?, instanceKey?, trim_append hbefore hafter]
  | recased hletters =>
      simp only [instanceKey?, hletters.trim.eq_empty_iff, hletters.trim.lower_eq]
  | @marked _ mark hmark hbare =>
      have htrim : trim (mark ++ trim raw) = mark ++ trim raw :=
        trim_of_isTrimmed (isTrimmed_mark_append hmark (isTrimmed_trim raw))
      have hletters : SameLetters (mark ++ trim raw) (scheme ++ trim raw) := by
        simp only [SameLetters, String.toList_append, List.map_append]
        rw [hmark]
      have hlower : lower (mark ++ trim raw) = scheme ++ lower (trim raw) := by
        rw [hletters.lower_eq, lower_scheme_append]
      have hset' : mark ++ trim raw ≠ "" := by
        rw [ne_eq, hletters.eq_empty_iff, ← String.toList_eq_nil_iff, String.toList_append,
          List.append_eq_nil_iff]
        rintro ⟨hscheme, -⟩
        revert hscheme
        decide
      have hbare' : hasScheme (lower (trim raw)) = false := by
        rw [← Bool.not_eq_true, hasScheme_lower_iff]
        exact hbare
      calc
        instanceKey? (mark ++ trim raw) = some (withScheme (scheme ++ lower (trim raw))) := by
          rw [instanceKey?, htrim, if_neg hset', hlower]
        _ = some (scheme ++ lower (trim raw)) := by
          rw [withScheme_of_hasScheme (hasScheme_append _)]
        _ = some (withScheme (lower (trim raw))) := by rw [withScheme_of_bare hbare']
        _ = instanceKey? raw := (instanceKey?_of_set hset).symm

/-- Only blank texts have no key. Every other one has a key that is its own key, and however the
text is spelled, it has this key and stands for the same instance. -/
theorem spellings_share_key (raw : String) :
    (instanceKey? raw = none ↔ blank raw = true) ∧
      (InstanceRef.ofRaw? raw = none ↔ blank raw = true) ∧
      (blank raw = false → ∃ ref : InstanceRef,
        instanceKey? raw = some ref.key ∧ InstanceRef.ofRaw? raw = some ref ∧
        instanceKey? ref.key = some ref.key ∧ InstanceRef.ofRaw? ref.key = some ref ∧
        ∀ raw', Relation.ReflTransGen Respelled raw raw' →
          instanceKey? raw' = some ref.key ∧ InstanceRef.ofRaw? raw' = some ref) := by
  refine ⟨instanceKey?_eq_none_iff, InstanceRef.ofRaw?_eq_none_iff, ?_⟩
  intro hset
  obtain ⟨key, hkey⟩ : ∃ key, instanceKey? raw = some key := ⟨_, instanceKey?_of_set hset⟩
  have hself := instanceKey?_key hkey
  refine ⟨⟨key, raw, hkey⟩, hkey, InstanceRef.ofRaw?_eq_some_iff.2 hkey, hself,
    InstanceRef.ofRaw?_eq_some_iff.2 hself, ?_⟩
  intro raw' hspelled
  suffices h : instanceKey? raw' = some key from ⟨h, InstanceRef.ofRaw?_eq_some_iff.2 h⟩
  induction hspelled with
  | refl => exact hkey
  | @tail middle _ _ hstep ih =>
      have hmiddle : blank middle = false := by
        rw [← Bool.not_eq_true, ← instanceKey?_eq_none_iff, ih]
        exact Option.some_ne_none key
      rw [hstep.instanceKey?_eq hmiddle, ih]

/-- In this id, a capital sigma ends a word. -/
theorem spellings_share_key_sigma : ∃ ref : InstanceRef,
    InstanceRef.ofRaw? "/VM/ΟΔΟΣ" = some ref ∧
      InstanceRef.ofRaw? " AZURE:///vm/ΟΔΟΣ\n" = some ref := by
  obtain ⟨ref, -, hof, -, -, hspelled⟩ :=
    (spellings_share_key "/VM/ΟΔΟΣ").2.2 (by decide)
  have hrecased : Respelled "/VM/ΟΔΟΣ" "/vm/ΟΔΟΣ" := .recased (by decide)
  have hmarked : Respelled "/vm/ΟΔΟΣ" ("AZURE://" ++ trim "/vm/ΟΔΟΣ") :=
    .marked (by decide) (by decide)
  have hpadded : Respelled ("AZURE://" ++ trim "/vm/ΟΔΟΣ")
      (" " ++ ("AZURE://" ++ trim "/vm/ΟΔΟΣ") ++ "\n") :=
    .padded _ (by decide) (by decide)
  have hwritten : " " ++ ("AZURE://" ++ trim "/vm/ΟΔΟΣ") ++ "\n" = " AZURE:///vm/ΟΔΟΣ\n" := by
    decide
  rw [hwritten] at hpadded
  exact ⟨ref, hof, (hspelled _ (((Relation.ReflTransGen.single hrecased).tail hmarked).tail
    hpadded)).2⟩

end Spellings

end FleetWarden
