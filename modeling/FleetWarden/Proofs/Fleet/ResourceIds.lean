import FleetWarden.Proofs.Fleet.Spellings

/-!
# Resource ids of references

A key is the scheme with a resource id behind it, so different references have different resource
ids. Made into a reference again, the id gives back the one that it comes from, unless that one was
written with the scheme and with something behind it that is no id of its own: nothing, something
that a blank sets off, or the scheme once more. Only the first scheme is taken for one, and only
what stands around the whole text is trimmed.
-/

namespace FleetWarden

open Text

variable {raw rest : String} {ref : InstanceRef}

theorem instanceKey?_eq_some_iff {key : String} : instanceKey? raw = some key ↔
    blank raw = false ∧ withScheme (lower (trim raw)) = key := by
  cases hblank : blank raw with
  | true => simp [instanceKey?_eq_none_iff.2 hblank]
  | false => simp [instanceKey?_of_set hblank]

namespace InstanceRef

theorem exists_key_eq (ref : InstanceRef) : ∃ raw, ref.key = withScheme (lower (trim raw)) := by
  obtain ⟨raw, hkey⟩ := ref.isKey
  exact ⟨raw, (instanceKey?_eq_some_iff.1 hkey).2.symm⟩

/-- A key is the scheme with the resource id behind it. -/
theorem key_eq (ref : InstanceRef) : ref.key = scheme ++ ref.resourceId := by
  obtain ⟨raw, hkey⟩ := ref.exists_key_eq
  have hscheme : scheme.toList <+: ref.key.toList := by
    rw [hkey]
    exact hasScheme_iff.1 (hasScheme_withScheme _)
  obtain ⟨rest, hrest⟩ := hscheme
  apply String.toList_injective
  rw [resourceId, String.toList_append, String.toList_ofList, ← hrest, List.drop_left]

theorem resourceId_of_key {id : String} (h : ref.key = scheme ++ id) : ref.resourceId = id := by
  rwa [key_eq, String.append_right_inj] at h

theorem resourceId_injective {other : InstanceRef} (h : ref.resourceId = other.resourceId) :
    ref = other := by
  have hkey : ref.key = other.key := by rw [key_eq, key_eq, h]
  cases ref
  cases other
  cases hkey
  rfl

theorem last_resourceId (ref : InstanceRef) :
    ∀ c ∈ ref.resourceId.toList.getLast?, isBlank c = false := by
  intro c hc
  obtain ⟨raw, hkey⟩ := ref.exists_key_eq
  have htrimmed : IsTrimmed isBlank ref.key.toList := by
    rw [hkey]
    apply isTrimmed_withScheme
    rw [lower, String.toList_ofList]
    exact isTrimmed_lowerFrom (isTrimmed_trim raw)
  apply htrimmed.last
  rw [key_eq, String.toList_append, List.getLast?_append, Option.mem_def.1 hc]
  rfl

/-- Lower-casing changes nothing about a resource id or a part of one. -/
theorem lower_of_mem_resourceId {s : String} (h : ∀ c ∈ s.toList, c ∈ ref.resourceId.toList) :
    lower s = s := by
  obtain ⟨raw, hkey⟩ := ref.exists_key_eq
  have hlower : lower ref.key = ref.key := by rw [hkey, lower_withScheme_lower]
  have hsmall : ∀ c ∈ s.toList, IsSmall c := by
    intro c hc
    have hmem : c ∈ ref.key.toList := by
      rw [key_eq, String.toList_append]
      exact List.mem_append_right _ (h c hc)
    rw [← hlower, lower, String.toList_ofList] at hmem
    exact isSmall_of_mem_lowerFrom hmem
  rw [lower, lowerFrom_of_isSmall hsmall, String.ofList_toList]

/-- The resource id gives the reference back if it is a trimmed text of its own, without a
scheme. -/
theorem ofRaw?_resourceId_iff (ref : InstanceRef) : ofRaw? ref.resourceId = some ref ↔
    ref.resourceId ≠ "" ∧ trim ref.resourceId = ref.resourceId ∧
      hasScheme ref.resourceId = false := by
  have hlower : lower (trim ref.resourceId) = trim ref.resourceId :=
    lower_of_mem_resourceId fun _ hc => (trim_sublist _).mem hc
  have hset : blank ref.resourceId = false ↔ ref.resourceId ≠ "" := by
    rw [ne_eq, ← blank_iff_of_last ref.last_resourceId, Bool.not_eq_true]
  rw [ofRaw?_eq_some_iff, instanceKey?_eq_some_iff, hset, hlower, key_eq]
  refine and_congr_right fun _ => ⟨?_, ?_⟩
  · intro hkey
    cases hscheme : hasScheme (trim ref.resourceId) with
    | true =>
        -- A text that is no longer than the id is no key with the id behind the scheme.
        have hlength := (trim_sublist ref.resourceId).length_le
        rw [withScheme_of_hasScheme hscheme] at hkey
        rw [hkey, String.toList_append, List.length_append] at hlength
        have hpos : 0 < scheme.toList.length := by decide
        omega
    | false =>
        rw [withScheme_of_bare hscheme, String.append_right_inj] at hkey
        rw [hkey] at hscheme
        exact ⟨hkey, hscheme⟩
  · rintro ⟨htrim, hscheme⟩
    rw [htrim, withScheme_of_bare hscheme]

end InstanceRef

section Written

/-- What stands behind the scheme in a resource id that is written with one. -/
def behindScheme? (raw : String) : Option String :=
  if BeginsWithScheme (trim raw) then
    some (String.ofList ((trim raw).toList.drop scheme.toList.length))
  else none

/-- What is no resource id of its own, though a scheme stands before it. -/
inductive IsStray : String → Prop
  | nothing : IsStray ""
  /-- A blank sets it off from the scheme. -/
  | setOff {rest : String} (h : trim rest ≠ rest) : IsStray rest
  | marked {rest : String} (h : BeginsWithScheme rest) : IsStray rest

theorem isStray_iff : IsStray rest ↔ rest = "" ∨ trim rest ≠ rest ∨ BeginsWithScheme rest := by
  constructor
  · intro h
    cases h with
    | nothing => exact .inl rfl
    | setOff h => exact .inr (.inl h)
    | marked h => exact .inr (.inr h)
  · rintro (rfl | h | h)
    · exact .nothing
    · exact .setOff h
    · exact .marked h

instance : DecidablePred IsStray := fun _ => decidable_of_iff _ isStray_iff.symm

theorem exists_mark_of_behindScheme? (h : behindScheme? raw = some rest) :
    ∃ mark, SameLetters mark scheme ∧ trim raw = mark ++ rest := by
  rw [behindScheme?] at h
  split_ifs at h with hscheme
  obtain rfl := Option.some.inj h
  refine ⟨String.ofList ((trim raw).toList.take scheme.toList.length), ?_, ?_⟩
  · have hsame : scheme.toList.map Char.toLower = scheme.toList := by decide
    have hfront := List.prefix_iff_eq_take.1 hscheme
    rw [SameLetters, String.toList_ofList, hsame, List.map_take]
    exact hfront.symm
  · rw [← String.ofList_append, List.take_append_drop, String.ofList_toList]

theorem not_beginsWithScheme_of_behindScheme? (h : behindScheme? raw = none) :
    ¬ BeginsWithScheme (trim raw) := by
  intro hscheme
  rw [behindScheme?, if_pos hscheme] at h
  cases h

theorem last_of_behindScheme? (h : behindScheme? raw = some rest) :
    ∀ c ∈ rest.toList.getLast?, isBlank c = false := by
  intro c hc
  obtain ⟨mark, -, htrim⟩ := exists_mark_of_behindScheme? h
  apply (isTrimmed_trim raw).last
  rw [htrim, String.toList_append, List.getLast?_append, Option.mem_def.1 hc]
  rfl

theorem lower_eq_empty_iff (s : String) : lower s = "" ↔ s = "" := by
  rw [lower, String.ofList_eq_empty_iff, lowerFrom_eq_nil_iff, String.toList_eq_nil_iff]

theorem blank_head?_lower (s : String) :
    (∀ c ∈ (lower s).toList.head?, isBlank c = false) ↔
      ∀ c ∈ s.toList.head?, isBlank c = false := by
  have hsame := isBlank_head?_lowerFrom [] s.toList
  rw [lower, String.toList_ofList]
  cases hs : s.toList.head? <;> cases hl : (lowerFrom [] s.toList).head? <;>
    simp_all

namespace InstanceRef

/-- The resource id is what was written, without the scheme if there was one, in small letters. -/
theorem resourceId_eq (h : ofRaw? raw = some ref) :
    ref.resourceId = lower ((behindScheme? raw).getD (trim raw)) := by
  have hkey := (instanceKey?_eq_some_iff.1 (ofRaw?_eq_some_iff.1 h)).2
  rw [← String.append_right_inj scheme, ← key_eq, ← hkey]
  cases hbehind : behindScheme? raw with
  | none =>
      have hbare : hasScheme (lower (trim raw)) = false := by
        rw [← Bool.not_eq_true, hasScheme_lower_iff]
        exact not_beginsWithScheme_of_behindScheme? hbehind
      exact withScheme_of_bare hbare
  | some rest =>
      obtain ⟨mark, hmark, htrim⟩ := exists_mark_of_behindScheme? hbehind
      have hletters : SameLetters (mark ++ rest) (scheme ++ rest) := by
        simp only [SameLetters, String.toList_append, List.map_append]
        rw [hmark]
      calc
        withScheme (lower (trim raw)) = withScheme (scheme ++ lower rest) := by
          rw [htrim, hletters.lower_eq, lower_scheme_append]
        _ = scheme ++ lower rest := withScheme_of_hasScheme (hasScheme_append _)

/-- A resource id that was written without the scheme gives its reference back. -/
theorem ofRaw?_resourceId_of_bare (h : ofRaw? raw = some ref) (hbare : behindScheme? raw = none) :
    ofRaw? ref.resourceId = some ref := by
  have hset := (instanceKey?_eq_some_iff.1 (ofRaw?_eq_some_iff.1 h)).1
  have hid : ref.resourceId = lower (trim raw) := by rw [resourceId_eq h, hbare, Option.getD_none]
  refine ref.ofRaw?_resourceId_iff.2 ⟨?_, ?_, ?_⟩
  · rw [hid, ne_eq, lower_eq_empty_iff, trim_eq_empty_iff, hset]
    exact Bool.false_ne_true
  · rw [trim_eq_iff_of_last ref.last_resourceId, hid, blank_head?_lower]
    exact (isTrimmed_trim raw).first
  · rw [hid, ← Bool.not_eq_true, hasScheme_lower_iff]
    exact not_beginsWithScheme_of_behindScheme? hbare

/-- A resource id that was written with the scheme gives its reference back unless what stood behind
the scheme is stray. -/
theorem ofRaw?_resourceId_of_marked (h : ofRaw? raw = some ref)
    (hbehind : behindScheme? raw = some rest) :
    ofRaw? ref.resourceId = some ref ↔ ¬ IsStray rest := by
  have hid : ref.resourceId = lower rest := by rw [resourceId_eq h, hbehind, Option.getD_some]
  have htrim : trim ref.resourceId = ref.resourceId ↔ trim rest = rest := by
    rw [trim_eq_iff_of_last ref.last_resourceId,
      trim_eq_iff_of_last (last_of_behindScheme? hbehind), hid, blank_head?_lower]
  have hscheme : hasScheme ref.resourceId = false ↔ ¬ BeginsWithScheme rest := by
    rw [← Bool.not_eq_true, hid, hasScheme_lower_iff]
  rw [ofRaw?_resourceId_iff, htrim, hscheme, ne_eq, hid, lower_eq_empty_iff, isStray_iff]
  simp only [not_or, ne_eq, Decidable.not_not]

/-- A reference has its resource id to itself, behind one scheme. The id begins with a scheme of its
own, or is blank, only if the text that the reference was made from has the scheme and behind it
another one, or nothing; and unless one of these stands there or a blank sets the rest off, the id
gives the reference back. -/
theorem resourceId_gives_back (h : ofRaw? raw = some ref) :
    ref.key = scheme ++ ref.resourceId ∧
      (∀ other : InstanceRef, other.resourceId = ref.resourceId → other = ref) ∧
      (hasScheme ref.resourceId = true ↔
        ∃ rest, behindScheme? raw = some rest ∧ BeginsWithScheme rest) ∧
      (blank ref.resourceId = true ↔ behindScheme? raw = some "") ∧
      (ofRaw? ref.resourceId = some ref ↔
        ∀ rest, behindScheme? raw = some rest → ¬ IsStray rest) := by
  refine ⟨ref.key_eq, fun other => resourceId_injective, ?_⟩
  cases hbehind : behindScheme? raw with
  | none =>
      have hback := ofRaw?_resourceId_of_bare h hbehind
      obtain ⟨hset, -, hbare⟩ := ref.ofRaw?_resourceId_iff.1 hback
      rw [blank_iff_of_last ref.last_resourceId, hbare]
      simp [hset, hback]
  | some rest =>
      have hid : ref.resourceId = lower rest := by
        rw [resourceId_eq h, hbehind, Option.getD_some]
      rw [blank_iff_of_last ref.last_resourceId, ofRaw?_resourceId_of_marked h hbehind, hid,
        hasScheme_lower_iff, lower_eq_empty_iff]
      simp

/-- The scheme in capitals, behind a blank, is known for one. -/
theorem resourceId_gives_back_capitals :
    let raw := " AZURE:///vm/ΟΔΟΣ"
    ∃ ref : InstanceRef, ofRaw? raw = some ref ∧ ref.resourceId = "/vm/οδος" ∧
      behindScheme? raw = some "/vm/ΟΔΟΣ" ∧ ofRaw? ref.resourceId = some ref := by
  intro raw
  have hkey : instanceKey? raw = some "azure:///vm/οδος" := by decide +kernel
  have hbehind : behindScheme? raw = some "/vm/ΟΔΟΣ" := by decide
  have hscheme : "azure:///vm/οδος" = scheme ++ "/vm/οδος" := by decide
  let ref : InstanceRef := ⟨_, raw, hkey⟩
  have href : ofRaw? raw = some ref := ofRaw?_eq_some_iff.2 hkey
  refine ⟨ref, href, resourceId_of_key hscheme, hbehind, ?_⟩
  apply (resourceId_gives_back href).2.2.2.2.2
  intro rest hrest
  obtain rfl := Option.some.inj (hbehind.symm.trans hrest)
  decide

/-- A second scheme stays in the resource id, which then stands for another instance. -/
theorem second_scheme_stays :
    let raw := "azure://azure:///vm/a"
    ∃ ref other : InstanceRef, ofRaw? raw = some ref ∧ ref.key = raw ∧
      hasScheme ref.resourceId = true ∧ ofRaw? ref.resourceId = some other ∧
      other.key = "azure:///vm/a" ∧ other ≠ ref := by
  intro raw
  have hkey : instanceKey? raw = some raw := by decide +kernel
  have hkey' : instanceKey? "azure:///vm/a" = some "azure:///vm/a" := by decide +kernel
  have hscheme : raw = scheme ++ "azure:///vm/a" := by decide
  have hother : "azure:///vm/a" ≠ raw := by decide
  let ref : InstanceRef := ⟨raw, raw, hkey⟩
  have hid : ref.resourceId = "azure:///vm/a" := resourceId_of_key hscheme
  refine ⟨ref, ⟨_, _, hkey'⟩, ofRaw?_eq_some_iff.2 hkey, rfl, ?_, ?_, rfl, ?_⟩
  · rw [hid]
    decide
  · rw [hid]
    exact ofRaw?_eq_some_iff.2 hkey'
  · exact ne_of_apply_ne key hother

end InstanceRef
end Written

end FleetWarden
