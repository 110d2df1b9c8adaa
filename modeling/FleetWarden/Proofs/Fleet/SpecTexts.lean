import FleetWarden.Fleet.Spec
import FleetWarden.Proofs.Numeral.Wholes

/-!
# Fleets read back

A fleet in the form `MIN:MAX:NAME` is read back as it was, colons in the name included, if its name
is trimmed and its bounds are not too long to be read. Every fleet that is read at all is of this
kind.
-/

namespace FleetWarden.FleetSpec

open Text Numeral

section
variable {low high name : String} {f : FleetSpec}

theorem splitColon?_append {cs : List Char} (h : ':' ∉ cs) (rest : List Char) :
    splitColon? (cs ++ ':' :: rest) = some (cs, rest) := by
  induction cs with
  | nil => rw [List.nil_append, splitColon?, if_pos rfl]
  | cons c cs ih =>
      rw [List.cons_append, splitColon?, if_neg (List.ne_of_not_mem_cons h).symm,
        ih (List.not_mem_of_not_mem_cons h)]
      rfl

/-- The first two colons part the text, whatever stands behind them. -/
theorem threeParts?_append (hlow : ':' ∉ low.toList) (hhigh : ':' ∉ high.toList) :
    threeParts? (low ++ ":" ++ high ++ ":" ++ name) = some (low, high, name) := by
  have hchars : (low ++ ":" ++ high ++ ":" ++ name).toList =
      low.toList ++ ':' :: (high.toList ++ ':' :: name.toList) := by
    simp [String.toList_append]
  rw [threeParts?, hchars, splitColon?_append hlow]
  dsimp only
  rw [splitColon?_append hhigh]
  simp only [String.ofList_toList]

theorem make_eq_ok_iff {minSize maxSize : Int} :
    make name minSize maxSize = .ok f ↔
      f.name = name ∧ minSize = f.minSize ∧ maxSize = f.maxSize := by
  constructor
  · intro h
    unfold make at h
    split_ifs at h with hname hmin hmax
    cases h
    exact ⟨rfl, (Int.toNat_of_nonneg hmin).symm,
      (Int.toNat_of_nonneg (Int.le_trans hmin hmax)).symm⟩
  · rintro ⟨rfl, rfl, rfl⟩
    rw [make, dif_pos f.name_isSet, dif_pos (Int.natCast_nonneg _),
      dif_pos (Int.ofNat_le.2 f.min_le_max)]
    rfl

/-- A text is read as a fleet part by part. -/
theorem read_eq_ok_iff {s : String} :
    read s = .ok f ↔ ∃ low high name, threeParts? s = some (low, high, name) ∧
      Whole.read low = .ok f.minSize ∧ Whole.read high = .ok f.maxSize ∧ f.name = trim name := by
  rw [read]
  cases hparts : threeParts? s with
  | none => simp
  | some parts =>
      obtain ⟨low, high, name⟩ := parts
      dsimp only
      constructor
      · intro h
        split at h
        · rename_i minSize maxSize hmin hmax
          obtain ⟨hname, rfl, rfl⟩ := make_eq_ok_iff.1 h
          exact ⟨low, high, name, rfl, hmin, hmax, hname⟩
        · cases h
      · rintro ⟨_, _, _, heq, hmin, hmax, hname⟩
        cases heq
        rw [hmin, hmax]
        exact make_eq_ok_iff.2 ⟨hname, rfl, rfl⟩

end

/-- Fleets that can be given as texts: the name is trimmed, and the bounds are not too long. -/
structure IsPlain (f : FleetSpec) : Prop where
  trimmed : trim f.name = f.name
  maxSize : (Whole.digits f.maxSize).length ≤ Whole.digitLimit

theorem IsPlain.minSize {f : FleetSpec} (h : f.IsPlain) :
    (Whole.digits f.minSize).length ≤ Whole.digitLimit :=
  (Whole.length_digits_le f.min_le_max).trans h.maxSize

theorem notMem_text {c : Char} (hc : c.isDigit = false) (n : Nat) :
    c ∉ (Whole.text n).toList := by
  have htext : (Whole.text n).toList = Whole.digits n := String.toList_ofList
  intro hmem
  rw [htext] at hmem
  rw [Whole.isDigit_of_mem_digits hmem] at hc
  cases hc

theorem read_written {f : FleetSpec} (h : f.IsPlain) : read f.written = .ok f :=
  read_eq_ok_iff.2 ⟨_, _, _, threeParts?_append (notMem_text rfl _) (notMem_text rfl _),
    Whole.read_text h.minSize, Whole.read_text h.maxSize, h.trimmed.symm⟩

theorem isPlain_of_read {s : String} {f : FleetSpec} (h : read s = .ok f) : f.IsPlain := by
  obtain ⟨low, high, name, -, -, hmax, hname⟩ := read_eq_ok_iff.1 h
  refine ⟨?_, Whole.length_digits_of_read hmax⟩
  rw [hname]
  exact trim_of_isTrimmed (isTrimmed_trim name)

end FleetWarden.FleetSpec
