import Mathlib.Data.Bool.AllAny
import FleetWarden.Proofs.Text.SmallForms
import FleetWarden.Proofs.Text.Trimming

/-!
# Lower-casing of texts

Texts that differ only in the case of letters in ASCII are lower-cased alike, in spite of the
context that a sigma looks at: a context looks through no letter of ASCII, and all of them are
cased. What is lower-cased consists of small characters, so lower-casing it again changes nothing,
and a trimmed text stays trimmed.

A slash stops every context. What stands behind one is lower-cased as if the text began there.
-/

namespace FleetWarden.Text

variable {before after cs ds : List Char} {c d : Char}

section Ascii

/-- Texts that differ at most in the case of letters in ASCII. -/
def SameLetters (s t : String) : Prop := s.toList.map Char.toLower = t.toList.map Char.toLower

instance (s t : String) : Decidable (SameLetters s t) := inferInstanceAs (Decidable (_ = _))

theorem meetsCased_map_toLower (cs : List Char) :
    meetsCased (cs.map Char.toLower) = meetsCased cs := by
  induction cs with
  | nil => rfl
  | cons c rest ih =>
      rw [List.map_cons, meetsCased, meetsCased, isCaseIgnorable_toLower, isCased_toLower, ih]

theorem toLower_eq_iff (hd : 0x80 ≤ d.toNat) : c.toLower = d ↔ c = d := by
  constructor
  · intro h
    obtain hself | ⟨-, hlast, hcode⟩ := toLower_cases c
    · rw [← hself, h]
    · rw [h] at hcode
      omega
  · rintro rfl
    obtain hself | ⟨-, hlast, -⟩ := toLower_cases c
    · exact hself
    · omega

theorem smallIn_map_toLower (before : List Char) (c : Char) (after : List Char) :
    smallIn (before.map Char.toLower) c.toLower (after.map Char.toLower) =
      smallIn before c after := by
  have hsigma : c.toLower = 'Σ' ↔ c = 'Σ' := toLower_eq_iff (by decide)
  have hdotted : c.toLower = 'İ' ↔ c = 'İ' := toLower_eq_iff (by decide)
  simp only [smallIn, hsigma, hdotted, meetsCased_map_toLower, small_toLower]

theorem lowerFrom_map_toLower (before cs : List Char) :
    lowerFrom (before.map Char.toLower) (cs.map Char.toLower) = lowerFrom before cs := by
  induction cs generalizing before with
  | nil => rfl
  | cons c rest ih =>
      rw [List.map_cons, lowerFrom, lowerFrom, smallIn_map_toLower, ← List.map_cons, ih]

theorem SameLetters.lower_eq {s t : String} (h : SameLetters s t) : lower s = lower t := by
  rw [lower, lower, ← lowerFrom_map_toLower [] s.toList, h, lowerFrom_map_toLower]

theorem SameLetters.trim {s t : String} (h : SameLetters s t) :
    SameLetters (trim s) (trim t) := by
  simp only [SameLetters, Text.trim, String.toList_ofList]
  rw [← trimBy_map isBlank_toLower, h, trimBy_map isBlank_toLower]

theorem SameLetters.eq_empty_iff {s t : String} (h : SameLetters s t) : s = "" ↔ t = "" := by
  rw [← String.toList_eq_nil_iff, ← String.toList_eq_nil_iff, ← List.map_eq_nil_iff, h,
    List.map_eq_nil_iff]

/-- Another case makes nothing blank. -/
theorem SameLetters.isBlank_eq_false {s t : String} (h : SameLetters s t)
    (ht : ∀ c ∈ t.toList, isBlank c = false) : ∀ c ∈ s.toList, isBlank c = false := by
  intro c hc
  have hmem : c.toLower ∈ t.toList.map Char.toLower := h ▸ List.mem_map_of_mem hc
  obtain ⟨c', hc', hsame⟩ := List.mem_map.1 hmem
  rw [← isBlank_toLower c, ← hsame, isBlank_toLower, ht c' hc']

end Ascii

section Small

theorem smallIn_cases (before : List Char) (c : Char) (after : List Char) :
    c = 'Σ' ∧ (smallIn before c after = ['ς'] ∨ smallIn before c after = ['σ']) ∨
      c = 'İ' ∧ smallIn before c after = ['i', '\u0307'] ∨
      c ≠ 'Σ' ∧ c ≠ 'İ' ∧ smallIn before c after = [small c] := by
  unfold smallIn
  split_ifs with hsigma hfinal hdotted
  · exact Or.inl ⟨hsigma, Or.inl rfl⟩
  · exact Or.inl ⟨hsigma, Or.inr rfl⟩
  · exact Or.inr (Or.inl ⟨hdotted, rfl⟩)
  · exact Or.inr (Or.inr ⟨hsigma, hdotted, rfl⟩)

theorem smallIn_of_isSmall (hc : IsSmall c) : smallIn before c after = [c] := by
  obtain ⟨rfl, -⟩ | ⟨rfl, -⟩ | ⟨-, -, hsmall⟩ := smallIn_cases before c after
  · exact absurd hc (by decide +kernel)
  · exact absurd rfl hc.1
  · rw [hsmall, hc.small_eq]

theorem isSmall_of_mem_smallIn (hd : d ∈ smallIn before c after) : IsSmall d := by
  -- The check goes along the list; one over all characters would not come to an end.
  have hspecial : ∀ d ∈ ['ς', 'σ', 'i', '\u0307'], IsSmall d :=
    List.all_iff_forall_prop.1 (by decide +kernel)
  obtain ⟨-, hform | hform⟩ | ⟨-, hform⟩ | ⟨-, hdotted, hform⟩ := smallIn_cases before c after
  · exact hspecial d (by grind)
  · exact hspecial d (by grind)
  · exact hspecial d (by grind)
  · rw [hform, List.mem_singleton] at hd
    rw [hd]
    exact isSmall_small hdotted

theorem isBlank_of_mem_smallIn (hd : d ∈ smallIn before c after) : isBlank d = isBlank c := by
  have hspecial : ∀ d ∈ ['Σ', 'ς', 'σ', 'İ', 'i', '\u0307'], isBlank d = false :=
    List.all_iff_forall_prop.1 (by decide)
  obtain ⟨rfl, hform | hform⟩ | ⟨rfl, hform⟩ | ⟨-, -, hform⟩ := smallIn_cases before c after
  · rw [hspecial d (by grind), hspecial 'Σ' (by decide)]
  · rw [hspecial d (by grind), hspecial 'Σ' (by decide)]
  · rw [hspecial d (by grind), hspecial 'İ' (by decide)]
  · rw [hform, List.mem_singleton] at hd
    rw [hd, isBlank_small]

theorem smallIn_ne_nil : smallIn before c after ≠ [] := by
  obtain ⟨-, hform | hform⟩ | ⟨-, hform⟩ | ⟨-, -, hform⟩ := smallIn_cases before c after <;>
    rw [hform] <;> exact List.cons_ne_nil _ _

/-- Lower-casing makes nothing at the front blank, and nothing blank go away there. -/
theorem isBlank_head?_lowerFrom (before cs : List Char) :
    (lowerFrom before cs).head?.map isBlank = cs.head?.map isBlank := by
  cases cs with
  | nil => rfl
  | cons c rest =>
      have hne : smallIn before c rest ≠ [] := smallIn_ne_nil
      obtain ⟨d, ds, hform⟩ := List.exists_cons_of_ne_nil hne
      have hd : isBlank d = isBlank c := isBlank_of_mem_smallIn (hform ▸ List.mem_cons_self)
      rw [lowerFrom, hform, List.cons_append, List.head?_cons, List.head?_cons, Option.map_some,
        Option.map_some, hd]

theorem isSmall_of_mem_lowerFrom (hd : d ∈ lowerFrom before cs) : IsSmall d := by
  induction cs generalizing before with
  | nil => cases hd
  | cons c rest ih =>
      obtain hhere | hlater := List.mem_append.1 hd
      · exact isSmall_of_mem_smallIn hhere
      · exact ih hlater

theorem lowerFrom_append_of_isSmall (hcs : ∀ c ∈ cs, IsSmall c) :
    lowerFrom before (cs ++ ds) = cs ++ lowerFrom (cs.reverse ++ before) ds := by
  induction cs generalizing before with
  | nil => rfl
  | cons c rest ih =>
      rw [List.cons_append, lowerFrom, smallIn_of_isSmall (hcs c List.mem_cons_self),
        ih fun c hc => hcs c (List.mem_cons_of_mem _ hc), List.reverse_cons, List.append_assoc]
      rfl

theorem lowerFrom_of_isSmall (hcs : ∀ c ∈ cs, IsSmall c) : lowerFrom before cs = cs := by
  have hall : lowerFrom before (cs ++ []) = cs ++ lowerFrom (cs.reverse ++ before) [] :=
    lowerFrom_append_of_isSmall hcs
  rwa [List.append_nil, lowerFrom, List.append_nil] at hall

theorem lowerFrom_eq_nil_iff : lowerFrom before cs = [] ↔ cs = [] := by
  cases cs with
  | nil => simp only [lowerFrom]
  | cons c rest =>
      simp only [lowerFrom, List.append_eq_nil_iff, smallIn_ne_nil, false_and, List.cons_ne_nil]

theorem isTrimmed_lowerFrom (h : IsTrimmed isBlank cs) :
    IsTrimmed isBlank (lowerFrom before cs) := by
  constructor
  · intro d hd
    cases cs with
    | nil => cases hd
    | cons c rest =>
        have hne : smallIn before c rest ≠ [] := smallIn_ne_nil
        obtain ⟨d', ds, hform⟩ := List.exists_cons_of_ne_nil hne
        rw [lowerFrom, hform, List.cons_append, List.head?_cons, Option.mem_some_iff] at hd
        rw [← hd, isBlank_of_mem_smallIn (hform ▸ List.mem_cons_self)]
        exact h.first c rfl
  · have hlast := h.last
    clear h
    induction cs generalizing before with
    | nil => intro d hd; cases hd
    | cons c rest ih =>
        intro d hd
        rw [lowerFrom, List.getLast?_append, Option.mem_def, Option.or_eq_some_iff] at hd
        obtain hlater | ⟨hnone, hhere⟩ := hd
        · refine ih (fun c' hc' => hlast c' ?_) d hlater
          rw [List.getLast?_cons, Option.mem_def.1 hc']
          rfl
        · rw [List.getLast?_eq_none_iff, lowerFrom_eq_nil_iff] at hnone
          rw [isBlank_of_mem_smallIn (List.mem_of_getLast? hhere)]
          apply hlast c
          rw [hnone]
          rfl

end Small

section Stops

/-- A slash is what no context looks through or takes for a cased character. -/
theorem meetsCased_append_slash (cs ds : List Char) :
    meetsCased (cs ++ '/' :: ds) = meetsCased cs := by
  have hnotIgnorable : isCaseIgnorable '/' = false := by decide +kernel
  have hnotCased : isCased '/' = false := by decide +kernel
  induction cs with
  | nil =>
      simp only [List.nil_append, meetsCased, hnotIgnorable, hnotCased, Bool.false_eq_true,
        if_false]
  | cons c rest ih => rw [List.cons_append, meetsCased, meetsCased, ih]

theorem lowerFrom_append_slash (before rest cs : List Char) :
    lowerFrom (before ++ '/' :: rest) cs = lowerFrom before cs := by
  induction cs generalizing before with
  | nil => rfl
  | cons c cs ih =>
      rw [lowerFrom, lowerFrom, ← List.cons_append, ih]
      simp only [smallIn, meetsCased_append_slash]

/-- A word that lower-casing can make only out of letters in ASCII stands where it seems to. -/
theorem isPrefix_of_lowerFrom {word : List Char}
    (hword : ∀ d ∈ word, d.toNat < 0x80 ∧ d ≠ 'i' ∧ d ≠ 'k')
    (h : word <+: lowerFrom before cs) : word <+: cs.map Char.toLower := by
  induction word generalizing before cs with
  | nil => exact List.nil_prefix
  | cons d word ih =>
      obtain ⟨hascii, hi, hk⟩ := hword d List.mem_cons_self
      cases cs with
      | nil => cases h with | intro _ h => cases h
      | cons c rest =>
          rw [lowerFrom] at h
          obtain ⟨-, hform | hform⟩ | ⟨-, hform⟩ | ⟨-, -, hform⟩ := smallIn_cases before c rest
          · rw [hform, List.singleton_append, List.cons_prefix_cons] at h
            rw [h.1] at hascii
            exact absurd hascii (by decide)
          · rw [hform, List.singleton_append, List.cons_prefix_cons] at h
            rw [h.1] at hascii
            exact absurd hascii (by decide)
          · rw [hform, List.cons_append, List.cons_prefix_cons] at h
            exact absurd h.1 hi
          · rw [hform, List.singleton_append, List.cons_prefix_cons] at h
            obtain ⟨rfl, hrest⟩ := h
            rw [List.map_cons, toLower_of_small hascii hk, List.cons_prefix_cons]
            exact ⟨rfl, ih (fun d hd => hword d (List.mem_cons_of_mem _ hd)) hrest⟩

end Stops

end FleetWarden.Text
