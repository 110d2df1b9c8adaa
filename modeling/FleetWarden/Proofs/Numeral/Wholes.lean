import FleetWarden.Numeral.Whole
import FleetWarden.Proofs.Numeral.Digits
import FleetWarden.Proofs.Text.Trimming

/-!
# Whole numbers read back

A whole number that is not too long to be written is read back from its decimal form. What is read
from any text is never too long to be written, since leading zeros, underscores, blanks and a sign
only take up room.
-/

namespace FleetWarden.Numeral.Whole

open Text

theorem toNat_of_isDigit {c : Char} (h : c.isDigit = true) : 48 ≤ c.toNat ∧ c.toNat ≤ 57 :=
  Char.isDigit_iff_toNat.1 h

/-- The digits of the first script are told by the zero that they follow. -/
theorem digitValue?_of_isDigit {c : Char} (h : c.isDigit = true) :
    digitValue? c = some (c.toNat - 48) := by
  obtain ⟨hlow, hhigh⟩ := toNat_of_isDigit h
  rw [digitValue?, digitZeros, List.findSome?_cons, if_pos (by omega)]

theorem isBlank_of_isDigit {c : Char} (h : c.isDigit = true) : isBlank c = false := by
  have hoff : ∀ s ∈ blankSpans, s.2 < 48 ∨ 57 < s.1 := by decide
  obtain ⟨hlow, hhigh⟩ := toNat_of_isDigit h
  rw [isBlank, ← Bool.not_eq_true, inSpans_iff]
  rintro ⟨s, hs, hfirst, hlast⟩
  have hs := hoff s hs
  omega

theorem isNumeralBlank_of_isDigit {c : Char} (h : c.isDigit = true) : isNumeralBlank c = false := by
  rw [isNumeralBlank, isBlank_of_isDigit h, Bool.false_and]

theorem isNumeralChar_of_isDigit {c : Char} (h : c.isDigit = true) : isNumeralChar c = true := by
  simp [isNumeralChar, digitValue?_of_isDigit h]

theorem digitValues?_of_isDigit {cs : List Char} (h : ∀ c ∈ cs, c.isDigit = true)
    {afterDigit : Bool} (hstart : afterDigit = true ∨ cs ≠ []) :
    digitValues? afterDigit cs = some (digitValues cs) := by
  induction cs generalizing afterDigit with
  | nil =>
      obtain rfl := hstart.resolve_right fun hne => hne rfl
      rfl
  | cons c rest ih =>
      obtain ⟨hc, hrest⟩ := List.forall_mem_cons.1 h
      have hunder : c ≠ '_' := by
        rintro rfl
        cases hc
      rw [digitValues?, if_neg hunder, digitValue?_of_isDigit hc, ih hrest (.inl rfl)]
      rfl

theorem splitSign_of_isDigit {cs : List Char} (h : ∀ c ∈ cs, c.isDigit = true) :
    splitSign cs = (false, cs) := by
  unfold splitSign
  split
  · cases h '-' (by simp)
  · cases h '+' (by simp)
  · rfl

theorem readDigits_digits {n : Nat} (h : (digits n).length ≤ digitLimit) :
    readDigits (digits n) = .ok n := by
  have hdigits : ∀ c ∈ digits n, c.isDigit = true := fun c hc => isDigit_of_mem_digits hc
  have hnumeral : ∀ c ∈ digits n, isNumeralChar c = true := fun c hc =>
    isNumeralChar_of_isDigit (hdigits c hc)
  have hne : digits n ≠ [] := List.ne_nil_of_length_pos (length_digits_pos n)
  rw [readDigits, List.takeWhile_eq_self_iff.2 hnumeral, digitValues?_of_isDigit hdigits (.inr hne)]
  dsimp only
  rw [length_digitValues, if_neg (Nat.not_lt.2 h), if_pos (List.all_eq_true.2 hnumeral),
    ofDigits_digits]

theorem trimBy_of_isDigit {cs : List Char} (h : ∀ c ∈ cs, c.isDigit = true) :
    trimBy isNumeralBlank cs = cs :=
  trimBy_of_isTrimmed
    ⟨fun c hc => isNumeralBlank_of_isDigit (h c (List.mem_of_head? hc)),
      fun c hc => isNumeralBlank_of_isDigit (h c (List.mem_of_getLast? hc))⟩

/-- A natural number is read back from its decimal form. -/
theorem read_text {n : Nat} (h : (digits n).length ≤ digitLimit) : read (text n) = .ok n := by
  have hdigits : ∀ c ∈ digits n, c.isDigit = true := fun c hc => isDigit_of_mem_digits hc
  have htext : (text n).toList = digits n := String.toList_ofList
  rw [read, htext, trimBy_of_isDigit hdigits, splitSign_of_isDigit hdigits]
  dsimp only
  rw [readDigits_digits h]
  rfl

theorem lt_of_digitValues? {cs : List Char} {afterDigit : Bool} {ds : List Nat}
    (h : digitValues? afterDigit cs = some ds) : ∀ d ∈ ds, d < 10 := by
  induction cs generalizing afterDigit ds with
  | nil =>
      rw [digitValues?] at h
      split at h <;> cases h
      simp
  | cons c rest ih =>
      rw [digitValues?] at h
      split at h
      · split at h
        · exact ih h
        · cases h
      · split at h
        · rename_i d hd
          obtain ⟨ds', hds', rfl⟩ := Option.map_eq_some_iff.1 h
          exact List.forall_mem_cons.2 ⟨digitValue?_lt hd, ih hds'⟩
        · cases h

theorem ofDigits_lt {ds : List Nat} (h : ∀ d ∈ ds, d < 10) : ofDigits ds < 10 ^ ds.length := by
  induction ds using List.reverseRecOn with
  | nil => decide
  | append_singleton ds d ih =>
      have hd : d < 10 := h d (by simp)
      have hds : ofDigits ds < 10 ^ ds.length := ih fun d' hd' => h d' (List.mem_append_left _ hd')
      have hlast : ofDigits (ds ++ [d]) = 10 * ofDigits ds + d := by simp [ofDigits]
      rw [hlast, List.length_append, List.length_singleton, Nat.pow_succ]
      omega

theorem length_digits_le {m n : Nat} (h : m ≤ n) : (digits m).length ≤ (digits n).length :=
  (Nat.length_toDigits_le_iff (by decide) (length_digits_pos n)).2
    (h.trans_lt (lt_pow_length_digits n))

theorem length_digits_of_readDigits {cs : List Char} {n : Nat} (h : readDigits cs = .ok n) :
    (digits n).length ≤ digitLimit := by
  rw [readDigits] at h
  split at h
  · cases h
  · rename_i ds hds
    split_ifs at h with hlong
    cases h
    refine (Nat.length_toDigits_le_iff (by decide) (by decide)).2 ?_
    exact (ofDigits_lt (lt_of_digitValues? hds)).trans_le
      (Nat.pow_le_pow_right (by decide) (Nat.not_lt.1 hlong))

/-- What is read can be written. -/
theorem length_digits_of_read {s : String} {n : Int} (h : read s = .ok n) :
    (digits n.natAbs).length ≤ digitLimit := by
  rw [read] at h
  dsimp only at h
  cases hread : readDigits (splitSign (trimBy isNumeralBlank s.toList)).2 with
  | error e =>
      rw [hread] at h
      cases h
  | ok m =>
      rw [hread] at h
      have hn : n.natAbs = m := by
        cases h
        split <;> simp
      exact hn ▸ length_digits_of_readDigits hread

end FleetWarden.Numeral.Whole
