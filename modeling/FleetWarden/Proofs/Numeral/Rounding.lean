import FleetWarden.Numeral.Binary64
import Mathlib.Data.Nat.Log
import Mathlib.Tactic.Positivity
import Mathlib.Tactic.NormNum

/-!
# Rounding a quotient

Rounding depends on the value of a quotient only, not on how it is written as one
(`nearestCode_of_eq`), and leaves magnitudes as they are (`nearestCode_units`). Quotients below half
a unit round to zero, and those beyond all binades round past the last magnitude. Counts of units
do so from half a step past the last magnitude on (`magnitudes_le_nearestCode_iff`).
-/

namespace FleetWarden.Numeral.Binary64

theorem twoTo_pos (n : Nat) : 0 < twoTo n := Nat.pow_pos (by decide)

theorem nearestCode_mul_right (num den : Nat) {k : Nat} (hk : 0 < k) :
    nearestCode (num * k) (den * k) = nearestCode num den := by
  have hstep (shift : Nat) : den * k * twoTo shift = den * twoTo shift * k :=
    Nat.mul_right_comm _ _ _
  have hdouble (a b : Nat) : 2 * (a * k) > b * k ↔ 2 * a > b := by
    rw [← Nat.mul_assoc]
    exact Nat.mul_lt_mul_right hk
  have htie (a b : Nat) : 2 * (a * k) = b * k ↔ 2 * a = b := by
    rw [← Nat.mul_assoc]
    exact Nat.mul_left_inj (Nat.pos_iff_ne_zero.1 hk)
  simp only [nearestCode, hstep, Nat.mul_div_mul_right _ _ hk, Nat.mul_mod_mul_right, hdouble, htie]

/-- Equal quotients round alike. -/
theorem nearestCode_of_eq {num den num' den' : Nat} (hden : 0 < den) (hden' : 0 < den')
    (h : num * den' = num' * den) : nearestCode num den = nearestCode num' den' := by
  calc
    nearestCode num den = nearestCode (num * den') (den * den') :=
      (nearestCode_mul_right num den hden').symm
    _ = nearestCode (num' * den) (den' * den) := by rw [h, Nat.mul_comm den]
    _ = nearestCode num' den' := nearestCode_mul_right num' den' hden

/-- A whole number of steps is not rounded. -/
theorem nearestCode_of_exact {n shift : Nat} (hshift : (n * twoTo shift).log2 - 52 = shift) :
    nearestCode (n * twoTo shift) 1 = shift * binadeSize + n := by
  simp only [nearestCode, Nat.div_one, hshift, Nat.one_mul, Nat.mul_mod_left,
    Nat.mul_div_cancel _ (twoTo_pos shift)]
  have := twoTo_pos shift
  rw [if_neg (by omega)]

theorem nearestCode_units (code : Nat) : nearestCode (units code) 1 = code := by
  have hfraction : code % binadeSize < binadeSize := Nat.mod_lt _ (by decide)
  have hcode : binadeSize * (code / binadeSize) + code % binadeSize = code :=
    Nat.div_add_mod code binadeSize
  -- Magnitudes of the first binade have no leading bit.
  by_cases hbinade : code / binadeSize = 0
  · have hunits : units code = code % binadeSize * twoTo 0 := by simp [units, hbinade, twoTo]
    have hlog : (code % binadeSize * twoTo 0).log2 - 52 = 0 := by
      rw [show twoTo 0 = 1 from rfl, Nat.mul_one, Nat.sub_eq_zero_iff_le]
      by_cases hzero : code % binadeSize = 0
      · simp [hzero]
      · exact Nat.le_of_lt ((Nat.log2_lt hzero).2 (by simpa using hfraction))
    rw [hunits, nearestCode_of_exact hlog]
    rw [hbinade] at hcode
    omega
  · obtain ⟨binade, hsucc⟩ := Nat.exists_eq_succ_of_ne_zero hbinade
    have hunits : units code = (binadeSize + code % binadeSize) * twoTo binade := by
      simp [units, hsucc]
    have hlog : ((binadeSize + code % binadeSize) * twoTo binade).log2 = 52 + binade := by
      have hpos : (binadeSize + code % binadeSize) * twoTo binade ≠ 0 := by
        have := twoTo_pos binade
        positivity
      rw [Nat.log2_eq_iff hpos, show twoTo binade = 2 ^ binade from rfl]
      constructor
      · rw [Nat.pow_add]
        exact Nat.mul_le_mul_right _ (Nat.le_add_right binadeSize _)
      · rw [Nat.add_right_comm, Nat.pow_add]
        exact Nat.mul_lt_mul_of_pos_right (by norm_num; omega) (by positivity)
    rw [hunits, nearestCode_of_exact (by omega)]
    rw [hsucc, Nat.mul_succ, Nat.mul_comm, Nat.add_assoc] at hcode
    exact hcode

/-- Less than half a unit is nothing. -/
theorem nearestCode_eq_zero {num den : Nat} (h : 2 * num < den) : nearestCode num den = 0 := by
  have hq : num / den = 0 := Nat.div_eq_of_lt (by omega)
  have hr : num % den = num := Nat.mod_eq_of_lt (by omega)
  simp only [nearestCode, hq, Nat.log2_zero, Nat.zero_sub, show twoTo 0 = 1 from rfl, Nat.mul_one,
    hr, Nat.zero_mul]
  rw [if_neg (by omega)]

theorem nearestCode_zero {den : Nat} (h : 0 < den) : nearestCode 0 den = 0 :=
  nearestCode_eq_zero h

/-- Beyond all binades there is no magnitude. -/
theorem magnitudes_le_nearestCode {num den k : Nat} (hk : 2099 ≤ k) (hden : 0 < den)
    (h : 2 ^ k * den ≤ num) : magnitudes ≤ nearestCode num den := by
  have hq : 2 ^ k ≤ num / den := (Nat.le_div_iff_mul_le hden).2 h
  have hpos : num / den ≠ 0 := Nat.pos_iff_ne_zero.1 (lt_of_lt_of_le (by positivity) hq)
  have hlog : k ≤ (num / den).log2 := (Nat.le_log2 hpos).2 hq
  have hshift : magnitudes ≤ ((num / den).log2 - 52) * binadeSize :=
    Nat.mul_le_mul_right _ (Nat.le_sub_of_add_le (hk.trans hlog))
  refine hshift.trans ?_
  rw [nearestCode]
  split
  · exact (Nat.le_add_right _ _).trans (Nat.le_succ _)
  · exact Nat.le_add_right _ _

theorem twoTo_add (m n : Nat) : twoTo (m + n) = twoTo m * twoTo n := Nat.pow_add 2 m n

theorem twoTo_le_twoTo {m n : Nat} (h : m ≤ n) : twoTo m ≤ twoTo n :=
  Nat.pow_le_pow_right (by decide) h

/-- Half a step past the last magnitude is a tie, and the tie goes up. -/
theorem magnitudes_le_nearestCode_iff {num : Nat} :
    magnitudes ≤ nearestCode num 1 ↔ twoTo 2098 - twoTo 2044 ≤ num := by
  have hbinade : binadeSize = 4503599627370496 := rfl
  have hmagnitudes : magnitudes = 2047 * 4503599627370496 := rfl
  have hend : twoTo 2098 = 18014398509481984 * twoTo 2044 := by
    rw [show 2098 = 54 + 2044 from rfl, twoTo_add, show twoTo 54 = 18014398509481984 from rfl]
  obtain ⟨shift, hshift⟩ : ∃ shift, num.log2 - 52 = shift := ⟨_, rfl⟩
  have hstep := twoTo_pos shift
  have hlast := twoTo_pos 2044
  have hcode : nearestCode num 1 =
      if 2 * (num % twoTo shift) > twoTo shift ∨ (2 * (num % twoTo shift) = twoTo shift ∧
          (shift * binadeSize + num / twoTo shift) % 2 = 1) then
        shift * binadeSize + num / twoTo shift + 1
      else shift * binadeSize + num / twoTo shift := by
    simp only [nearestCode, Nat.div_one, hshift, Nat.one_mul]
  have hupper : num < 9007199254740992 * twoTo shift := by
    have htop : num < twoTo (53 + shift) :=
      Nat.lt_of_lt_of_le Nat.lt_log2_self (twoTo_le_twoTo (by omega))
    rwa [twoTo_add, show twoTo 53 = 9007199254740992 from rfl] at htop
  have hquotient : num / twoTo shift < 9007199254740992 := (Nat.div_lt_iff_lt_mul hstep).2 hupper
  rcases Nat.lt_trichotomy shift 2045 with hlt | rfl | hgt
  · have hcodes : shift * binadeSize ≤ 2044 * binadeSize :=
      Nat.mul_le_mul_right _ (Nat.le_of_lt_succ hlt)
    have hsteps : twoTo shift ≤ twoTo 2044 := twoTo_le_twoTo (Nat.le_of_lt_succ hlt)
    refine iff_of_false ?_ (by omega)
    rw [hcode]
    split <;> omega
  · have hdouble : twoTo 2045 = 2 * twoTo 2044 := by
      rw [show 2045 = 1 + 2044 from rfl, twoTo_add, show twoTo 1 = 2 from rfl]
    have hsplit := Nat.div_add_mod num (twoTo 2045)
    have hrest := Nat.mod_lt num hstep
    generalize num / twoTo 2045 = q at *
    generalize num % twoTo 2045 = r at *
    rcases Nat.lt_or_eq_of_le (Nat.le_of_lt_succ hquotient) with hq | rfl
    · have hbelow : twoTo 2045 * q ≤ twoTo 2045 * 9007199254740990 :=
        Nat.mul_le_mul_left _ (Nat.le_of_lt_succ hq)
      refine iff_of_false ?_ (by omega)
      rw [hcode]
      split <;> omega
    · rw [hcode]
      split <;> omega
  · have hpos : num ≠ 0 := by
      rintro rfl
      rw [Nat.log2_zero] at hshift
      omega
    have hlower : twoTo (52 + shift) ≤ num := by
      have hlog : num.log2 = 52 + shift := by omega
      rw [← hlog]
      exact Nat.log2_self_le hpos
    have hdigits : 4503599627370496 ≤ num / twoTo shift := by
      rw [Nat.le_div_iff_mul_le hstep]
      rwa [twoTo_add, show twoTo 52 = 4503599627370496 from rfl] at hlower
    have hcodes : 2046 * binadeSize ≤ shift * binadeSize := Nat.mul_le_mul_right _ hgt
    have hsteps : twoTo 2098 ≤ twoTo (52 + shift) := twoTo_le_twoTo (by omega)
    refine iff_of_true ?_ (by omega)
    rw [hcode]
    split <;> omega

/-- The whole numbers that lie beyond all numbers. -/
theorem ofInt?_eq_none_iff {n : Int} :
    ofInt? n = none ↔ twoTo 1024 - twoTo 970 ≤ n.natAbs := by
  have hbounded : ofInt? n = none ↔ magnitudes ≤ nearestCode (n.natAbs * twoTo 1074) 1 := by
    rw [ofInt?, ofRatio, ofCode, unitsPerOne]
    split <;> simp_all [bounded?]
  rw [hbounded, magnitudes_le_nearestCode_iff, twoTo_add 1024 1074, twoTo_add 970 1074,
    ← Nat.sub_mul, Nat.mul_le_mul_right_iff (twoTo_pos 1074)]

end FleetWarden.Numeral.Binary64
