import FleetWarden.Numeral.Shortest
import Mathlib.Algebra.Group.Nat.Defs
import Mathlib.Data.List.DropRight

/-!
# Digits

What the decimal digits of a natural number say about it: they stand for the number, the first one
is no zero unless the number is, and their count bounds the number from both sides. Zeros at the end
multiply by ten.
-/

namespace FleetWarden.Numeral

namespace Whole

theorem tenTo_eq (n : Nat) : tenTo n = 10 ^ n := rfl

theorem tenTo_pos (n : Nat) : 0 < tenTo n := Nat.pow_pos (by decide)

/-- The values of decimal digits. -/
def digitValues (cs : List Char) : List Nat := cs.map fun c => c.toNat - 48

@[simp] theorem length_digitValues (cs : List Char) : (digitValues cs).length = cs.length :=
  List.length_map _

theorem digitValues_append (xs ys : List Char) :
    digitValues (xs ++ ys) = digitValues xs ++ digitValues ys := List.map_append

theorem digitValues_zeros (k : Nat) :
    digitValues (List.replicate k '0') = List.replicate k 0 := by
  simp [digitValues]

theorem digitValues_eq_nil {cs : List Char} : digitValues cs = [] ↔ cs = [] := List.map_eq_nil_iff

theorem head?_digitValues {cs : List Char} (hdigits : ∀ c ∈ cs, c.isDigit = true)
    (h : cs.head? ≠ some '0') : (digitValues cs).head? ≠ some 0 := by
  cases cs with
  | nil => simp [digitValues]
  | cons c rest =>
      have hc := hdigits c (by simp)
      intro hzero
      have hvalue : c.toNat - 48 = 0 := by simpa [digitValues] using hzero
      have hlow : 48 ≤ c.toNat := (Char.isDigit_iff_toNat.1 hc).1
      have hcode : c.toNat = '0'.toNat := Nat.le_antisymm (Nat.sub_eq_zero_iff_le.1 hvalue) hlow
      exact h (congrArg some (Char.toNat_inj.1 hcode))

theorem ofDigits_digitValues (cs : List Char) :
    ofDigits (digitValues cs) = Nat.ofDigitChars 10 cs 0 := by
  rw [ofDigits, digitValues, List.foldl_map, Nat.ofDigitChars_eq_foldl]
  rfl

theorem ofDigits_digits (n : Nat) : ofDigits (digitValues (digits n)) = n := by
  rw [ofDigits_digitValues, digits, Nat.ofDigitChars_ten_toDigits]

theorem ofDigits_append_zeros (ds : List Nat) (k : Nat) :
    ofDigits (ds ++ List.replicate k 0) = ofDigits ds * 10 ^ k := by
  induction k with
  | zero => simp
  | succ k ih =>
      have hlast : ofDigits (ds ++ List.replicate k 0 ++ [0]) =
          10 * ofDigits (ds ++ List.replicate k 0) := by
        simp [ofDigits]
      rw [List.replicate_succ', ← List.append_assoc, hlast, ih, Nat.pow_succ, Nat.mul_comm 10,
        Nat.mul_assoc]

theorem ofDigits_zeros_append (k : Nat) (ds : List Nat) :
    ofDigits (List.replicate k 0 ++ ds) = ofDigits ds := by
  induction k with
  | zero => rfl
  | succ k ih => exact ih

theorem isDigit_of_mem_digits {n : Nat} {c : Char} (h : c ∈ digits n) : c.isDigit = true :=
  Nat.isDigit_of_mem_toDigits (by decide) (by decide) h

theorem isDigit_of_mem_zeros {k : Nat} {c : Char} (h : c ∈ List.replicate k '0') :
    c.isDigit = true := by
  rw [List.eq_of_mem_replicate h]
  rfl

theorem length_digits_pos (n : Nat) : 0 < (digits n).length := Nat.length_toDigits_pos

theorem lt_pow_length_digits (n : Nat) : n < 10 ^ (digits n).length :=
  (Nat.length_toDigits_le_iff (by decide) (length_digits_pos n)).1 le_rfl

theorem lt_length_digits_tenTo (n : Nat) : n < (digits (tenTo n)).length :=
  (Nat.pow_lt_pow_iff_right (by decide)).1 (lt_pow_length_digits (tenTo n))

theorem pow_length_digits_le {n : Nat} (h : 0 < n) : 10 ^ ((digits n).length - 1) ≤ n := by
  by_cases hone : (digits n).length - 1 = 0
  · rw [hone]
    exact h
  · by_contra hlt
    have hle : (digits n).length ≤ (digits n).length - 1 :=
      (Nat.length_toDigits_le_iff (by decide) (Nat.pos_iff_ne_zero.2 hone)).2 (Nat.lt_of_not_le hlt)
    omega

theorem head?_digits {n : Nat} (h : 0 < n) : (digits n).head? ≠ some '0' := by
  induction n using Nat.strongRecOn with
  | ind n ih =>
      rw [digits, Nat.toDigits_eq_if (by decide)]
      split
      · simp only [List.head?_cons, ne_eq, Option.some.injEq, Nat.digitChar_eq_zero]
        omega
      · have hrec := ih (n / 10) (by omega) (by omega)
        rwa [List.head?_append_of_ne_nil _ Nat.toDigits_ne_nil]

end Whole

/-- Only zeros at the end are not significant. -/
theorem digits_eq_significantDigits (n : Nat) :
    ∃ k, Whole.digits n = significantDigits n ++ List.replicate k '0' := by
  have hzeros : ∀ c ∈ (Whole.digits n).rtakeWhile (· = '0'), c = '0' := fun c hc => by
    simpa using List.mem_rtakeWhile_imp hc
  have hsplit : Whole.digits n =
      significantDigits n ++ (Whole.digits n).rtakeWhile (· = '0') :=
    (List.rdropWhile_append_rtakeWhile ..).symm
  exact ⟨_, List.eq_replicate_of_mem hzeros ▸ hsplit⟩

end FleetWarden.Numeral
