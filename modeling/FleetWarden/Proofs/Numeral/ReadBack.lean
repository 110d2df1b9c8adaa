import FleetWarden.Numeral.Real
import FleetWarden.Proofs.Numeral.Digits
import FleetWarden.Proofs.Numeral.Rounding
import Mathlib.Tactic.Ring

/-!
# Numbers read back

The shortest text of a number stands for that number. The decimal that is chosen rounds to the
number (`code_shortest`), so its first digit stands at a place that a reader does not cut off
(`place_bounds`), and no layout of its digits changes its value.
-/

namespace FleetWarden.Numeral

open Binary64 Whole

namespace Decimal

theorem code_mk (n : Nat) (e : Int) :
    (⟨n, e⟩ : Decimal).code =
      nearestCode (n * tenTo e.toNat * unitsPerOne) (tenTo (-e).toNat) := by
  rw [Decimal.code, ratio]

theorem nearestCode_fives (n k : Nat) :
    nearestCode (n * Nat.pow 5 k * tenTo (-(k : Int)).toNat * twoTo k)
      (tenTo (- -(k : Int)).toNat) = nearestCode n 1 := by
  have hpow : n * 5 ^ k * 1 * 2 ^ k * 1 = n * 10 ^ k := by
    rw [show (10 : Nat) = 5 * 2 from rfl, Nat.mul_pow]
    ring
  rw [Int.toNat_neg_natCast, Int.neg_neg, Int.toNat_natCast]
  exact nearestCode_of_eq (tenTo_pos k) Nat.one_pos hpow

theorem code_exact (code : Nat) : (exact code).code = code := by
  rw [exact, code_mk, unitsPerOne, show (-1074 : Int) = -((1074 : Nat) : Int) from rfl]
  generalize 1074 = k
  exact (nearestCode_fives (units code) k).trans (nearestCode_units code)

theorem passes_of_firstOn {grid : Nat → List Decimal} {test : Decimal → Bool} {more count : Nat}
    {d : Decimal} (h : firstOn grid test more count = some d) : test d = true := by
  induction more generalizing count with
  | zero => cases h
  | succ more ih =>
      rw [firstOn] at h
      cases hfind : (grid count).find? test with
      | none => exact ih (by simpa only [hfind] using h)
      | some d' =>
          simp only [hfind, Option.some.injEq] at h
          subst h
          exact List.find?_some hfind

/-- The shortest decimal reads as the magnitude that it was chosen for. -/
theorem code_shortest (code : Nat) : (shortest code).code = code := by
  rw [shortest]
  cases h : search code (place code) 17 1 with
  | none => exact code_exact code
  | some d => simpa [readsAs] using passes_of_firstOn h

/-- What does not round to zero has its first digit at most 330 places behind the point. -/
theorem le_place_of_nearestCode_ne_zero {n unit : Nat} {e : Int} (hunit : 2 * unit ≤ 10 ^ 331)
    (h : nearestCode (n * 10 ^ e.toNat * unit) (10 ^ (-e).toNat) ≠ 0) :
    -330 ≤ ((digits n).length : Int) + e := by
  have hlength := length_digits_pos n
  by_contra hlow
  refine h (nearestCode_eq_zero ?_)
  have hexp : e.toNat = 0 := by omega
  have hlen : (digits n).length + 331 ≤ (-e).toNat := by omega
  calc
    2 * (n * 10 ^ e.toNat * unit) = n * (2 * unit) := by rw [hexp]; ring
    _ ≤ n * 10 ^ 331 := Nat.mul_le_mul_left _ hunit
    _ < 10 ^ (digits n).length * 10 ^ 331 :=
      Nat.mul_lt_mul_of_pos_right (lt_pow_length_digits n) (by positivity)
    _ = 10 ^ ((digits n).length + 331) := by rw [Nat.pow_add]
    _ ≤ 10 ^ (-e).toNat := Nat.pow_le_pow_right (by decide) hlen

/-- What rounds to a magnitude has its first digit at most 310 places before the point. -/
theorem place_le_of_nearestCode_lt {n unit : Nat} {e : Int} (hunit : 2 ^ 2099 ≤ 10 ^ 310 * unit)
    (hpos : 0 < n) (h : nearestCode (n * 10 ^ e.toNat * unit) (10 ^ (-e).toNat) < magnitudes) :
    ((digits n).length : Int) + e ≤ 310 := by
  have hlength := length_digits_pos n
  by_contra hhigh
  have hlen : 310 + (-e).toNat ≤ (digits n).length - 1 + e.toNat := by omega
  refine absurd h (Nat.not_lt.2 (magnitudes_le_nearestCode le_rfl (by positivity) ?_))
  calc
    2 ^ 2099 * 10 ^ (-e).toNat ≤ 10 ^ 310 * unit * 10 ^ (-e).toNat :=
      Nat.mul_le_mul_right _ hunit
    _ = 10 ^ (310 + (-e).toNat) * unit := by rw [Nat.pow_add, Nat.mul_right_comm]
    _ ≤ 10 ^ ((digits n).length - 1 + e.toNat) * unit :=
      Nat.mul_le_mul_right _ (Nat.pow_le_pow_right (by decide) hlen)
    _ = 10 ^ ((digits n).length - 1) * 10 ^ e.toNat * unit := by rw [Nat.pow_add]
    _ ≤ n * 10 ^ e.toNat * unit :=
      Nat.mul_le_mul_right _ (Nat.mul_le_mul_right _ (pow_length_digits_le hpos))

theorem significand_pos {d : Decimal} (h : d.code ≠ 0) : 0 < d.significand := by
  obtain ⟨n, e⟩ := d
  refine Nat.pos_of_ne_zero fun hn => h ?_
  change n = 0 at hn
  rw [hn, code_mk, Nat.mul_assoc, Nat.zero_mul]
  exact nearestCode_zero (tenTo_pos _)

/-- The first digit of a decimal that reads as a finite magnitude other than zero stands at a place
within the range of such magnitudes. -/
theorem place_bounds {d : Decimal} (hzero : d.code ≠ 0) (hfinite : d.code < magnitudes) :
    -330 ≤ ((digits d.significand).length : Int) + d.exponent ∧
      ((digits d.significand).length : Int) + d.exponent ≤ 310 := by
  have hsmall : 2 * unitsPerOne ≤ 10 ^ 331 := by decide +kernel
  have hlarge : 2 ^ 2099 ≤ 10 ^ 310 * unitsPerOne := by decide +kernel
  have hpos := significand_pos hzero
  rw [Decimal.code, ratio, tenTo_eq, tenTo_eq] at hzero hfinite
  exact ⟨le_place_of_nearestCode_ne_zero hsmall hzero,
    place_le_of_nearestCode_lt hlarge hpos hfinite⟩

end Decimal

/-- A numeral without its sign, in the characters that it is written with. -/
structure Spelling where
  whole : List Char
  fraction : List Char
  exponent : Option Int
deriving DecidableEq, Repr

namespace Spelling

/-- An exponent of at least so many digits. -/
def exponentText (width : Nat) (power : Int) : List Char :=
  'e' :: (if power < 0 then '-' else '+') ::
    (List.replicate (width - (digits power.natAbs).length) '0' ++ digits power.natAbs)

/-- The digits after the point with the point; no digits need no point. -/
def pointText : List Char → List Char
  | [] => []
  | c :: ds => '.' :: c :: ds

theorem pointText_of_ne_nil {ds : List Char} (h : ds ≠ []) : pointText ds = '.' :: ds := by
  obtain ⟨c, rest, rfl⟩ := List.exists_cons_of_ne_nil h
  rfl

/-- The numeral as a text. -/
def text (width : Nat) (s : Spelling) : List Char :=
  s.whole ++ (pointText s.fraction ++ (s.exponent.map (exponentText width)).getD [])

/-- What a reader makes of the numeral. -/
def parts (s : Spelling) : Real.Parts :=
  ⟨digitValues s.whole, digitValues s.fraction, s.exponent.getD 0⟩

/-- The digits are decimal digits, there is no needless zero in front, and a point or an exponent
tells the numeral from a whole number. -/
structure IsReal (s : Spelling) : Prop where
  whole : ∃ c rest, s.whole = c :: rest ∧ (c = '0' → rest = [])
  whole_digits : ∀ c ∈ s.whole, c.isDigit = true
  fraction_digits : ∀ c ∈ s.fraction, c.isDigit = true
  marked : s.fraction = [] → s.exponent ≠ none

end Spelling

/-- The numeral that a layout makes of digits. -/
def Layout.spelling (layout : Layout) (ds : List Char) (place : Int) : Spelling :=
  if layout.above < place ∧ place ≤ layout.upTo then
    if place ≤ 0 then ⟨['0'], List.replicate (-place).toNat '0' ++ ds, none⟩
    else
      ⟨ds.take place.toNat ++ List.replicate (place.toNat - ds.length) '0',
        if ds.length ≤ place.toNat then ['0'] else ds.drop place.toNat, none⟩
  else ⟨ds.take 1, ds.tail, some (place - 1)⟩

theorem Layout.render_eq_text (layout : Layout) {ds : List Char} (hds : ds ≠ []) (place : Int) :
    layout.render ds place = (layout.spelling ds place).text layout.exponentWidth := by
  rw [render, spelling]
  split
  · split
    · have hne : List.replicate (-place).toNat '0' ++ ds ≠ [] := by simp [hds]
      simp [Spelling.text, Spelling.pointText_of_ne_nil hne]
    · by_cases hlen : ds.length ≤ place.toNat
      · simp [Spelling.text, Spelling.pointText, hlen]
      · have hne : ds.drop place.toNat ≠ [] := by simpa using Nat.lt_of_not_le hlen
        simp [Spelling.text, Spelling.pointText_of_ne_nil hne, hlen]
  · cases ds.tail <;> simp [Spelling.text, Spelling.pointText, Spelling.exponentText]

theorem Layout.isReal_spelling (layout : Layout) {ds : List Char} (hds : ds ≠ [])
    (hdigits : ∀ c ∈ ds, c.isDigit = true) (hhead : ds.head? ≠ some '0') (place : Int) :
    (layout.spelling ds place).IsReal := by
  obtain ⟨c, rest, rfl⟩ := List.exists_cons_of_ne_nil hds
  have hc : ¬c = '0' := by simpa using hhead
  have hzero : ('0').isDigit = true := rfl
  rw [spelling]
  split
  · split
    · refine ⟨⟨'0', [], rfl, fun _ => rfl⟩, by simp, ?_, by simp⟩
      intro x hx
      rcases List.mem_append.1 hx with hx | hx
      · exact isDigit_of_mem_zeros hx
      · exact hdigits x hx
    · rename_i hpositive
      obtain ⟨n, hn⟩ : ∃ n, place.toNat = n + 1 := ⟨place.toNat - 1, by omega⟩
      refine ⟨⟨c, _, by rw [hn]; rfl, fun h => absurd h hc⟩, ?_, ?_, ?_⟩
      · intro x hx
        rcases List.mem_append.1 hx with hx | hx
        · exact hdigits x (List.mem_of_mem_take hx)
        · exact isDigit_of_mem_zeros hx
      · intro x hx
        dsimp only at hx
        split at hx
        · exact (List.mem_singleton.1 hx) ▸ hzero
        · exact hdigits x (List.mem_of_mem_drop hx)
      · dsimp only
        split
        · simp
        · rename_i hlen
          rw [List.drop_eq_nil_iff]
          exact fun h => absurd h hlen
  · refine ⟨⟨c, [], rfl, fun _ => rfl⟩, ?_, ?_, by simp⟩
    · exact fun x hx => hdigits x (List.mem_of_mem_take hx)
    · exact fun x hx => hdigits x (List.mem_of_mem_tail hx)

/-- A layout adds zeros at most, and accounts for them. -/
theorem Layout.digits_spelling (layout : Layout) {ds : List Char} (hds : ds ≠ []) (place : Int) :
    ∃ front back : Nat,
      (layout.spelling ds place).parts.whole ++ (layout.spelling ds place).parts.fraction =
        List.replicate front 0 ++ (digitValues ds ++ List.replicate back 0) ∧
      (layout.spelling ds place).parts.exponent -
          ((layout.spelling ds place).parts.fraction.length : Int) =
        place - ds.length - back := by
  rw [spelling]
  split
  · split
    · refine ⟨1 + (-place).toNat, 0, ?_, ?_⟩
      · simp only [Spelling.parts, digitValues_append, digitValues_zeros, List.replicate_add,
          List.replicate_zero, List.append_nil, List.append_assoc]
        rfl
      · simp only [Spelling.parts, Option.getD_none, length_digitValues, List.length_append,
          List.length_replicate]
        omega
    · by_cases hlen : ds.length ≤ place.toNat
      · refine ⟨0, place.toNat - ds.length + 1, ?_, ?_⟩
        · simp only [Spelling.parts, if_pos hlen, List.take_of_length_le hlen, digitValues_append,
            digitValues_zeros, List.replicate_succ', List.replicate_zero, List.nil_append,
            List.append_assoc]
          rfl
        · simp only [Spelling.parts, if_pos hlen, Option.getD_none, length_digitValues,
            List.length_singleton]
          omega
      · refine ⟨0, 0, ?_, ?_⟩
        · have hnone : place.toNat - ds.length = 0 := by omega
          simp [Spelling.parts, hlen, hnone, ← digitValues_append]
        · simp only [Spelling.parts, if_neg hlen, Option.getD_none, length_digitValues,
            List.length_drop]
          omega
  · obtain ⟨c, rest, rfl⟩ := List.exists_cons_of_ne_nil hds
    refine ⟨0, 0, ?_, ?_⟩
    · simp [Spelling.parts, ← digitValues_append]
    · simp only [Spelling.parts, Option.getD_some, length_digitValues, List.tail_cons,
        List.length_cons]
      omega

/-- Powers of ten may be moved from the exponent of a decimal to its significand. -/
theorem ofRatio_shift (negative : Bool) (n k : Nat) (e : Int) :
    ofRatio negative (n * 10 ^ k * tenTo (e - k).toNat) (tenTo (-(e - k)).toNat) =
      ofRatio negative (n * tenTo e.toNat) (tenTo (-e).toNat) := by
  have hten : 10 ^ k * 10 ^ (e - k).toNat * 10 ^ (-e).toNat =
      10 ^ e.toNat * 10 ^ (-(e - k)).toNat := by
    rw [← Nat.pow_add, ← Nat.pow_add, ← Nat.pow_add]
    congr 1
    omega
  refine congrArg (ofCode negative) (nearestCode_of_eq (tenTo_pos _) (tenTo_pos _) ?_)
  simp only [tenTo_eq]
  calc
    n * 10 ^ k * 10 ^ (e - k).toNat * unitsPerOne * 10 ^ (-e).toNat =
        n * unitsPerOne * (10 ^ k * 10 ^ (e - k).toNat * 10 ^ (-e).toNat) := by ring
    _ = n * 10 ^ e.toNat * unitsPerOne * 10 ^ (-(e - k)).toNat := by
      rw [hten]
      ring

/-- Zeros around the digits of a numeral that its exponent accounts for do not change its value. -/
theorem Real.Parts.number_of_digits {p : Real.Parts} (negative : Bool) {ds : List Nat}
    {front back : Nat} {e : Int} (hds : ds ≠ []) (hhead : ds.head? ≠ some 0)
    (hall : p.whole ++ p.fraction = List.replicate front 0 ++ (ds ++ List.replicate back 0))
    (hexp : p.exponent - (p.fraction.length : Int) = e - back)
    (hlow : -330 ≤ (ds.length : Int) + e) (hhigh : (ds.length : Int) + e ≤ 310) :
    p.number negative =
      .ofRatio negative (ofDigits ds * tenTo e.toNat) (tenTo (-e).toNat) := by
  obtain ⟨d, rest, rfl⟩ := List.exists_cons_of_ne_nil hds
  have hd : ¬d = 0 := by simpa using hhead
  have hdrop : (p.whole ++ p.fraction).dropWhile (· = 0) = d :: rest ++ List.replicate back 0 := by
    rw [hall, List.dropWhile_append_of_pos (by simp)]
    simp [hd]
  have hlength : ((d :: rest ++ List.replicate back 0).length : Int) =
      (d :: rest).length + back := by
    rw [List.length_append, List.length_replicate, Nat.cast_add]
  rw [number, hdrop, hexp, hlength, if_neg, if_neg, ofDigits_append_zeros, ofRatio_shift]
  · omega
  · rintro (h | h)
    · cases h
    · omega

theorem significantDigits_ne_nil {n : Nat} (h : 0 < n) :
    significantDigits n ≠ [] ∧ (significantDigits n).head? ≠ some '0' := by
  obtain ⟨k, hk⟩ := digits_eq_significantDigits n
  have hhead := head?_digits h
  rw [hk] at hhead
  have hne : significantDigits n ≠ [] := by
    intro hnil
    have hlength := length_digits_pos n
    rw [hk, hnil] at hlength
    rw [hnil] at hhead
    cases k with
    | zero => simp at hlength
    | succ k => simp [List.replicate_succ] at hhead
  rw [List.head?_append_of_ne_nil _ hne] at hhead
  exact ⟨hne, hhead⟩

theorem isDigit_of_mem_significantDigits {n : Nat} {c : Char} (h : c ∈ significantDigits n) :
    c.isDigit = true := by
  obtain ⟨k, hk⟩ := digits_eq_significantDigits n
  exact isDigit_of_mem_digits (hk ▸ List.mem_append_left _ h)

namespace Decimal

/-- The significant digits of a decimal, laid out around its point. -/
def spelling (d : Decimal) : Spelling :=
  standardLayout.spelling (significantDigits d.significand)
    ((digits d.significand).length + d.exponent)

/-- Whatever the layout, a decimal is read as the number that it rounds to. -/
theorem number_spelling {d : Decimal} (negative : Bool) (hzero : d.code ≠ 0)
    (hfinite : d.code < magnitudes) :
    d.spelling.parts.number negative = .finite negative ⟨d.code, hfinite⟩ := by
  obtain ⟨hds, hhead⟩ := significantDigits_ne_nil (significand_pos hzero)
  obtain ⟨hlow, hhigh⟩ := place_bounds hzero hfinite
  obtain ⟨k, hk⟩ := digits_eq_significantDigits d.significand
  obtain ⟨front, back, hall, hexp⟩ :=
    standardLayout.digits_spelling hds ((digits d.significand).length + d.exponent)
  have hlength : ((digits d.significand).length : Int) =
      (digitValues (significantDigits d.significand)).length + k := by
    rw [hk, List.length_append, List.length_replicate, length_digitValues, Nat.cast_add]
  have hvalue : ofDigits (digitValues (significantDigits d.significand)) * 10 ^ k =
      d.significand := by
    rw [← ofDigits_append_zeros, ← digitValues_zeros, ← digitValues_append, ← hk]
    exact ofDigits_digits d.significand
  have hne : digitValues (significantDigits d.significand) ≠ [] := mt digitValues_eq_nil.1 hds
  have hvalues : (digitValues (significantDigits d.significand)).head? ≠ some 0 :=
    head?_digitValues (fun _ => isDigit_of_mem_significantDigits) hhead
  have hread : d.spelling.parts.number negative = .ofRatio negative
      (ofDigits (digitValues (significantDigits d.significand)) * tenTo (d.exponent + k).toNat)
      (tenTo (-(d.exponent + k)).toNat) := by
    rw [length_digitValues] at hlength
    refine Real.Parts.number_of_digits negative hne hvalues hall ?_ ?_ ?_
    · exact hexp.trans (by omega)
    · rw [length_digitValues]
      omega
    · rw [length_digitValues]
      omega
  have hround : ofRatio negative (d.significand * tenTo d.exponent.toNat)
      (tenTo (-d.exponent).toNat) = ofCode negative d.code := by
    rw [ofRatio, Decimal.code, ratio]
  rw [hread, ← ofRatio_shift negative _ k, hvalue, Int.add_sub_cancel, hround, ofCode,
    dif_pos hfinite]

end Decimal

/-- The numeral of a magnitude. -/
def magnitudeSpelling (code : Nat) : Spelling :=
  if code = 0 then ⟨['0'], ['0'], none⟩ else (Decimal.shortest code).spelling

section
variable {code : Nat}

theorem magnitudeText_eq_text (code : Nat) :
    magnitudeText code = (magnitudeSpelling code).text 2 := by
  rw [magnitudeText, magnitudeSpelling]
  split
  · rfl
  · rename_i h
    have hpos := Decimal.significand_pos ((Decimal.code_shortest code).symm ▸ h)
    exact standardLayout.render_eq_text (significantDigits_ne_nil hpos).1 _

theorem isReal_magnitudeSpelling (code : Nat) : (magnitudeSpelling code).IsReal := by
  rw [magnitudeSpelling]
  split
  · have hzero : ∀ c ∈ ['0'], c.isDigit = true := List.forall_mem_singleton.2 rfl
    exact ⟨⟨'0', [], rfl, fun _ => rfl⟩, hzero, hzero, by decide⟩
  · rename_i h
    have hpos := Decimal.significand_pos ((Decimal.code_shortest code).symm ▸ h)
    obtain ⟨hne, hhead⟩ := significantDigits_ne_nil hpos
    exact standardLayout.isReal_spelling hne (fun _ => isDigit_of_mem_significantDigits) hhead _

/-- The numeral of a magnitude is read as the magnitude. -/
theorem number_magnitudeSpelling (negative : Bool) (h : code < magnitudes) :
    (magnitudeSpelling code).parts.number negative = .finite negative ⟨code, h⟩ := by
  rw [magnitudeSpelling]
  split
  · rename_i hzero
    subst hzero
    rfl
  · rename_i hne
    have hcode := Decimal.code_shortest code
    rw [Decimal.number_spelling negative (by rwa [hcode]) (by rwa [hcode])]
    simp only [hcode]

end

end FleetWarden.Numeral
