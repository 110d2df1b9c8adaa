import FleetWarden.Proofs.Numeral.ReadBack
import FleetWarden.Proofs.Toml.Texts

/-!
# Numerals read back

The text of a number is a numeral with a point or an exponent, or a word. A document reader takes it
for neither a date nor a time nor a whole number, finds its parts (`decimalNumber?_text`), and so
reads the number that was written (`readScalar_text`).

## Implementation notes

What stands after the digits of a numeral decides what the reader takes them for, so the lemmas are
about digits with a tail that `Breaks` them off.
-/

namespace FleetWarden.Toml

open Numeral Whole

/-- The next character goes on with no digits, date, time or base. -/
def Breaks (tail : List Char) : Prop :=
  ∀ c ∈ tail.head?, c.isDigit = false ∧ c ∉ ['_', '-', ':', 'x', 'o', 'b']

theorem Ends.breaks {rest : List Char} (h : Ends rest) : Breaks rest := by
  intro c hc
  rcases h c hc with rfl | rfl | rfl <;> decide

theorem breaks_cons {c : Char} {tail : List Char} (hdigit : c.isDigit = false)
    (hmem : c ∉ ['_', '-', ':', 'x', 'o', 'b']) : Breaks (c :: tail) := by
  intro d hd
  cases hd
  exact ⟨hdigit, hmem⟩

section
variable {cs tail : List Char}

theorem filterMap_digit? (h : ∀ c ∈ cs, c.isDigit = true) :
    cs.filterMap digit? = digitValues cs := by
  induction cs with
  | nil => rfl
  | cons c cs ih =>
      have hc : digit? c = some (c.toNat - 48) := by rw [digit?, if_pos (h c (by simp))]
      rw [List.filterMap_cons, hc, ih fun d hd => h d (by simp [hd])]
      rfl

theorem hexValue?_of_isDigit {c : Char} (h : c.isDigit = true) :
    hexValue? c = some (c.toNat - 48) := by
  have hrange : '0' ≤ c ∧ c ≤ '9' := by
    rw [Char.isDigit_iff_toNat] at h
    exact h
  rw [hexValue?, if_pos hrange]

theorem filterMap_hexValue? (h : ∀ c ∈ cs, c.isDigit = true) :
    cs.filterMap hexValue? = digitValues cs := by
  induction cs with
  | nil => rfl
  | cons c cs ih =>
      rw [List.filterMap_cons, hexValue?_of_isDigit (h c (by simp)),
        ih fun d hd => h d (by simp [hd])]
      rfl

theorem ofBase_ten (h : ∀ c ∈ cs, c.isDigit = true) :
    ofBase 10 cs = ofDigits (digitValues cs) := by
  rw [ofBase, filterMap_hexValue? h, ofDigits]

/-- A run of digits ends where the digits do. -/
theorem digitRun_append (h : ∀ c ∈ cs, c.isDigit = true) (htail : Breaks tail) :
    digitRun Char.isDigit (cs ++ tail) = (cs, tail) := by
  induction cs with
  | nil =>
      cases tail with
      | nil => rfl
      | cons c tail =>
          obtain ⟨hdigit, hmem⟩ := htail c rfl
          have hc : c ≠ '_' := fun heq => hmem (by simp [heq])
          rw [List.nil_append, digitRun.eq_def]
          simp only [hdigit, hc, if_false, Bool.false_eq_true]
  | cons c cs ih =>
      have hc : c.isDigit = true := h c (by simp)
      rw [List.cons_append, digitRun.eq_def]
      simp only [hc, if_true, ih fun d hd => h d (by simp [hd])]

theorem digitRun?_append (hne : cs ≠ []) (h : ∀ c ∈ cs, c.isDigit = true) (htail : Breaks tail) :
    digitRun? Char.isDigit (cs ++ tail) = some (cs, tail) := by
  obtain ⟨c, cs, rfl⟩ := List.exists_cons_of_ne_nil hne
  have hc : c.isDigit = true := h c (by simp)
  rw [List.cons_append, digitRun?, if_pos hc,
    digitRun_append (fun d hd => h d (by simp [hd])) htail]

/-- So many digits are followed by more digits or by the tail, and so not by a mark of dates and
times. -/
theorem after?_fixedDigits? {n value : Nat} {mark : Char} {rest : List Char}
    (hmark : mark = '-' ∨ mark = ':') (h : ∀ c ∈ cs, c.isDigit = true) (htail : Breaks tail)
    (hfixed : fixedDigits? n (cs ++ tail) = some (value, rest)) : after? mark rest = none := by
  induction n generalizing cs value with
  | zero =>
      cases hfixed
      cases cs with
      | nil =>
          cases tail with
          | nil => rfl
          | cons c tail =>
              have hmem := (htail c rfl).2
              have hc : c ≠ mark := by
                rintro rfl
                rcases hmark with rfl | rfl <;> exact hmem (by decide)
              rw [List.nil_append, after?, if_neg hc]
      | cons c cs =>
          have hc : c ≠ mark := by
            rintro rfl
            have hdigit := h c (by simp)
            rcases hmark with rfl | rfl <;> exact absurd hdigit (by decide)
          rw [List.cons_append, after?, if_neg hc]
  | succ n ih =>
      cases cs with
      | nil =>
          cases tail with
          | nil => cases hfixed
          | cons c tail =>
              have hc : digit? c = none := by simp [digit?, (htail c rfl).1]
              rw [List.nil_append, fixedDigits?, hc] at hfixed
              cases hfixed
      | cons c cs =>
          rw [List.cons_append, fixedDigits?, Option.bind_eq_bind,
            Option.bind_eq_some_iff] at hfixed
          obtain ⟨d, -, hfixed⟩ := hfixed
          rw [Option.bind_eq_bind, Option.bind_eq_some_iff] at hfixed
          obtain ⟨⟨value', rest'⟩, hrec, heq⟩ := hfixed
          cases heq
          exact ih (fun d hd => h d (by simp [hd])) hrec

/-- Digits with a tail are neither a date nor a time. -/
theorem calendar?_digits (h : ∀ c ∈ cs, c.isDigit = true) (htail : Breaks tail) :
    calendar? (cs ++ tail) = none := by
  have hdate : date? (cs ++ tail) = none := by
    rw [date?]
    cases hfixed : fixedDigits? 4 (cs ++ tail) with
    | none => rfl
    | some found =>
        have hafter := after?_fixedDigits? (.inl rfl) h htail hfixed
        simp only [Option.bind_eq_bind, Option.bind_some, hafter, Option.bind_none]
  have htime : time? (cs ++ tail) = none := by
    rw [time?, clock?]
    cases hfixed : fixedDigits? 2 (cs ++ tail) with
    | none => rfl
    | some found =>
        have hafter := after?_fixedDigits? (.inr rfl) h htail hfixed
        simp only [Option.bind_eq_bind, Option.bind_some, hafter, Option.bind_none,
          Option.bind_fun_none]
  rw [calendar?, hdate, htime]

theorem calendar?_minus (tail : List Char) : calendar? ('-' :: tail) = none := rfl

end

section
variable {s : Spelling} {rest : List Char}

theorem isDigit_exponentDigits {width : Nat} {power : Int} {c : Char}
    (h : c ∈ List.replicate (width - (digits power.natAbs).length) '0' ++ digits power.natAbs) :
    c.isDigit = true := by
  rcases List.mem_append.1 h with hzeros | hdigits
  · exact isDigit_of_mem_zeros hzeros
  · exact isDigit_of_mem_digits hdigits

theorem ofBase_exponentDigits (width : Nat) (power : Int) :
    ofBase 10 (List.replicate (width - (digits power.natAbs).length) '0' ++
      digits power.natAbs) = power.natAbs := by
  rw [ofBase_ten fun _ => isDigit_exponentDigits, digitValues_append, digitValues_zeros,
    ofDigits_zeros_append, ofDigits_digits]

/-- An exponent is read back. -/
theorem exponentPart?_exponentText (width : Nat) (power : Int) (h : Breaks rest) :
    exponentPart? (Spelling.exponentText width power ++ rest) = some (power, rest) := by
  have hne : List.replicate (width - (digits power.natAbs).length) '0' ++ digits power.natAbs ≠
      [] := by
    have hlength := length_digits_pos power.natAbs
    intro hnil
    rw [(List.append_eq_nil_iff.1 hnil).2] at hlength
    exact absurd hlength (by decide)
  have hrun := digitRun?_append hne (fun _ => isDigit_exponentDigits) h
  have hvalue := ofBase_exponentDigits width power
  rw [Spelling.exponentText]
  split_ifs with hneg
  · rw [List.cons_append, List.cons_append, exponentPart?, if_pos (.inl rfl), splitSign]
    simp only [hrun, hvalue, if_true, Option.some.injEq, Prod.mk.injEq, and_true]
    omega
  · rw [List.cons_append, List.cons_append, exponentPart?, if_pos (.inl rfl), splitSign]
    simp only [hrun, hvalue, if_false, Bool.false_eq_true, Option.some.injEq, Prod.mk.injEq,
      and_true]
    omega

/-- The exponent of a numeral as it is written. -/
def exponentTail (s : Spelling) : List Char :=
  (s.exponent.map (Spelling.exponentText 2)).getD []

theorem exponentPart?_exponentTail (h : Ends rest) :
    exponentPart? (exponentTail s ++ rest) = s.exponent.map (·, rest) := by
  rw [exponentTail]
  cases s.exponent with
  | none =>
      cases rest with
      | nil => rfl
      | cons c rest =>
          have hc : ¬(c = 'e' ∨ c = 'E') := by
            rcases h c rfl with rfl | rfl | rfl <;> decide
          rw [Option.map_none, Option.getD_none, List.nil_append, exponentPart?, if_neg hc]
          rfl
  | some power => exact exponentPart?_exponentText 2 power h.breaks

theorem breaks_exponentTail (h : Ends rest) : Breaks (exponentTail s ++ rest) := by
  rw [exponentTail]
  cases s.exponent with
  | none => exact h.breaks
  | some power => exact breaks_cons rfl (by decide)

theorem breaks_pointText (h : Ends rest) :
    Breaks (Spelling.pointText s.fraction ++ (exponentTail s ++ rest)) := by
  cases s.fraction with
  | nil => exact breaks_exponentTail h
  | cons c ds => exact breaks_cons rfl (by decide)

/-- The digits after the point are read back. -/
theorem fractionPart_pointText (hs : s.IsReal) (h : Ends rest) :
    fractionPart (Spelling.pointText s.fraction ++ (exponentTail s ++ rest)) =
      (s.fraction, exponentTail s ++ rest) := by
  have hdigits := hs.fraction_digits
  cases hfraction : s.fraction with
  | nil =>
      obtain ⟨power, hpower⟩ := Option.ne_none_iff_exists'.1 (hs.marked hfraction)
      have htail : exponentTail s ++ rest = 'e' :: ((exponentTail s).tail ++ rest) := by
        rw [exponentTail, hpower]
        rfl
      rw [Spelling.pointText, List.nil_append, htail]
      rfl
  | cons c ds =>
      rw [hfraction] at hdigits
      have hrun : digitRun? Char.isDigit (c :: ds ++ (exponentTail s ++ rest)) = _ :=
        digitRun?_append (List.cons_ne_nil c ds) hdigits (breaks_exponentTail h)
      rw [Spelling.pointText, List.cons_append, fractionPart, after?, if_pos rfl, Option.bind_some,
        hrun]

theorem wholePart?_append {tail : List Char} (hs : s.IsReal) (h : Breaks tail) :
    wholePart? (s.whole ++ tail) = some (s.whole, tail) := by
  obtain ⟨c, ds, hwhole, hzero⟩ := hs.whole
  have hdigits := hs.whole_digits
  rw [hwhole] at hdigits ⊢
  rw [List.cons_append, wholePart?]
  by_cases hc : c = '0'
  · rw [if_pos hc, hzero hc]
    rfl
  · rw [if_neg hc, if_pos (hdigits c (by simp)),
      digitRun_append (fun d hd => hdigits d (by simp [hd])) h]

theorem basedNumber?_append {tail : List Char} (hs : s.IsReal) (h : Breaks tail) :
    basedNumber? (s.whole ++ tail) = none := by
  obtain ⟨c, ds, hwhole, hzero⟩ := hs.whole
  rw [hwhole, List.cons_append]
  by_cases hc : c = '0'
  · rw [hzero hc, hc, List.nil_append]
    cases tail with
    | nil => rfl
    | cons d tail =>
        have hbase : base? d = none := by
          have hmem := (h d rfl).2
          simp only [List.mem_cons, not_or] at hmem
          simp [base?, hmem]
        rw [basedNumber?, hbase]
        rfl
  · refine basedNumber?.eq_2 _ fun d rest heq => ?_
    exact hc (List.cons.inj heq).1

/-- The sign of a number. -/
def signText (negative : Bool) : List Char := if negative then ['-'] else []

theorem splitSign_signText (negative : Bool) (hs : s.IsReal) (tail : List Char) :
    splitSign (signText negative ++ (s.whole ++ tail)) = (negative, s.whole ++ tail) := by
  obtain ⟨c, ds, hwhole, -⟩ := hs.whole
  have hc : c.isDigit = true := hs.whole_digits c (by simp [hwhole])
  cases negative with
  | true => rfl
  | false =>
      rw [signText, hwhole]
      refine splitSign.eq_3 _ (fun more heq => ?_) fun more heq => ?_
      all_goals
        rw [(List.cons.inj heq).1] at hc
        exact absurd hc (by decide)

theorem append_text (s : Spelling) (rest : List Char) :
    s.text 2 ++ rest =
      s.whole ++ (Spelling.pointText s.fraction ++ (exponentTail s ++ rest)) := by
  rw [Spelling.text, List.append_assoc, List.append_assoc]
  rfl

/-- A numeral is read back in its parts. -/
theorem decimalNumber?_text (negative : Bool) (hs : s.IsReal) (h : Ends rest) :
    decimalNumber? (signText negative ++ (s.text 2 ++ rest)) =
      some (.ok (.float (s.parts.number negative), rest)) := by
  have hreal : realNumber negative s.whole s.fraction (s.exponent.getD 0) =
      .float (s.parts.number negative) := by
    rw [realNumber, filterMap_digit? hs.whole_digits, filterMap_digit? hs.fraction_digits,
      Spelling.parts]
  rw [append_text, decimalNumber?, splitSign_signText negative hs]
  simp only [wholePart?_append hs (breaks_pointText h), Option.bind_eq_bind, Option.bind_some,
    fractionPart_pointText hs h, exponentPart?_exponentTail h, ← hreal]
  cases hexponent : s.exponent with
  | none =>
      have hfraction : s.fraction ≠ [] := fun hnil => hs.marked hnil hexponent
      have htail : exponentTail s = [] := by rw [exponentTail, hexponent]; rfl
      simp only [Option.map_none, if_neg hfraction, htail, List.nil_append, Option.getD_none]
  | some power => simp only [Option.map_some, Option.getD_some]

/-- A numeral is read back as a number. -/
theorem readScalar_text (negative : Bool) (hs : s.IsReal) (h : Ends rest) :
    readScalar (signText negative ++ (s.text 2 ++ rest)) =
      .ok (.float (s.parts.number negative), rest) := by
  have hbreaks := breaks_pointText (s := s) h
  have hcalendar : calendar? (signText negative ++ (s.text 2 ++ rest)) = none := by
    cases negative with
    | true => exact calendar?_minus _
    | false =>
        change calendar? (s.text 2 ++ rest) = none
        rw [append_text]
        exact calendar?_digits hs.whole_digits hbreaks
  have hbased : basedNumber? (signText negative ++ (s.text 2 ++ rest)) = none := by
    cases negative with
    | true => rfl
    | false =>
        change basedNumber? (s.text 2 ++ rest) = none
        rw [append_text]
        exact basedNumber?_append hs hbreaks
  rw [readScalar, hcalendar, hbased, decimalNumber?_text negative hs h]

end

section
variable {rest : List Char}

theorem readScalar_nan (rest : List Char) :
    readScalar ('n' :: 'a' :: 'n' :: rest) = .ok (.float .nan, rest) := rfl

theorem readScalar_infinite (negative : Bool) (rest : List Char) :
    readScalar (signText negative ++ ('i' :: 'n' :: 'f' :: rest)) =
      .ok (.float (.infinite negative), rest) := by
  cases negative <;> rfl

/-- The text of a number is read back as the number. -/
theorem readScalar_float (x : Binary64) (h : Ends rest) :
    readScalar (x.text.toList ++ rest) = .ok (.float x, rest) := by
  cases x with
  | nan => exact readScalar_nan rest
  | infinite negative =>
      cases negative with
      | true => exact readScalar_infinite true rest
      | false => exact readScalar_infinite false rest
  | finite negative code =>
      rw [Binary64.text, String.toList_ofList, List.append_assoc, magnitudeText_eq_text]
      have hread := readScalar_text negative (isReal_magnitudeSpelling code.val) h
      rwa [number_magnitudeSpelling negative code.isLt] at hread

theorem isDigit_or_mem_of_mem_text {s : Spelling} (hs : s.IsReal) {c : Char} (h : c ∈ s.text 2) :
    c.isDigit = true ∨ c ∈ ['.', 'e', '+', '-'] := by
  rw [Spelling.text, List.mem_append, List.mem_append] at h
  rcases h with hwhole | hpoint | hexponent
  · exact .inl (hs.whole_digits c hwhole)
  · have hdigits := hs.fraction_digits
    cases hfraction : s.fraction with
    | nil => simp [hfraction, Spelling.pointText] at hpoint
    | cons d ds =>
        rw [hfraction] at hpoint hdigits
        rcases List.mem_cons.1 hpoint with rfl | hds
        · exact .inr (by decide)
        · exact .inl (hdigits c hds)
  · cases hpower : s.exponent with
    | none => simp [hpower] at hexponent
    | some power =>
        rw [hpower, Option.map_some, Option.getD_some, Spelling.exponentText] at hexponent
        rcases List.mem_cons.1 hexponent with rfl | hsign
        · exact .inr (by decide)
        · rcases List.mem_cons.1 hsign with hsign | hdigits
          · split_ifs at hsign <;> exact .inr (by simp [hsign])
          · exact .inl (isDigit_exponentDigits hdigits)

/-- The characters of the text of a number. -/
theorem isDigit_or_mem_of_mem_float {x : Binary64} {c : Char} (h : c ∈ x.text.toList) :
    c.isDigit = true ∨ c ∈ ['.', 'e', '+', '-', 'n', 'a', 'i', 'f'] := by
  cases x with
  | nan => exact .inr ((by decide : "nan".toList ⊆ _) h)
  | infinite negative =>
      cases negative with
      | true => exact .inr ((by decide : "-inf".toList ⊆ _) h)
      | false => exact .inr ((by decide : "inf".toList ⊆ _) h)
  | finite negative code =>
      rw [Binary64.text, String.toList_ofList, magnitudeText_eq_text, List.mem_append] at h
      rcases h with hsign | htext
      · split_ifs at hsign
        · exact .inr (by simp [List.mem_singleton.1 hsign])
        · cases hsign
      · refine (isDigit_or_mem_of_mem_text (isReal_magnitudeSpelling code.val) htext).imp_right ?_
        exact fun hmem => List.mem_append_left ['n', 'a', 'i', 'f'] hmem

/-- The text of a number begins with a sign, a digit or a word. -/
theorem text_eq_cons (x : Binary64) :
    ∃ c more, x.text.toList = c :: more ∧ (c.isDigit = true ∨ c ∈ ['-', 'i', 'n']) := by
  cases x with
  | nan => exact ⟨_, _, rfl, .inr (by decide)⟩
  | infinite negative => cases negative <;> exact ⟨_, _, rfl, .inr (by decide)⟩
  | finite negative code =>
      rw [Binary64.text, String.toList_ofList, magnitudeText_eq_text]
      cases negative with
      | true => exact ⟨_, _, rfl, .inr (by decide)⟩
      | false =>
          have hs := isReal_magnitudeSpelling code.val
          obtain ⟨c, ds, hwhole, -⟩ := hs.whole
          have hc : c.isDigit = true := hs.whole_digits c (by simp [hwhole])
          rw [Spelling.text, hwhole]
          exact ⟨c, _, rfl, .inl hc⟩

end

end FleetWarden.Toml
