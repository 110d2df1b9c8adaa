import FleetWarden.Text.Blank
import FleetWarden.Text.Case

/-!
# Small forms of characters

What the case table comes to for one character. The small forms of a run are a run again, and no
run of capitals meets one of these, so a small form is its own small form. Blanks have no case, and
among the characters outside ASCII only the Kelvin sign has a small form in ASCII.

## Implementation notes

That runs stay apart is a finite check on the table, made on the ends of the runs: going through
their code points would take the kernel much longer. Runs that lie across each other go in steps of
two, and then the parity keeps them apart.
-/

namespace FleetWarden.Text

variable {run other : CaseRun} {n : Nat} {c : Char}

namespace CaseRun

theorem covers_iff : run.covers n = true ↔
    run.first ≤ n ∧ n ≤ run.last ∧ (n - run.first) % run.stride = 0 := by
  simp only [covers, Bool.and_eq_true, decide_eq_true_eq, beq_iff_eq, and_assoc]

/-- The small forms of a run. -/
def smallForms (run : CaseRun) : CaseRun where
  first := (run.first + run.offset).toNat
  last := (run.last + run.offset).toNat
  stride := run.stride
  offset := 0

theorem covers_smallForms (hoffset : 0 ≤ run.first + run.offset) (hn : run.covers n = true) :
    run.smallForms.covers (n + run.offset).toNat = true := by
  obtain ⟨hfirst, hlast, hstep⟩ := covers_iff.1 hn
  have hdistance : (n + run.offset).toNat - (run.first + run.offset).toNat = n - run.first := by
    omega
  apply covers_iff.2
  refine ⟨?_, ?_, ?_⟩
  · change (run.first + run.offset).toNat ≤ (n + run.offset).toNat
    omega
  · change (n + run.offset).toNat ≤ (run.last + run.offset).toNat
    omega
  · change ((n + run.offset).toNat - (run.first + run.offset).toNat) % run.stride = 0
    rw [hdistance, hstep]

/-- Whether the ends of two runs, or the parity of what they cover, show that they do not meet. -/
def isApart (run other : CaseRun) : Bool :=
  Nat.blt other.last run.first || Nat.blt run.last other.first ||
    ((Nat.beq run.stride 2 || Nat.beq run.first run.last) && Nat.beq other.stride 2 &&
      !Nat.beq ((run.first + other.first) % 2) 0)

theorem covers_of_isApart (hapart : run.isApart other = true) (hn : run.covers n = true) :
    other.covers n = false := by
  obtain ⟨hfirst, hlast, hstep⟩ := covers_iff.1 hn
  rw [← Bool.not_eq_true, covers_iff]
  rintro ⟨hfirst', hlast', hstep'⟩
  simp only [isApart, Bool.or_eq_true, Bool.and_eq_true, Nat.blt_eq, Nat.beq_eq,
    Bool.not_eq_true', ← Bool.not_eq_true (Nat.beq _ _)] at hapart
  obtain (hbefore | hafter) | ⟨⟨hrun, hother⟩, hparity⟩ := hapart
  · omega
  · omega
  · rw [hother] at hstep'
    cases hrun with
    | inl hrun => rw [hrun] at hstep; omega
    | inr hrun => omega

/-- Whether a run lies before or after a span. -/
def outside (run : CaseRun) (s : Span) : Bool := Nat.blt run.last s.1 || Nat.blt s.2 run.first

theorem inSpans_of_outside {spans : List Span} (houtside : ∀ s ∈ spans, run.outside s = true)
    (hc : run.covers c.toNat = true) : inSpans spans c = false := by
  obtain ⟨hfirst, hlast, -⟩ := covers_iff.1 hc
  rw [← Bool.not_eq_true, inSpans_iff]
  rintro ⟨s, hs, hlow, hhigh⟩
  have h := houtside s hs
  simp only [outside, Bool.or_eq_true, Nat.blt_eq] at h
  omega

end CaseRun

/-- The run of the capitals of ASCII. -/
def asciiRun : CaseRun := ⟨0x0041, 0x005A, 1, 32⟩

/-- What is checked about one run of the table. -/
structure CaseRun.IsRegular (run : CaseRun) : Prop where
  offset_le : 0 ≤ run.first + run.offset
  valid : run.smallForms.last < 0xD800 ∨
    0xDFFF < run.smallForms.first ∧ run.smallForms.last < 0x110000
  dotted : run.smallForms.last < 0x130 ∨ 0x130 < run.smallForms.first
  blanks : ∀ s ∈ blankSpans, run.outside s = true ∧ run.smallForms.outside s = true
  ascii : run = asciiRun ∨ 0x80 ≤ run.first
  kelvin : run = asciiRun ∨ run.smallForms.first = 0x6B ∧ run.smallForms.last = 0x6B ∨
    0x80 ≤ run.smallForms.first

instance : Decidable run.IsRegular :=
  decidable_of_iff
    (0 ≤ run.first + run.offset ∧
      (run.smallForms.last < 0xD800 ∨
        0xDFFF < run.smallForms.first ∧ run.smallForms.last < 0x110000) ∧
      (run.smallForms.last < 0x130 ∨ 0x130 < run.smallForms.first) ∧
      (∀ s ∈ blankSpans, run.outside s = true ∧ run.smallForms.outside s = true) ∧
      (run = asciiRun ∨ 0x80 ≤ run.first) ∧
      (run = asciiRun ∨ run.smallForms.first = 0x6B ∧ run.smallForms.last = 0x6B ∨
        0x80 ≤ run.smallForms.first))
    ⟨fun ⟨h₁, h₂, h₃, h₄, h₅, h₆⟩ => ⟨h₁, h₂, h₃, h₄, h₅, h₆⟩,
      fun ⟨h₁, h₂, h₃, h₄, h₅, h₆⟩ => ⟨h₁, h₂, h₃, h₄, h₅, h₆⟩⟩

theorem isRegular_of_mem : ∀ run ∈ caseRuns, run.IsRegular := by decide +kernel

theorem all_smallForms_isApart :
    (caseRuns.all fun run => caseRuns.all run.smallForms.isApart) = true := by
  decide +kernel

/-- No run of the table covers a small form. -/
theorem covers_smallForm (hrun : run ∈ caseRuns) (hn : run.covers n = true)
    (hother : other ∈ caseRuns) : other.covers (n + run.offset).toNat = false := by
  have hall := List.all_eq_true.1 all_smallForms_isApart run hrun
  apply CaseRun.covers_of_isApart (List.all_eq_true.1 hall other hother)
  exact CaseRun.covers_smallForms (isRegular_of_mem run hrun).offset_le hn

theorem toNat_ofNat {n : Nat} (h : n.isValidChar) : (Char.ofNat n).toNat = n := by
  rw [Char.ofNat, dif_pos h]
  rfl

/-- The code of a small form lies in the run of the small forms. -/
theorem toNat_smallForm (hrun : run ∈ caseRuns) (hn : run.covers n = true) :
    (Char.ofNat (n + run.offset).toNat).toNat = (n + run.offset).toNat := by
  have hregular := isRegular_of_mem run hrun
  obtain ⟨hfirst, hlast, -⟩ :=
    CaseRun.covers_iff.1 (CaseRun.covers_smallForms hregular.offset_le hn)
  apply toNat_ofNat
  obtain hlow | ⟨hlow, hhigh⟩ := hregular.valid
  · exact Or.inl (by omega)
  · exact Or.inr (by omega)

theorem small_cases (c : Char) :
    (∀ run ∈ caseRuns, run.covers c.toNat = false) ∧ small c = c ∨
      ∃ run ∈ caseRuns, run.covers c.toNat = true ∧
        small c = Char.ofNat (c.toNat + run.offset).toNat := by
  by_cases hascii : c.toNat < 0x80
  · by_cases hcapital : 'A' ≤ c ∧ c ≤ 'Z'
    · have hfirst : 0x41 ≤ c.toNat := hcapital.1
      have hlast : c.toNat ≤ 0x5A := hcapital.2
      refine Or.inr ⟨asciiRun, List.mem_cons_self, ?_, ?_⟩
      · exact CaseRun.covers_iff.2 ⟨hfirst, hlast, Nat.mod_one _⟩
      · rw [small, if_pos hascii, if_pos hcapital]
        rfl
    · refine Or.inl ⟨?_, ?_⟩
      · intro run hrun
        rw [← Bool.not_eq_true, CaseRun.covers_iff]
        rintro ⟨hfirst, hlast, -⟩
        obtain rfl | hbeyond := (isRegular_of_mem run hrun).ascii
        · exact hcapital ⟨hfirst, hlast⟩
        · omega
      · rw [small, if_pos hascii, if_neg hcapital]
  · rw [small, if_neg hascii]
    cases hfind : caseRuns.find? (·.covers c.toNat) with
    | none =>
        refine Or.inl ⟨?_, rfl⟩
        intro run hrun
        exact Bool.not_eq_true _ ▸ List.find?_eq_none.1 hfind run hrun
    | some run =>
        have hcovers : run.covers c.toNat = true :=
          List.find?_some (p := fun run => CaseRun.covers run c.toNat) hfind
        exact Or.inr ⟨run, List.mem_of_find?_eq_some hfind, hcovers, rfl⟩

/-- A character that lower-casing leaves alone wherever it stands. -/
def IsSmall (c : Char) : Prop := c ≠ 'İ' ∧ ∀ run ∈ caseRuns, run.covers c.toNat = false

instance : DecidablePred IsSmall := fun _ => inferInstanceAs (Decidable (_ ∧ _))

theorem IsSmall.small_eq (h : IsSmall c) : small c = c := by
  obtain ⟨-, hsmall⟩ | ⟨run, hrun, hcovers, -⟩ := small_cases c
  · exact hsmall
  · rw [h.2 run hrun] at hcovers
    cases hcovers

theorem isSmall_small (hc : c ≠ 'İ') : IsSmall (small c) := by
  obtain ⟨hcovers, hsmall⟩ | ⟨run, hrun, hcovers, hsmall⟩ := small_cases c
  · rw [hsmall]
    exact ⟨hc, hcovers⟩
  · have hregular := isRegular_of_mem run hrun
    obtain ⟨hfirst, hlast, -⟩ :=
      CaseRun.covers_iff.1 (CaseRun.covers_smallForms hregular.offset_le hcovers)
    rw [hsmall]
    constructor
    · intro hdotted
      have hcode := toNat_smallForm hrun hcovers
      rw [hdotted] at hcode
      change 0x130 = _ at hcode
      obtain hlow | hhigh := hregular.dotted <;> omega
    · intro other hother
      rw [toNat_smallForm hrun hcovers]
      exact covers_smallForm hrun hcovers hother

/-- Neither a capital nor a small form is blank. -/
theorem isBlank_small (c : Char) : isBlank (small c) = isBlank c := by
  obtain ⟨-, hsmall⟩ | ⟨run, hrun, hcovers, hsmall⟩ := small_cases c
  · rw [hsmall]
  · have hregular := isRegular_of_mem run hrun
    have hcode : run.smallForms.covers (small c).toNat = true := by
      rw [hsmall, toNat_smallForm hrun hcovers]
      exact CaseRun.covers_smallForms hregular.offset_le hcovers
    calc
      isBlank (small c) = false :=
        CaseRun.inSpans_of_outside (fun s hs => (hregular.blanks s hs).2) hcode
      _ = isBlank c :=
        (CaseRun.inSpans_of_outside (fun s hs => (hregular.blanks s hs).1) hcovers).symm

section Ascii

theorem toLower_cases (c : Char) :
    c.toLower = c ∨ 0x41 ≤ c.toNat ∧ c.toNat ≤ 0x5A ∧ c.toLower.toNat = c.toNat + 0x20 := by
  by_cases hcapital : c.val ≥ 'A'.val ∧ c.val ≤ 'Z'.val
  · have hfirst : 0x41 ≤ c.toNat := hcapital.1
    have hlast : c.toNat ≤ 0x5A := hcapital.2
    have hform : c.toLower.val = c.val + 32 := congrArg Char.val (dif_pos hcapital)
    refine Or.inr ⟨hfirst, hlast, ?_⟩
    change c.toLower.val.toNat = c.val.toNat + 32
    rw [hform, UInt32.toNat_add]
    change (c.toNat + 32) % 2 ^ 32 = c.toNat + 32
    omega
  · exact Or.inl (dif_neg hcapital)

/-- What does not depend on the case of letters in ASCII does not do so anywhere. -/
theorem apply_toLower {α : Type} (f : Char → α)
    (hascii : ∀ n < 0x80, f (Char.ofNat n).toLower = f (Char.ofNat n)) (c : Char) :
    f c.toLower = f c := by
  obtain hself | ⟨-, hlast, -⟩ := toLower_cases c
  · rw [hself]
  · rw [← Char.ofNat_toNat c]
    exact hascii c.toNat (by omega)

theorem isBlank_toLower (c : Char) : isBlank c.toLower = isBlank c :=
  apply_toLower isBlank (by decide +kernel) c

/-- A context looks through no letter of ASCII, capital or not. -/
theorem isCaseIgnorable_toLower (c : Char) : isCaseIgnorable c.toLower = isCaseIgnorable c := by
  have hspans : ∀ s ∈ caseIgnorableSpans,
      (s.2 < 0x41 ∨ 0x5A < s.1) ∧ (s.2 < 0x61 ∨ 0x7A < s.1) := by decide +kernel
  obtain hself | ⟨hfirst, hlast, hcode⟩ := toLower_cases c
  · rw [hself]
  · apply Bool.eq_iff_iff.2
    constructor
    · intro hsmall
      obtain ⟨s, hs, hlow, hhigh⟩ := inSpans_iff.1 hsmall
      have := (hspans s hs).2
      omega
    · intro hcapital
      obtain ⟨s, hs, hlow, hhigh⟩ := inSpans_iff.1 hcapital
      have := (hspans s hs).1
      omega

/-- Every letter of ASCII is cased, capital or not. -/
theorem isCased_toLower (c : Char) : isCased c.toLower = isCased c := by
  obtain hself | ⟨hfirst, hlast, hcode⟩ := toLower_cases c
  · rw [hself]
  · have hsmall : isCased c.toLower = true :=
      inSpans_iff.2 ⟨(0x61, 0x7A), List.mem_cons_of_mem _ List.mem_cons_self, by omega, by omega⟩
    have hcapital : isCased c = true :=
      inSpans_iff.2 ⟨(0x41, 0x5A), List.mem_cons_self, hfirst, hlast⟩
    rw [hsmall, hcapital]

theorem small_toLower (c : Char) : small c.toLower = small c :=
  apply_toLower small (by decide +kernel) c

theorem small_of_ascii (hc : c.toNat < 0x80) : small c = c.toLower := by
  have hall : ∀ n < 0x80, small (Char.ofNat n) = (Char.ofNat n).toLower := by decide +kernel
  rw [← Char.ofNat_toNat c]
  exact hall c.toNat hc

/-- Besides the letters of ASCII themselves, only the Kelvin sign has a small form in ASCII. -/
theorem toLower_of_small (hascii : (small c).toNat < 0x80) (hkelvin : small c ≠ 'k') :
    c.toLower = small c := by
  by_cases hc : c.toNat < 0x80
  · rw [small_of_ascii hc]
  · obtain ⟨-, hself⟩ | ⟨run, hrun, hcovers, hform⟩ := small_cases c
    · rw [hself] at hascii
      exact absurd hascii hc
    · have hregular := isRegular_of_mem run hrun
      have hcode : (small c).toNat = (c.toNat + run.offset).toNat := by
        rw [hform, toNat_smallForm hrun hcovers]
      obtain ⟨hfirst, hlast, -⟩ := CaseRun.covers_iff.1 hcovers
      obtain ⟨hfirst', hlast', -⟩ :=
        CaseRun.covers_iff.1 (CaseRun.covers_smallForms hregular.offset_le hcovers)
      obtain rfl | ⟨hlow, hhigh⟩ | hbeyond := hregular.kelvin
      · exact absurd (Nat.lt_of_le_of_lt hlast (by decide)) hc
      · have hcode' : (small c).toNat = 0x6B := by omega
        refine absurd ?_ hkelvin
        rw [← Char.ofNat_toNat (small c), hcode']
      · omega

end Ascii

end FleetWarden.Text
