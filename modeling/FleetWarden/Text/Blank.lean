import FleetWarden.Text.Span

/-!
# Blank characters and trimming

A text is blank when nothing is left after trimming. `trim_eq_empty_iff` says that trimming empties
exactly the texts made of blank characters.

## Implementation notes

Two classes are in use. Names and identifiers are trimmed of every blank character; numerals
are trimmed of the blanks that a number may carry around it, which leaves out the four separator
controls U+001C to U+001F.
-/

namespace FleetWarden.Text

/-- Spaces, line ends and separators, controls included. -/
def blankSpans : List Span :=
  [(0x0009, 0x000D), (0x001C, 0x0020), (0x0085, 0x0085), (0x00A0, 0x00A0), (0x1680, 0x1680),
   (0x2000, 0x200A), (0x2028, 0x2029), (0x202F, 0x202F), (0x205F, 0x205F), (0x3000, 0x3000)]

def isBlank (c : Char) : Bool := inSpans blankSpans c

/-- The blanks that may surround a numeral. -/
def isNumeralBlank (c : Char) : Bool := isBlank c && !(0x1C ≤ c.toNat && c.toNat ≤ 0x1F)

section Trimming
variable (p : Char → Bool)

/-- The characters between the first and the last one outside the class. -/
def trimBy (cs : List Char) : List Char :=
  ((cs.dropWhile p).reverse.dropWhile p).reverse

theorem dropWhile_eq_nil {cs : List Char} : cs.dropWhile p = [] ↔ ∀ c ∈ cs, p c = true := by
  induction cs with
  | nil => simp
  | cons c rest ih =>
      by_cases h : p c = true
      · simp [List.dropWhile, h, ih]
      · simp [List.dropWhile, h]

theorem not_of_dropWhile_cons {cs : List Char} {c : Char} {rest : List Char}
    (h : cs.dropWhile p = c :: rest) : p c = false := by
  induction cs with
  | nil => simp at h
  | cons d ds ih =>
      by_cases hd : p d = true
      · exact ih (by simpa [List.dropWhile, hd] using h)
      · simp only [List.dropWhile, Bool.not_eq_true] at h hd
        simp only [hd] at h
        exact (List.cons.inj h).1 ▸ hd

theorem trimBy_eq_nil {cs : List Char} : trimBy p cs = [] ↔ ∀ c ∈ cs, p c = true := by
  constructor
  · intro h
    have h' : (cs.dropWhile p).reverse.dropWhile p = [] := by
      simpa only [trimBy, List.reverse_eq_nil_iff] using h
    have hall : ∀ c ∈ cs.dropWhile p, p c = true := by
      simpa only [dropWhile_eq_nil, List.mem_reverse] using h'
    cases hd : cs.dropWhile p with
    | nil => exact (dropWhile_eq_nil p).1 hd
    | cons c rest =>
        have := hall c (by simp [hd])
        simp [not_of_dropWhile_cons p hd] at this
  · intro h
    simp [trimBy, (dropWhile_eq_nil p).2 h]

end Trimming

/-- A text without its surrounding blanks. -/
def trim (s : String) : String := String.ofList (trimBy isBlank s.toList)

/-- Whether a text consists of blanks only. -/
def blank (s : String) : Bool := s.toList.all isBlank

theorem trim_eq_empty_iff {s : String} : trim s = "" ↔ blank s = true := by
  rw [trim, String.ofList_eq_empty_iff, trimBy_eq_nil, blank, List.all_eq_true]

end FleetWarden.Text
