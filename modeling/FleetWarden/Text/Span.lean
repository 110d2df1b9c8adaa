/-!
# Spans of code points

Properties of characters are tables of spans. `inSpans_iff` says that a lookup is membership in
one of the spans, so tables can be compared span by span.
-/

namespace FleetWarden.Text

/-- The first and the last code point of a run. -/
abbrev Span := Nat × Nat

/-- Whether a character lies in one of the spans. -/
def inSpans (spans : List Span) (c : Char) : Bool :=
  spans.any fun s => s.1 ≤ c.toNat && c.toNat ≤ s.2

theorem inSpans_iff {spans : List Span} {c : Char} :
    inSpans spans c = true ↔ ∃ s ∈ spans, s.1 ≤ c.toNat ∧ c.toNat ≤ s.2 := by
  simp [inSpans]

end FleetWarden.Text
